import TileQuest.Geometry.Rect

/-!
# Boxes in the world

A box is a hitbox put at a place in the world: whole sizes at a scalar position. Two boxes meet
when their insides overlap; a circle is tested against the box centred on its position.
-/

namespace TileQuest

structure Box where
  x : Scalar
  y : Scalar
  w : Int
  h : Int
deriving DecidableEq, Inhabited

namespace Box

def place (hitbox : Rect) (x y : Json) : Except Fault Box := do
  let (left, top) ← hitbox.corner x y
  return { x := left, y := top, w := hitbox.w, h := hitbox.h }

/-- The insides of the two boxes overlap. -/
def meets (a b : Box) : Except Fault Bool := do
  if !a.x.lt (← b.x.add b.w) then return false
  if !b.x.lt (← a.x.add a.w) then return false
  if !a.y.lt (← b.y.add b.h) then return false
  return b.y.lt (← a.y.add a.h)

/-- The circle meets the rectangle of the box's size around the box's position. Beyond the reach of
the circle in one direction there is no contact, within half the size there is, and at a corner the
distance decides. -/
def meetsCircle (b : Box) (cx cy radius : Json) : Except Fault Bool := do
  let across := (← (← cx.toScalar).sub b.x).abs
  let down := (← (← cy.toScalar).sub b.y).abs
  let halfWidth ← (b.w : Scalar).div 2
  let radius ← radius.toScalar
  if (← halfWidth.add radius).lt across then return false
  let halfHeight ← (b.h : Scalar).div 2
  if (← halfHeight.add radius).lt down then return false
  if across.le halfWidth then return true
  if down.le halfHeight then return true
  let corner ← (← (← across.sub halfWidth).square).add (← (← down.sub halfHeight).square)
  return corner.le (← radius.square)

end Box

end TileQuest
