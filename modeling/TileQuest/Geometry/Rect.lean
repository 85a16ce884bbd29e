import TileQuest.Json.Basic

/-!
# Rectangles on the pixel grid

A rectangle has whole coordinates. Made from scalars, each of the four is cut off toward zero;
made from other values, each is read as a whole number.
-/

namespace TileQuest

/-- A rectangle: left edge, upper edge, width and height. -/
structure Rect where
  x : Int := 0
  y : Int := 0
  w : Int := 0
  h : Int := 0
deriving DecidableEq, Inhabited

namespace Rect

/-- The rectangle with the given edges and sizes, cut off to whole numbers. -/
def ofScalars (x y w h : Scalar) : Except Fault Rect := do
  return { x := ← x.trunc, y := ← y.trunc, w := ← w.trunc, h := ← h.trunc }

/-- The rectangle with the given edges and sizes, read as whole numbers. -/
def ofValues (x y w h : Json) : Except Fault Rect := do
  return { x := ← x.toInt, y := ← y.toInt, w := ← w.toInt, h := ← h.toInt }

def corner (r : Rect) (dx dy : Json) : Except Fault (Scalar × Scalar) := do
  let left ← (r.x : Scalar).add (← dx.toScalar)
  let top ← (r.y : Scalar).add (← dy.toScalar)
  return (left, top)

/-- The point lies in the rectangle moved to the corner `(left, top)`, edges included. Only the
edges and coordinates that are needed to decide it are worked out. -/
def spans (r : Rect) (left top : Scalar) (px py : Except Fault Scalar) : Except Fault Bool := do
  if !left.le (← px) then return false
  if !(← px).le (← left.add r.w) then return false
  if !top.le (← py) then return false
  return (← py).le (← top.add r.h)

end Rect

end TileQuest
