import TileQuest.World.Basic

/-!
# Hitboxes in the world

Bodies stop each other; triggers are touched by the player. A body may be where its entity stands
when it touches no solid tile and meets no other body.
-/

namespace TileQuest

namespace Game

def newBody (hitbox : Rect) : Game PartId := do
  let id ← newPart (.body hitbox)
  enlistBody id
  return id

def newTrigger (hitbox : Rect) (form : TriggerForm) : Game PartId := do
  let id ← newPart (.trigger hitbox form)
  enlistTrigger id
  return id

def hitbox (id : PartId) : Game Rect := do orAbsent (← part id).hitbox?

/-- The hitbox of a part, at the place of its entity. -/
def box (id : PartId) : Game Box := do
  let (x, y) ← place id
  Box.place (← hitbox id) x y

def collides (a b : PartId) : Game Bool := do (← box a).meets (← box b)

def meetsCircle (id : PartId) (x y radius : Json) : Game Bool := do
  (← box id).meetsCircle x y radius

def bodiesInCircle (x y radius : Json) : Game (List PartId) := do
  (← get).bodies.filterM fun id => meetsCircle id x y radius

/-- One of the bodies, itself apart, meets the given one. -/
def meetsOther (id : PartId) : List PartId → Game Bool
  | [] => return false
  | other :: rest => do
    if other ≠ id then
      if ← collides other id then return true
    meetsOther id rest

/-- A body may be where its entity stands. -/
def positionIsValid (id : PartId) : Game Bool := do
  let b ← box id
  let map ← currentMap
  if ← map.rectIsSolid b.x b.y (.ofInt b.w) (.ofInt b.h) then return false
  return !(← meetsOther id (← get).bodies)

end Game

end TileQuest
