import TileQuest.Play.Usables
import TileQuest.Stage.Scenes

/-!
# Touching triggers

A teleporter loads another area and puts the player somewhere in it. An item on the ground goes
into the player's inventory, as much of it as fits.
-/

namespace TileQuest

namespace Game

/-- Load another area and put its player on a tile, if one is given. -/
def teleport (file column row : Json) : Game Unit := do
  let a ← currentArea
  loadNamed a file
  if column ≠ .null && row ≠ .null then
    let player? ← firstWith? Part.isPlayer (← area a).entities
    let _ ← column.times 32
    moveToTile (← orAbsent player?) column row

/-- Somebody touches an item on the ground. Only a player picks it up. -/
def pickUp (id : PartId) (hitbox : Rect) (item : ItemType) (quantity : Json)
    (other : EntityId) : Game Unit := do
  if ← hasPart other Part.isPlayer then
    let left ← give playerBag item quantity
    playSound "pick_up.mp3"
    let left ← quantity.minus (← quantity.minus left)
    setPart id (.trigger hitbox (.dropped item left))
    if ← left.atMost 0 then
      let e ← owner id
      removeEntity (← currentArea) e

def touch (id : PartId) (other : EntityId) : Game Unit := do
  match ← part id with
  | .trigger hitbox form =>
    match form with
    | .plain => return
    | .teleporter file column row =>
      let column ← column.toInt
      let row ← row.toInt
      teleport file (.ofInt column) (.ofInt row)
    | .dropped item quantity => pickUp id hitbox item quantity other
  | _ => throw .absent

/-- Touch the triggers that a body meets, from a position in the list on. Touching may change the
list, and the walk goes on at the next position of whatever the list is then. -/
def touchFrom (body : PartId) (other : EntityId) : (rounds position : Nat) → Game Unit
  | 0, _ => throw .endless
  | rounds + 1, position => do
    match (← get).triggers[position]? with
    | none => return
    | some id =>
      if ← collides body id then touch id other
      touchFrom body other rounds (position + 1)

/-- How many more entries a register can hold after any load of an area: no record of a map file
is shorter than what it registers. -/
def loadBound (w : World) : Nat := 10000 + w.disk.size

def touchAll (body : PartId) (other : EntityId) : Game Unit := do
  let w ← get
  touchFrom body other (w.triggers.length + loadBound w) 0

end Game

end TileQuest
