import TileQuest.World.Lifecycle

/-!
# Making the entities of an area

What each factory makes. The parts of an entity are made one after the other before they are put
together, so arguments that are missing or wrong break the making off between two parts.
-/

namespace TileQuest

namespace Game

/-! ## Parts -/

/-- How long a message shows, in frames. -/
def messageTime : Int := 180

def showMessage (id : PartId) (text : Json) : Game Unit := do
  let hud ← orAbsent (← player id).hud?
  setText hud.message text
  modifyPlayer id fun p => { p with hud? := p.hud?.map ({ · with countdown := messageTime }) }

def tell (id : PartId) (text : String) : Game Unit := showMessage id (.str text)

def homeName : Game String := do orAbsent ((← get).areas[0]?.bind (·.name?))

def newPlayer (health : Json) : Game PartId := do
  let id ← newPart (.player {})
  activate id
  let place ← placeLabel regularFont "X: 0 - Y: 0" 32 0 0
  let message ← placeLabel regularFont (← homeName) 32 0 0
  let window ← placeParts [← newBagView playerBag] 0 0
  moveEntity (← owner place) 10 ((← get).camera.h - 50 : Int)
  moveEntity (← owner message) 10 0
  modifyPlayer id ({ · with hud? := some { place, message, window, countdown := 0 } })
  tell id ("Entering " ++ (← homeName))
  modifyPlayer id ({ · with health? := some health })
  return id

def newEnemy (health : Json) (weapon : Int) : Game PartId := do
  let weapon ← entry ItemType.all weapon
  let id ← newPart (.enemy { health? := some health, weapon, phase := 0 })
  activate id
  let phase ← randomBetween 0 30
  modifyEnemy id ({ · with phase })
  return id

def newUsable (name : Json) (form : UsableForm) : Game PartId := do
  let id ← newPart (.usable { name, form })
  enlistUsable id
  return id

def newTree (name stump : String) : Game PartId := do
  let id ← newUsable (.str name) (.tree stump (.bool false))
  loadSound "chop_tree.mp3" 1
  return id

def newRock (name : String) : Game PartId := do
  let id ← newUsable (.str name) .rock
  loadSound "mine_rock.mp3" 1
  return id

/-- The size of the hitbox of whatever fills a tile. -/
def tileBox : Rect := { w := 32, h := 32 }

def newTeleporter (file column row : Json) : Game PartId := do
  let id ← newTrigger tileBox (.teleporter file column row)
  print file.shown
  return id

def newDropped (item : ItemType) (quantity : Json) : Game PartId :=
  newTrigger tileBox (.dropped item quantity)

/-! ## Entities -/

def feet : Rect := { x := 8, y := 48, w := 16, h := 16 }

def makePlayer : Game EntityId := do
  let p ← newPlayer 100
  let look ← newAnimation (.str "player_sheet2.png") 32 64 (.arr [Cell.of 0 0]) 10 false
  spawn [p, look, ← newBody feet] 0 0

def makeTree : Game EntityId := do
  let look ← newSprite "tree.png" false
  let body ← newBody { x := 16, y := 96, w := 32, h := 32 }
  spawn [look, body, ← newTree "Pine Tree" "tree_stump.png"] 0 0

def makeRock : Game EntityId := do
  let look ← newSprite "rock.png" false
  let body ← newBody tileBox
  spawn [look, body, ← newRock "Rock"] 0 0

def makeTeleporter (icon : String) (args : Json) : Game EntityId := do
  let teleporter ← newTeleporter (← args.item 0) (← args.item 1) (← args.item 2)
  spawn [teleporter, ← newSprite icon false] 0 0

def makeDropped (args : Json) : Game EntityId := do
  let item ← entry ItemType.all (← (← args.item 0).toInt)
  let dropped ← newDropped item (.ofInt (← (← args.item 1).toInt))
  spawn [dropped, ← newSprite item.icon false] 0 0

def makeCharacter (args : Json) : Game EntityId := do
  let look ← newSprite (← (← args.item 1).toText) false
  let name ← args.item 0
  let _ ← args.item 2
  spawn [look, ← newUsable name .character] 0 0

def makeEnemy (args : Json) : Game EntityId := do
  let look ← newSprite (← (← args.item 0).toText) false
  let e ← newEnemy 100 4
  spawn [look, e, ← newBody feet] 0 0

def makeEntity (factory : Int) (args : Json) : Game EntityId := do
  match signedIndex? Factory.all.length factory with
  | some 0 => makePlayer
  | some 1 => makeTree
  | some 2 => makeRock
  | some 3 => makeTeleporter "teleporter_up.png" args
  | some 4 => makeTeleporter "teleporter_right.png" args
  | some 5 => makeTeleporter "teleporter_down.png" args
  | some 6 => makeTeleporter "teleporter_left.png" args
  | some 7 => makeDropped args
  | some 8 => makeCharacter args
  | some 9 => makeEnemy args
  | _ => throw .outOfRange

def moveToTile (e : EntityId) (column row : Json) : Game Unit := do
  let x ← column.times 32
  modifyEntity e ({ · with x })
  let y ← row.times 32
  modifyEntity e ({ · with y })

/-- Make an entity and put it on a tile. -/
def createEntity (factory : Int) (column row args : Json) : Game EntityId := do
  let e ← makeEntity factory args
  moveToTile e column row
  return e

/-- Put what stands for an entity into an area, unless its place is taken. -/
def placePlaceholder (a : AreaId) (icon : String) (p : Placeholder) (x y : Scalar) :
    Game Unit := do
  let look ← newSprite icon false
  let e ← spawn [look, ← newPart (.placeholder p)] x y
  if ← hasPart e Part.isPlaceholder then
    modifyArea a fun a => { a with entities := a.entities ++ [e] }

end Game

end TileQuest
