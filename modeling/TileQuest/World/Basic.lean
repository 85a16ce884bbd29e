import TileQuest.Area.Factory
import TileQuest.Disk
import TileQuest.Effect
import TileQuest.Input
import TileQuest.Tile.Map
import TileQuest.World.Part

/-!
# The world

`World` is the state of a running game: entities and parts, the lists in which parts are registered,
the areas, the editor, the player's things, the files, the chats, and what was logged and drawn.

A step of the game is a `Game`: it changes the world and gives a result or breaks off with a fault.
The world after a fault is the world as it was when the fault arose; nothing is undone.
-/

namespace TileQuest

structure Area where
  name? : Option String := none
  ground? : Option GroundId := none
  entities : List EntityId := []
  isEdited : Bool := false
deriving Inhabited

/-- What is drawn behind everything else. -/
inductive Scenery where
  | ground (g : GroundId)
  /-- A ground that could not be read to its end. -/
  | unfinished
deriving DecidableEq, Inhabited

/-- What a stage of the game builds when it is entered. -/
inductive Scene where
  | menu
  | play
  | chooser
  | editor
  | demo
  | blank
deriving DecidableEq, Inhabited

structure Editor where
  file : Json := .null
  tool : Json := .str "Click"
  tile : Json := 0
  entity : Json := 0
  /-- The entities on the screen that belong to the tool, once the editor was entered. -/
  toolEntities? : Option (List EntityId) := none
  brush? : Option PartId := none
  selected? : Option EntityId := none
  fields : List PartId := []
  newMap? : Option PartId := none
deriving Inhabited

/-- An inventory and the part that shows it. -/
structure Bag where
  inventory : Inventory
  viewer? : Option PartId := none
deriving Inhabited

/-- Something written down while the game runs. -/
inductive Notice where
  | line (text : String)
  /-- A line of text about a fault, which is named between its two halves. -/
  | fault (before : String) (fault : Fault) (after : String)
  | sound (file : String)
  | sleep (seconds : Nat)
  | report (text : String)
deriving DecidableEq, Inhabited

/-- A note that something on the screen was used. -/
inductive Use where
  | used (tag : Nat)
  | chosen (tag : Nat) (item : Json) (index : Int)
deriving DecidableEq, Inhabited

structure World where
  step : Int := 0
  stage? : Option String := none
  scenes : List (String × Scene) := []
  isRunning : Bool := true
  camera : Rect := {}
  input : Input := {}
  entities : Array Entity := #[]
  parts : Array Owned := #[]
  active : List PartId := []
  background : List Scenery := []
  drawn : List PartId := []
  overlay : List PartId := []
  usables : List PartId := []
  effects : List Effect := []
  bodies : List PartId := []
  triggers : List PartId := []
  listeners : List PartId := []
  areas : Array Area := #[]
  area? : Option AreaId := none
  grounds : Array TileMap := #[]
  bags : Array Bag := #[{ inventory := .empty 20 }]
  castLines : List (String × List Json) :=
    Cast.greetings.map fun g => (g.1, [.str g.2])
  edition : Cast.Edition := .current
  /-- What every entity placed in the editor starts from, by factory. -/
  defaults : List (List String) := Factory.all.map (·.defaults)
  taken : List Scalar := []
  loadedImages : List String := []
  /-- The sizes of the fonts that were loaded, by name and size as they were asked for. -/
  fonts : List (String × Json) := []
  sounds : List (String × Json) := []
  isAudible : Bool := true
  disk : Disk := .initial
  chats : ChatStore := {}
  /-- What will come of the next calls of the model. -/
  outcomes : List Outcome := []
  /-- The names that no member of a reply of the model can have. -/
  reservedNames : List String := []
  /-- The calls of the model, the last one first. -/
  calls : List Call := []
  random : List Int := []
  editor : Editor := {}
  dialogue? : Option PartId := none
  /-- The last dialogue that was gone through line by line. -/
  steppedDialogue? : Option PartId := none
  log : List Notice := []
  drawing : List Draw := []
  deaths : List Nat := []
  uses : List Use := []
deriving Inhabited

abbrev Game (α : Type) : Type := ExceptT Fault (StateM World) α

namespace Game

def runOn {α : Type} (g : Game α) (w : World) : Except Fault α × World := g.run.run w

/-- The value, or a fault when there is none. -/
def orAbsent {α : Type} : Option α → Game α
  | some a => pure a
  | none => throw .absent

/-! ## What is written down -/

def note (n : Notice) : Game Unit := modify fun w => { w with log := n :: w.log }

def print (text : String) : Game Unit := note (.line text)

def paint (ds : List Draw) : Game Unit :=
  modify fun w => { w with drawing := ds.reverse ++ w.drawing }

/-! ## Random numbers -/

def nextRandom : Game Int := do
  match (← get).random with
  | [] => return 0
  | n :: rest =>
    modify fun w => { w with random := rest }
    return n

def randomBetween (low high : Int) : Game Int := do
  return low + (← nextRandom) % (high - low + 1)

def randomEntry {α : Type} (xs : List α) : Game α := do
  if xs.isEmpty then throw .outOfRange
  entry xs ((← nextRandom) % xs.length)

/-! ## Entities and parts -/

def newPart (p : Part) : Game PartId := do
  let id : PartId := ⟨(← get).parts.size⟩
  modify fun w => { w with parts := w.parts.push { part := p } }
  return id

def owned (id : PartId) : Game Owned := do
  orAbsent (← get).parts[id.index]?

def part (id : PartId) : Game Part := return (← owned id).part

def modifyPart (id : PartId) (f : Part → Part) : Game Unit :=
  modify fun w => { w with parts := w.parts.modify id.index fun o => { o with part := f o.part } }

def setPart (id : PartId) (p : Part) : Game Unit := modifyPart id fun _ => p

def owner (id : PartId) : Game EntityId := do orAbsent (← owned id).owner?

def setOwner (id : PartId) (owner? : Option EntityId) : Game Unit :=
  modify fun w => { w with parts := w.parts.modify id.index fun o => { o with owner? } }

/-- Nothing can be told of a part any more, for a reason. -/
def spoil (id : PartId) (fault : Fault) : Game Unit :=
  modify fun w =>
    { w with parts := w.parts.modify id.index fun o => { o with unreadable? := some fault } }

def lose (id : PartId) (f : Faculty) : Game Unit :=
  modify fun w =>
    { w with parts := w.parts.modify id.index fun o => { o with lost := f :: o.lost } }

def regain (id : PartId) (f : Faculty) : Game Unit :=
  modify fun w =>
    { w with parts := w.parts.modify id.index fun o => { o with lost := o.lost.filter (· ≠ f) } }

/-- A part gets all faculties back that it lost. -/
def regainAll (id : PartId) : Game Unit :=
  modify fun w => { w with parts := w.parts.modify id.index fun o => { o with lost := [] } }

def hasLost (id : PartId) (f : Faculty) : Game Bool := return (← owned id).lost.contains f

def requires (id : PartId) (f : Faculty) : Game Unit := do
  if ← hasLost id f then throw f.fault

def entity (id : EntityId) : Game Entity := do orAbsent (← get).entities[id.index]?

def modifyEntity (id : EntityId) (f : Entity → Entity) : Game Unit :=
  modify fun w => { w with entities := w.entities.modify id.index f }

def moveEntity (id : EntityId) (x y : Json) : Game Unit := modifyEntity id ({ · with x, y })

/-- Where an entity is, whether or not that is a point. -/
def entityPlace (id : EntityId) : Game (Json × Json) := do
  let e ← entity id
  return (e.x, e.y)

def entityPoint (id : EntityId) : Game (Scalar × Scalar) := do
  let e ← entity id
  return (← e.x.toScalar, ← e.y.toScalar)

def place (id : PartId) : Game (Json × Json) := do entityPlace (← owner id)

def point (id : PartId) : Game (Scalar × Scalar) := do entityPoint (← owner id)

def find? (id : EntityId) (test : Part → Bool) : Game (Option PartId) := do
  let w ← get
  return (← entity id).parts.find? fun p => (w.parts[p.index]?.map fun o => test o.part).getD false

def hasPart (id : EntityId) (test : Part → Bool) : Game Bool := return (← find? id test).isSome

def find (id : EntityId) (test : Part → Bool) : Game PartId := do orAbsent (← find? id test)

/-! ## Parts of a known sort -/

def sprite (id : PartId) : Game Sprite := do
  match ← part id with
  | .sprite s => return s
  | _ => throw .absent

def label (id : PartId) : Game Label := do orAbsent (← part id).label?

def combat (id : PartId) : Game Combat := do
  match ← part id with
  | .combat c => return c
  | _ => throw .absent

def modifyCombat (id : PartId) (f : Combat → Combat) : Game Unit :=
  modifyPart id fun p => match p with
    | .combat c => .combat (f c)
    | p => p

def player (id : PartId) : Game Player := do
  match ← part id with
  | .player p => return p
  | _ => throw .absent

def modifyPlayer (id : PartId) (f : Player → Player) : Game Unit :=
  modifyPart id fun p => match p with
    | .player q => .player (f q)
    | p => p

def enemy (id : PartId) : Game Enemy := do
  match ← part id with
  | .enemy e => return e
  | _ => throw .absent

def modifyEnemy (id : PartId) (f : Enemy → Enemy) : Game Unit :=
  modifyPart id fun p => match p with
    | .enemy e => .enemy (f e)
    | p => p

def dialogue (id : PartId) : Game Dialogue := do
  match ← part id with
  | .dialogue d => return d
  | _ => throw .absent

def modifyDialogue (id : PartId) (f : Dialogue → Dialogue) : Game Unit :=
  modifyPart id fun p => match p with
    | .dialogue d => .dialogue (f d)
    | p => p

def placeholder (id : PartId) : Game Placeholder := do
  match ← part id with
  | .placeholder p => return p
  | _ => throw .absent

/-! ## Areas and inventories -/

def area (id : AreaId) : Game Area := do orAbsent (← get).areas[id.index]?

def modifyArea (id : AreaId) (f : Area → Area) : Game Unit :=
  modify fun w => { w with areas := w.areas.modify id.index f }

def currentArea : Game AreaId := do orAbsent (← get).area?

def groundOf (a : AreaId) : Game GroundId := do orAbsent (← area a).ground?

def ground (g : GroundId) : Game TileMap := do orAbsent (← get).grounds[g.index]?

def setGround (g : GroundId) (map : TileMap) : Game Unit :=
  modify fun w => { w with grounds := w.grounds.set! g.index map }

def currentGround : Game GroundId := do groundOf (← currentArea)

def currentMap : Game TileMap := do ground (← currentGround)

def playerBag : BagId := ⟨0⟩

def bag (id : BagId) : Game Bag := do orAbsent (← get).bags[id.index]?

def newBag (capacity : Int) : Game BagId := do
  let id : BagId := ⟨(← get).bags.size⟩
  modify fun w => { w with bags := w.bags.push { inventory := .empty capacity } }
  return id

def modifyBag (id : BagId) (f : Bag → Bag) : Game Unit :=
  modify fun w => { w with bags := w.bags.modify id.index f }

def setInventory (id : BagId) (inventory : Inventory) : Game Unit :=
  modifyBag id ({ · with inventory })

def modifyEditor (f : Editor → Editor) : Game Unit :=
  modify fun w => { w with editor := f w.editor }

/-! ## Registers -/

def erase (ids : List PartId) (id : PartId) : Except Fault (List PartId) :=
  if id ∈ ids then .ok (ids.erase id) else .error .notListed

/-- Let a part do something in every frame. -/
def activate (id : PartId) : Game Unit := modify fun w => { w with active := w.active ++ [id] }

/-- No longer let a part do something in every frame. -/
def deactivate (id : PartId) : Game Unit := do
  let active ← erase (← get).active id
  modify ({ · with active })

def enlist (id : PartId) (isOverlay : Bool) : Game Unit :=
  if isOverlay then modify fun w => { w with overlay := w.overlay ++ [id] }
  else modify fun w => { w with drawn := w.drawn ++ [id] }

def delist (id : PartId) (isOverlay : Bool) : Game Unit := do
  if isOverlay then
    let overlay ← erase (← get).overlay id
    modify ({ · with overlay })
  else
    let drawn ← erase (← get).drawn id
    modify ({ · with drawn })

/-- Let a part be clicked in the world. -/
def enlistUsable (id : PartId) : Game Unit := modify fun w => { w with usables := w.usables ++ [id] }

/-- No longer let a part be clicked in the world. -/
def delistUsable (id : PartId) : Game Unit := do
  let usables ← erase (← get).usables id
  modify ({ · with usables })

def enlistBody (id : PartId) : Game Unit := modify fun w => { w with bodies := w.bodies ++ [id] }

def delistBody (id : PartId) : Game Unit := do
  let bodies ← erase (← get).bodies id
  modify ({ · with bodies })

def enlistTrigger (id : PartId) : Game Unit :=
  modify fun w => { w with triggers := w.triggers ++ [id] }

def delistTrigger (id : PartId) : Game Unit := do
  let triggers ← erase (← get).triggers id
  modify ({ · with triggers })

def enlistListener (id : PartId) : Game Unit :=
  modify fun w => { w with listeners := w.listeners ++ [id] }

def delistListener (id : PartId) : Game Unit := do
  let listeners ← erase (← get).listeners id
  modify ({ · with listeners })

end Game

end TileQuest
