import TileQuest.World.Hitboxes
import TileQuest.World.Weapons

/-!
# How entities come and go

An entity is made of parts that are there already. First all of them are added, then each is set
up. When an entity goes, each part is broken down in turn. Not every sort of part takes back all
that it registered: an animation goes on ticking, and buttons and the helper of the editor go on
listening.
-/

namespace TileQuest

namespace Game

/-! ## Breaking down -/

/-- The key of a place in the editor. Two words have a key that no place with numbers has. -/
def placeKey? (x y : Json) : Except Fault (Option Scalar) :=
  match x, y with
  | .str _, .str _ => .ok none
  | x, y => do return some (← (← (← x.toScalar).mul 10000000).add (← y.toScalar))

def breakDownPlain (id : PartId) : Game Unit := do
  match ← part id with
  | .sprite s => delist id s.isOverlay
  | .inputBox .. => modify fun w => { w with overlay := w.overlay.erase id }
  | .label _ => delist id true
  | .textField .. =>
    delistListener id
    delist id true
  | .bar _ => delist id true
  | .inventoryView _ =>
    deactivate id
    clearView id
  | .scrollView s =>
    requires id .children
    setPart id (.scrollView { s with children := [] })
    requires id .content
    setPart id (.scrollView { s with children := [], drawn := [] })
    deactivate id
    delist id true
  | .body _ => delistBody id
  | .trigger .. => delistTrigger id
  | .usable _ => delistUsable id
  | .combat _ =>
    deactivate id
    modifyCombat id ({ · with weapon? := none })
  | .enemy _ => deactivate id
  | .placeholder _ =>
    let (x, y) ← place id
    match ← placeKey? x y with
    | some key => modify fun w => { w with taken := w.taken.filter fun k => !k.same key }
    | none => return
  | .probe p => if p.kind.isA .reporting then note (.report ("breakdown " ++ p.name.shown))
  | _ => return

def leaveArea (e : EntityId) : Game Unit := do
  let current ← currentArea
  modifyArea current fun a => { a with entities := a.entities.erase e }

def clearEntity (breakDown : PartId → Game Unit) (e : EntityId) : Game Unit := do
  (← entity e).parts.forM breakDown
  modifyEntity e ({ · with parts := [] })

def deletePlain (e : EntityId) : Game Unit := do
  leaveArea e
  clearEntity breakDownPlain e

/-- Break a part down, whatever became of it. The player also takes down what is on the
screen. -/
def breakDownFully (id : PartId) : Game Unit := do
  match ← part id with
  | .player p =>
    let hud ← orAbsent p.hud?
    deletePlain (← owner hud.place)
    deletePlain (← owner hud.message)
    deletePlain hud.window
    deletePlain (← owner (← orAbsent p.bar?))
    deactivate id
    print "Called breakdown"
  | _ => breakDownPlain id

def breakDown (id : PartId) : Game Unit := do
  if !(← hasLost id .breakDown) then breakDownFully id

/-- The sorts of parts that have something to take back. -/
def canBreakDown : Part → Bool
  | .button _ | .window | .editorHelper _ | .shape _ => false
  | _ => true

def takeDown (id : PartId) : Game Unit := do
  requires id .breakDown
  if !canBreakDown (← part id) then throw .absent
  breakDownFully id

/-- Delete an entity: it leaves its area, and its parts are broken down. -/
def deleteEntity (e : EntityId) : Game Unit := do
  leaveArea e
  clearEntity breakDown e

def removeEntity (a : AreaId) (e : EntityId) : Game Unit := do
  if e ∉ (← area a).entities then throw .notListed
  modifyArea a fun a => { a with entities := a.entities.erase e }
  clearEntity breakDown e

def removePart (e : EntityId) (id : PartId) : Game Unit := do
  breakDown id
  setOwner id none
  if id ∉ (← entity e).parts then throw .notListed
  modifyEntity e fun e => { e with parts := e.parts.erase id }

def removeFirst (e : EntityId) (test : Part → Bool) : Game Unit := do
  match ← find? e test with
  | some id => removePart e id
  | none => return

/-- Everything is gone: the entities of the area, all registers and the effects. -/
def reset : Game Unit := do
  match (← get).area? with
  | some a => (← area a).entities.forM deleteEntity
  | none => pure ()
  modify fun w => { w with
    bodies := [], triggers := [], active := [], drawn := [], overlay := [], background := [],
    usables := [], effects := [] }

/-! ## Setting up -/

def attach (e : EntityId) (id : PartId) : Game Unit := do
  setOwner id (some e)
  modifyEntity e fun e => { e with parts := e.parts ++ [id] }

def newListItem (s : ScrollView) (item : Json) : Game PartId := do
  if s.showsImages then
    let id ← newSprite (← item.toText) true
    modifySprite id fun s => { s with image := s.image.scaled 32 32 }
    return id
  else newLabel listFont item s.itemSize

def takeIntoList (id item : PartId) (e : EntityId) : Game Unit := do
  modify fun w => { w with overlay := w.overlay.erase item }
  modifyPart id fun p => match p with
    | .scrollView s =>
      .scrollView { s with drawn := s.drawn ++ [item], children := s.children ++ [e] }
    | p => p

/-- Set a list up: every item becomes an entity that is drawn inside the list. -/
def setUpList (id : PartId) (s : ScrollView) : Game Unit := do
  (← s.items.listed).zipIdx.forM fun (item, index) => do
    let child ← newListItem s item
    let e ← placeParts [child] (.ofInt ScrollView.padding) (← s.itemSize.times index)
    takeIntoList id child e

/-- Set a player up: the ability to fight and the bar that shows the health. -/
def setUpPlayer (id : PartId) (p : Player) : Game Unit := do
  let combat ← newCombat (← orAbsent p.health?) .restart
  attach (← owner id) combat
  modifyPlayer id ({ · with combat? := some combat, health? := none })
  let bar ← newBar (← Game.combat combat).maxHealth 300 20
  let camera := (← get).camera
  let _ ← placeParts [bar] (camera.w - 300 : Int) (camera.h - 20 : Int)
  modifyPlayer id ({ · with bar? := some bar })

def setUpEnemy (id : PartId) (e : Enemy) : Game Unit := do
  let me ← owner id
  attach me (← newCombat (← orAbsent e.health?) .leave)
  let combat ← find me Part.isCombat
  modifyEnemy id ({ · with combat? := some combat })
  equip combat (some e.weapon)
  modifyEnemy id ({ · with health? := none })

/-- Set up what stands for an entity in the editor. Where the place is taken already, the entity
is deleted. -/
def setUpPlaceholder (id : PartId) : Game Unit := do
  let (x, y) ← place id
  match ← placeKey? x y with
  | none => return
  | some key =>
    if (← get).taken.any key.same then deleteEntity (← owner id)
    else modify fun w => { w with taken := w.taken ++ [key] }

def newProbe (kind : ProbeKind) (name : Json) : Game PartId := newPart (.probe { kind, name })

def setUpProbe (id : PartId) (p : Probe) : Game Unit := do
  match p.kind with
  | .silent => return
  | .inert => return
  | .reporting => note (.report ("setup " ++ p.name.shown))
  | .special => note (.report ("setup " ++ p.name.shown))
  | .spawning =>
    note (.report ("setup " ++ p.name.shown))
    let name ← p.name.plus (.str "+")
    attach (← owner id) (← newProbe .reporting name)
    note (.report ("setup " ++ name.shown))
  | .deleting =>
    note (.report ("setup " ++ p.name.shown))
    deleteEntity (← owner id)

def setUp (id : PartId) : Game Unit := do
  match ← part id with
  | .scrollView s => setUpList id s
  | .player p => setUpPlayer id p
  | .enemy e => setUpEnemy id e
  | .placeholder _ => setUpPlaceholder id
  | .probe p => setUpProbe id p
  | _ => return

def spawn (parts : List PartId) (x y : Json) : Game EntityId := do
  let e ← placeParts parts x y
  parts.forM setUp
  return e

def addPart (e : EntityId) (id : PartId) : Game Unit := do
  attach e id
  setUp id

end Game

end TileQuest
