import TileQuest.Frame
import TileQuest.Text.Hex

/-!
# Looking into a running game

The state of a game as JSON values, for tools that watch a game from outside: entities with their
parts, inventories, effects, dialogues, the editor, and what was drawn and asked.
-/

namespace TileQuest

namespace Inspect

/-! ## Values -/

def int (n : Int) : Json := .num (.int n)

def nat (n : Nat) : Json := int n

def opt {α : Type} (f : α → Json) : Option α → Json
  | some a => f a
  | none => .null

def pair (x y : Json) : Json := .arr [x, y]

def rectNumbers (r : Rect) : List Json := [int r.x, int r.y, int r.w, int r.h]

def rect (r : Rect) : Json := .arr (rectNumbers r)

def drawn : Draw → Json
  | .fill target color => .arr [.str "fill", .str target, .arr color]
  | .blit target source x y part? =>
    .arr ([.str "blit", .str target, .str source, x, y] ++ (part?.map rect).toList)
  | .rect target color area lineWidth =>
    .arr [.str "rect", .str target, .arr color, rect area, nat lineWidth]

def draws (w : World) : Json := .arr (w.drawing.reverse.map drawn)

/-- How the lines start that are worth watching. -/
def watched : List String :=
  ["Error", "Loading Legacy file", "Switching to", "Unknown command", "Chat ", "No existing chat",
    "API Error", "Agent response", "Tool has been set", "Took ", "selected index",
    "Inventory Slot", "Loading map", "Redis ", "Using Redis", "freak out", "Base on function",
    "Called Death", "Called breakdown", "calling unequip", "Equipping"]

/-- What is to be seen of a line, if it is worth watching. Who took something is told without
what is left. -/
def watchedPart? (line : String) : Option String :=
  let starts (start : String) : Bool := start.toList.isPrefixOf line.toList
  if starts "Took " then some (String.ofList (line.toList.takeWhile (· ≠ '.')))
  else if watched.any starts then some line
  else none

/-- How much is registered: what acts, the ground, what is drawn in and over the world, what can
be clicked, effects, bodies and triggers. -/
def counts (w : World) : List Json :=
  [w.active.length, w.background.length, w.drawn.length, w.overlay.length, w.usables.length,
    w.effects.length, w.bodies.length, w.triggers.length].map nat

/-! ## Inventories -/

def itemName (item? : Option ItemType) : Json := opt (·.name) item?

def slots (inv : Inventory) : Json :=
  .arr ((inv.slots.zipIdx.filter fun s => s.1.item?.isSome || !s.1.amount.equal 0).map fun s =>
    .arr [nat s.2, itemName s.1.item?, s.1.amount])

def playerBag (w : World) : Json := opt (fun b => slots b.inventory) w.bags[0]?

def playerSlot (w : World) : Json := opt id (w.bags[0]?.bind (·.inventory.equipped?))

/-! ## Parts -/

def part (w : World) (p : PartId) : Part := (w.parts[p.index]?.map (·.part)).getD .window

def entityOf (w : World) (e : EntityId) : Entity := w.entities[e.index]?.getD {}

def ownerOf (w : World) (p : PartId) : Entity :=
  ((w.parts[p.index]?.bind (·.owner?)).map (entityOf w)).getD {}

def labelText (w : World) (p : PartId) : Json := opt (·.text) (part w p).label?

def sort : Part → String
  | .sprite s =>
    if s.animation?.isSome then "Animation" else if s.sheet?.isSome then "Atlas" else "Sprite"
  | .inputBox .. => "InputBox"
  | .label _ => "Label"
  | .textField .. => "TextInput"
  | .button _ => "Button"
  | .bar _ => "Bar"
  | .window => "Window"
  | .inventoryView _ => "InventoryView"
  | .scrollView _ => "ScrollView"
  | .editorHelper _ => "EditorHelper"
  | .dialogue _ => "DialogueView"
  | .shape _ => "PhysicalObj"
  | .body _ => "Body"
  | .trigger _ (.teleporter ..) => "Teleporter"
  | .trigger _ (.dropped ..) => "DroppedItem"
  | .trigger _ .plain => "Trigger"
  | .usable u =>
    match u.form with
    | .plain => "Usable"
    | .tree .. => "Choppable"
    | .rock => "Minable"
    | .character => "NPC"
    | .scripted _ => "static_NPC"
  | .combat _ => "Combat"
  | .player _ => "Player"
  | .enemy _ => "Enemy"
  | .placeholder _ => "EntityPlaceholder"
  | .probe _ => "Probe"

def isOfSort (name : String) (p : Part) : Bool :=
  sort p == name ||
    match name with
    | "Usable" => p.isUsable
    | "Sprite" => p.isSprite
    | "Atlas" => p.isSheet
    | "Label" => p.isLabel
    | "Trigger" => p.isTrigger
    | "PhysicalObj" => p.hitbox?.isSome
    | _ => false

/-- The cell an animation shows, and how far it is. -/
def animation (s : Sprite) (a : Animation) : Except Fault (List Json) := do
  return [opt (·.column) s.sheet?, opt (·.row) s.sheet?, nat a.ticks, nat a.current,
    nat (← a.frames.length)]

def direction : Direction → Json
  | .left => int 0
  | .up => int 1
  | .right => int 2
  | .down => int 3

/-- The arguments of an entity in the editor. -/
def args (w : World) (a : Args) : Json :=
  .arr ((match a with
    | .own values => values
    | .defaults k => w.defaults.getD k []).map .str)

/-- What there is to know about a part of an entity. -/
def details (w : World) : Part → List Json
  | .usable { name, form := .tree _ chopped } => [name, chopped]
  | .usable u => [u.name]
  | .trigger _ (.dropped item quantity) => [item.name, quantity]
  | .trigger r _ => rectNumbers r
  | .body r => rectNumbers r
  | .combat c => [c.health, c.cooldown, itemName c.equipped?]
  | .enemy e => [int e.phase, opt (fun t => pair t.1 t.2) e.target?]
  | .placeholder p => [p.factory, args w p.args]
  | .sprite s =>
    match s.animation? with
    | some a => (animation s a).toOption.getD []
    | none => [.str s.image.name]
  | .player p =>
    [direction p.direction, .bool p.isWalking, opt (fun h => labelText w h.message) p.hud?,
      opt (fun h => int h.countdown) p.hud?, opt (fun h => labelText w h.place) p.hud?]
  | _ => []

def entity (w : World) (e : EntityId) : Json :=
  let e := entityOf w e
  .obj [("at", pair e.x e.y),
    ("parts", .arr (e.parts.map fun p => .arr (.str (sort (part w p)) :: details w (part w p))))]

/-! ## Areas -/

def area? (w : World) (a? : Option AreaId) : Option Area := a?.bind fun a => w.areas[a.index]?

def members (w : World) (a? : Option AreaId) : List EntityId :=
  ((area? w a?).map (·.entities)).getD []

def entities (w : World) (a? : Option AreaId) : Json := .arr ((members w a?).map (entity w))

def areaName (w : World) (a? : Option AreaId) : Json := opt .str ((area? w a?).bind (·.name?))

def mapTiles (m : TileMap) : Json := .arr (m.rows.map .arr)

def tiles (w later : World) (a? : Option AreaId) : Json :=
  opt mapTiles (((area? w a?).bind (·.ground?)).bind fun g => later.grounds[g.index]?)

def effects (w : World) : Json :=
  .arr (w.effects.map fun e => .arr [e.x, e.y, int e.life, .str e.image.name])

/-! ## The screen -/

def scriptLines (w : World) : Script → Except Fault (List Json)
  | .own lines => lines.listed
  | .cast name => .ok (((w.castLines.find? fun r => r.1 == name).map (·.2)).getD [])

def dialogue (w : World) (p : PartId) : Json :=
  match part w p with
  | .dialogue d =>
    let lines := .arr ((scriptLines w d.script).toOption.getD [])
    .obj ([("speaker", labelText w d.speaker), ("content", labelText w d.content),
      ("helper", labelText w d.helper), ("line", int d.line), ("lines", lines)] ++
      match d.style with
      | .stepped => []
      | .typed =>
        [("input", opt (labelText w) d.inputLabel?), ("typed", .str d.typed),
          ("waiting", .bool d.isWaiting), ("active", .bool d.isTyping)])
  | _ => .null

def lastDialogue? (w : World) : Option PartId :=
  ((List.range w.parts.size).reverse.find? fun i => isOfSort "DialogueView" (part w ⟨i⟩)).map
    fun i => ⟨i⟩

def editor (w later : World) : List (String × Json) :=
  let ed := w.editor
  [("file", ed.file), ("tool", ed.tool), ("tile", ed.tile), ("entity", ed.entity),
    ("fields", .arr (ed.fields.map (labelText w))),
    ("selected", opt (entity w) ed.selected?),
    ("tools", nat ((ed.toolEntities?.map (·.length)).getD 0)), ("taken", nat w.taken.length),
    ("tiles", tiles w later w.area?)]

def line? (w : World) (p : PartId) : Option Json :=
  let e := ownerOf w p
  match part w p with
  | .label l => some (.arr [l.text, e.x, e.y])
  | .textField l f => some (.arr [l.text, e.x, e.y, f.active])
  | _ => none

def lines (w : World) : Json := .arr (w.overlay.filterMap (line? w))

/-- What there is to know about a part on the screen. -/
def widgetDetails (w : World) : Part → Except Fault (List Json)
  | .button b => .ok [rect b.area]
  | .label l => .ok [l.text, rect { w := l.image.width, h := l.image.height }]
  | .textField l f => .ok [l.text, f.active, f.maxText, f.blink, .str l.image.name]
  | .scrollView s => do
    return [s.innerY, .num (← Game.scrollMax s),
      .arr (s.children.map fun e => pair (entityOf w e).x (entityOf w e).y), nat s.drawn.length]
  | .bar b => .ok [b.amount, b.max]
  | .inventoryView v =>
    let inv? := w.bags[v.bag.index]?.map (·.inventory)
    .ok [.arr [int v.window.x, int v.window.y], opt id (inv?.bind (·.equipped?)), opt slots inv?,
      nat v.items.length]
  | _ => .ok []

def readable (w : World) (p : PartId) : Except Fault Unit :=
  match w.parts[p.index]?.bind (·.unreadable?) with
  | some fault => .error fault
  | none => .ok ()

def widget (w : World) (p : PartId) : Except Fault Json := do
  readable w p
  return .arr (.str (sort (part w p)) :: (← widgetDetails w (part w p)))

/-- A sprite, what was drawn, and how much is registered. -/
def sprite (w : World) (p : PartId) : Except Fault (List (String × Json)) := do
  match part w p with
  | .sprite s =>
    let walk ← s.animation?.mapM (animation s)
    return [("size", .arr [int s.image.width, int s.image.height]), ("image", .str s.image.name),
      ("wh", .arr [int s.width, int s.height]), ("draws", draws w),
      ("n", .arr ([w.active.length, w.drawn.length, w.overlay.length].map nat))] ++
      (walk.map fun a => ("anim", Json.arr a)).toList
  | _ => return []

/-- Somebody who can fight, and where the weapon is. -/
def fighter (w : World) (p : PartId) : Except Fault Json := do
  readable w p
  match part w p with
  | .combat c =>
    return .arr [c.health, c.cooldown, itemName c.equipped?,
      opt (fun s => pair (ownerOf w s).x (ownerOf w s).y) c.weapon?, .bool c.sound?.isSome]
  | _ => return .null

def probeName (w : World) (p : PartId) : Json :=
  match part w p with
  | .probe q => q.name
  | _ => .null

def reports (w : World) : Json :=
  .arr (w.log.reverse.filterMap fun n => match n with
    | .report t => some (.str t)
    | _ => none)

/-! ## Conversations -/

def history (h : History) : Json :=
  .arr (h.map fun m => .arr [.str (match m.role with
    | .human => "human"
    | .ai => "ai"), m.text])

def asked (w : World) : Json :=
  .arr (w.calls.reverse.map fun c => .arr [c.query, history c.history])

/-! ## All at once -/

def allCounts (w : World) : String × Json := ("n", .arr (counts w))

/-- How much of the first four sorts is registered. -/
def fourCounts (w : World) : String × Json := ("n", .arr ((counts w).take 4))

def camera (w : World) : String × Json := ("cam", .arr [int w.camera.x, int w.camera.y])

/-- A dialogue that may have failed to open, the player's inventory, and what the model was asked.
A script that lists no lines cannot be told. -/
def dialogueState (style : DialogueStyle) (id? : Option PartId) (w : World) :
    Except Fault (List (String × Json)) := do
  let running? := match style with
    | .typed => w.dialogue?
    | .stepped => w.steppedDialogue?
  match id?.map (part w) with
  | some (.dialogue d) => let _ ← scriptLines w d.script
  | _ => pure ()
  return [("open", .bool (id?.any (w.active.contains ·))), ("active", .bool running?.isSome),
    ("inv", playerBag w), fourCounts w, ("asked", asked w)] ++
    (id?.map fun id => ("d", dialogue w id)).toList

def areaState (w later : World) (a? : Option AreaId) : List (String × Json) :=
  [("name", areaName w a?), ("tiles", tiles w later a?), ("ents", entities w a?), allCounts w]

def playerState (w : World) (a? : Option AreaId) : List (String × Json) :=
  [("ents", entities w a?), ("inv", playerBag w), allCounts w, ("fx", effects w),
    ("dialogue", opt (dialogue w) w.dialogue?)]

def editorState (w later : World) : List (String × Json) :=
  editor w later ++
    [("ents", entities w w.area?), allCounts w, ("stage", opt .str w.stage?),
      ("brush", opt (labelText w) w.editor.brush?)]

def changedMaps (before after : World) : String × Json :=
  let files (w : World) := w.disk.filesIn (Text.split '/' Disk.mapFolder)
  ("files", .obj (((files after).filter fun f => !(files before).contains f).map fun f =>
    (f.1, .str (Text.hex f.2))))

/-- The game as it is between two frames, with tiles as they are at a later time. -/
def game (w later : World) : List (String × Json) :=
  let only (b : Bool) (fields : List (String × Json)) : List (String × Json) :=
    if b then fields else []
  [allCounts w, ("area", areaName w w.area?), ("ents", entities w w.area?), ("labels", lines w)] ++
    only (!w.areas.isEmpty) [("inv", playerBag w), ("slot", playerSlot w)] ++
    only (!w.effects.isEmpty) [("fx", effects w)] ++
    (w.dialogue?.map fun d => ("dialogue", dialogue w d)).toList ++
    only (w.stage? = some "EditorEditMap") [("editor", .obj (editor w later))]

end Inspect

end TileQuest
