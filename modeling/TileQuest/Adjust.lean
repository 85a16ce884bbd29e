import TileQuest.Frame

/-!
# Changing a running game from outside

Properties of parts by name, the keyboard and the mouse, for tools that steer a game. A property is
simply set: nothing is rendered, registered or announced, and only later uses of the value can fail.

A handler that is set can do nothing any more. Where a property holds what no value can stand for,
the part cannot be looked at any more (`Adjust.unreadable?`), or it has lost what the property was
for (`Adjust.faculty?`).
-/

namespace TileQuest

namespace Adjust

/-! ## Properties -/

def textField (name : String) (value : Json) (f : TextField) : TextField :=
  match name with
  | "active" => { f with active := value }
  | "blink_step" => { f with blink := value }
  | "max_text" => { f with maxText := value }
  | "click_area" => { f with area? := none }
  | "on_change" => { f with onChange? := if value matches .null then none else some .unfit }
  | _ => f

def bar (name : String) (value : Json) (b : Bar) : Bar :=
  match name with
  | "amount" => { b with amount := value }
  | "max" => { b with max := value }
  | "width" => { b with width := value }
  | "height" => { b with height := value }
  | "back_color" => { b with backColor := value }
  | "front_color" => { b with frontColor := value }
  | _ => b

def scrollView (name : String) (value : Json) (s : ScrollView) : ScrollView :=
  match name with
  | "inner_y" => { s with innerY := value }
  | "item_size" => { s with itemSize := value }
  | "items" => { s with items := value }
  | "on_choose" => { s with onChoose := .unfit }
  | "child_entities" => { s with children := [] }
  | _ => s

def inventoryView (name : String) (value : Json) (v : InventoryView) : InventoryView :=
  match name with
  | "slot_image" => { v with slotImage := value }
  | "selected_slot_image" => { v with handImage := value }
  | _ => v

def editorHelper (name : String) (value : Json) (h : EditorHelper) : EditorHelper :=
  match name with
  | "on_click" => { h with onClick := .unfit }
  | "sidebar" => { h with knowsSidebar := value matches .null }
  | _ => h

def combat (name : String) (value : Json) (c : Combat) : Combat :=
  match name with
  | "health" => { c with health := value }
  | "max_health" => { c with maxHealth := value }
  | "regen" => { c with regeneration := value }
  | "global_cooldown" => { c with cooldown := value }
  | "equipped" => { c with equipped? := none }
  | "weapon_sprite" => { c with weapon? := none }
  | "sound" => { c with sound? := if value matches .null then none else some .unfit }
  | "on_death" => { c with onDeath := .unfit }
  | _ => c

def label (name : String) (value : Json) (l : Label) : Label :=
  match name with
  | "text" => { l with text := value }
  | "font" => { l with size? := none }
  | _ => l

def part (name : String) (value : Json) (p : Part) : Part :=
  match p with
  | .label l => .label (label name value l)
  | .textField l f => .textField (label name value l) (textField name value f)
  | .button b => .button (if name = "on" then { b with action := .unfit } else b)
  | .bar b => .bar (bar name value b)
  | .scrollView s => .scrollView (scrollView name value s)
  | .inventoryView v => .inventoryView (inventoryView name value v)
  | .editorHelper h => .editorHelper (editorHelper name value h)
  | .combat c => .combat (combat name value c)
  | p => p

/-- Why a part cannot be looked at any more after a property was set. -/
def unreadable? (name : String) (value : Json) : Part → Option Fault
  | .button _ => if name = "click_area" then some .absent else none
  | .label _ =>
    if name = "surface" then some .absent
    else if name = "get_bounds" then some .wrongSort
    else none
  | .textField .. => if name = "surface" then some .absent else none
  | .scrollView _ =>
    match name, value.length with
    | "click_area", _ => some .absent
    | "get_scroll_max", _ => some .wrongSort
    | "child_entities", .ok 0 => none
    | "child_entities", .ok _ => some .absent
    | "child_entities", .error fault => some fault
    | "drawables", .error fault => some fault
    | _, _ => none
  | .inventoryView _ => if name = "inventory" || name = "window" then some .absent else none
  | .combat _ =>
    if (name = "equipped" || name = "weapon_sprite") && value ≠ .null then some .absent else none
  | _ => none

/-- The properties that hold a faculty of a part, or something that a faculty needs. -/
def faculties : List (String × Faculty) :=
  [("update", .act), ("draw", .draw), ("breakdown", .breakDown), ("set_text", .say),
    ("text_input", .hear), ("switch_tool", .changeTool), ("equip", .equip),
    ("unequip", .unequip), ("attack", .attack), ("perform_attack", .attackAround),
    ("refresh", .refresh), ("render", .render), ("clear", .clear), ("shadow_surface", .shadow),
    ("background", .backdrop), ("surface", .canvas), ("cursor", .cursor),
    ("child_entities", .children), ("drawables", .content)]

def faculty? (name : String) : Option Faculty := (faculties.find? (·.1 == name)).map (·.2)

/-- A value will do for a faculty: only collections can be emptied, and nothing else can be given
as a value. -/
def serves (f : Faculty) : Json → Bool
  | .arr _ | .obj _ => f = .children || f = .content
  | _ => false

/-! ## All properties at once -/

/-- The properties without which a part cannot be looked at, none for a part that cannot be looked
at whatever values its properties get. -/
def needed? : Part → Option (List String)
  | .bar _ => some ["amount", "max"]
  | .combat _ =>
    some ["health", "max_health", "regen", "global_cooldown", "equipped", "weapon_sprite", "sound"]
  | .button _ | .label _ | .textField .. | .scrollView _ | .inventoryView _ => none
  | _ => some []

def isEnough (p : Part) (properties : List (String × Json)) : Bool :=
  match needed? p with
  | some names => names.all fun name => properties.any (·.1 == name)
  | none => false

/-- A part without the properties that it can do without. -/
def stripped : Part → Part
  | .editorHelper _ => .editorHelper { onClick := .gone }
  | p => p

inductive Aspect where
  | sort
  | referrers
  | properties
  | property (name : String)
deriving DecidableEq, Inhabited

/-! ## The keyboard and the mouse -/

def key (name : Json) : Except Fault Key := do Key.ofName (← name.toKey)

def keys (names : Json) : Except Fault (List Key) := do (← names.listed).mapM key

def coordinate (place : Json) (i : Nat) : Except Fault Scalar := do
  (← entry (← place.listed) i).toScalar

/-- The first of some values, read one by one as long as that works, and the fault it ends with. -/
def readUntil {α : Type} (read : Json → Except Fault α) : List Json → List α × Option Fault
  | [] => ([], none)
  | j :: rest =>
    match read j with
    | .error fault => ([], some fault)
    | .ok a => ((a :: (readUntil read rest).1), (readUntil read rest).2)

/-- The properties of the keyboard and the mouse, in the order in which they are set. -/
def inputNames : List String := ["down", "just", "held", "buttons", "mouse", "pressed", "scroll"]

end Adjust

namespace Game

def replaceDrawn (id : PartId) (count : Nat) : Game Unit := do
  let blank ← newPart .window
  modifyPart id fun p => match p with
    | .scrollView s => .scrollView { s with drawn := List.replicate count blank }
    | p => p

def setProperty (id : PartId) (name : String) (value : Json) : Game Unit := do
  (Adjust.faculty? name).forM fun f => if Adjust.serves f value then regain id f else lose id f
  match Adjust.unreadable? name value (← part id) with
  | some fault => spoil id fault
  | none => pure ()
  if name = "entity" then setOwner id none
  else if name = "drawables" then value.length.toOption.forM (replaceDrawn id)
  else modifyPart id (Adjust.part name value)

def replaceProperties (id : PartId) (properties : List (String × Json)) : Game Unit := do
  if !Adjust.isEnough (← part id) properties then spoil id .absent
  setOwner id none
  regainAll id
  modifyPart id Adjust.stripped
  properties.forM fun (name, value) => setProperty id name value

/-- Set an aspect of a part. What sort of part it is cannot be set, nor who refers to it, and all
its properties only to an object. -/
def adjust (id : PartId) (aspect : Adjust.Aspect) (value : Json) : Game Unit := do
  match aspect, value with
  | .sort, _ => throw .wrongSort
  | .referrers, _ => throw .absent
  | .properties, .obj properties => replaceProperties id properties
  | .properties, _ => throw .wrongSort
  | .property name, _ => setProperty id name value

/-- Put other members into a set, one by one. It is emptied first, so what cannot be read leaves
only what came before it. -/
def refill {α : Type} (read : Json → Except Fault α) (set : List α → Input → Input)
    (values : Json) : Game Unit := do
  modifyInput (set [])
  let (members, fault?) := Adjust.readUntil read (← values.listed)
  modifyInput (set members)
  fault?.forM throw

/-- Set a property of the keyboard and the mouse. -/
def adjustInputPart (name : String) (value : Json) : Game Unit := do
  match name with
  | "down" => refill Adjust.key (fun keys i => { i with down := keys }) value
  | "just" => refill Adjust.key (fun keys i => { i with fresh := keys }) value
  | "held" =>
    let held ← Adjust.keys value
    modifyInput ({ · with held })
  | "buttons" =>
    refill MouseButton.ofValue (fun buttons i => { i with freshButtons := buttons }) value
  | "mouse" =>
    modifyInput ({ · with mouse := (Adjust.coordinate value 0, Adjust.coordinate value 1) })
  | "pressed" =>
    modifyInput ({ · with polledButtons := value.listed.map fun bs => bs.map (·.isTruthy) })
  | "scroll" =>
    modifyInput ({ · with scroll := 0 })
    let scroll ← Scalar.add 0 (← value.toScalar)
    modifyInput ({ · with scroll })
  | _ => return

/-- Set the state of the keyboard and the mouse, as far as a value has something to say about
it. -/
def adjustInput (value : Json) : Game Unit :=
  Adjust.inputNames.forM fun name => (value.member? name).forM (adjustInputPart name)

def press (keys : List Key) (id : PartId) : Game Unit := do
  modifyInput ({ · with fresh := keys })
  tryFinally (update id) (modifyInput ({ · with fresh := [] }))

def typeKeys (text : Json) (id : PartId) : Game Unit := do
  (← text.listed).forM fun name => do
    press [← if name = .str " " then pure (Key.char ' ') else Adjust.key name] id

end Game

end TileQuest
