import TileQuest.Frame
import TileQuest.Text.Hex

/-!
# Building from descriptions

Items, map files, events and parts as JSON values describe them, for tools that set a scene up.
What a description does not name has a default, and what it names is taken as it is.
-/

namespace TileQuest

namespace Blueprint

/-! ## Options -/

def option (j : Json) (name : String) (otherwise : Json) : Json := (j.member? name).getD otherwise

def required (j : Json) (name : String) : Except Fault Json :=
  match j.member? name with
  | some value => .ok value
  | none => .error .wrongSort

/-- Something that every description of its sort states. -/
def stated (j : Json) (name : String) : Except Fault Json :=
  match j.member? name with
  | some value => .ok value
  | none => .error .unknownKey

def isChosen (j : Json) (name : String) : Bool := (option j name .null).isTruthy

def items : Json → List Json
  | .arr items => items
  | _ => []

def members : Json → List (String × Json)
  | .obj members => members
  | _ => []

def whole (j : Json) : Int := j.toInt.toOption.getD 0

/-- A rectangle: its left and upper edge, its width and its height. -/
def rect (j : Json) : Except Fault Rect := do
  match ← j.listed with
  | [x, y, w, h] => Rect.ofValues x y w h
  | _ => throw .wrongSort

def pair (j : Json) : Except Fault (Json × Json) := do
  match ← j.listed with
  | [a, b] => return (a, b)
  | _ => throw .notListed

/-- The hitbox of a body or trigger. What is left out at the end is that of a tile in its place. -/
def hitboxOf (j : Json) : Except Fault Rect := do
  let values ← j.listed
  if 4 < values.length then throw .wrongSort
  Rect.ofValues (values.getD 0 0) (values.getD 1 0) (values.getD 2 32) (values.getD 3 32)

/-- The area of a button, which is as large as a tile if it is left open. -/
def clickArea : Json → Except Fault Rect
  | .null => .ok { w := 32, h := 32 }
  | j => rect j

def coordinates (place : Json) : Except Fault (Json × Json) := do
  return (← place.item 0, ← place.item 1)

/-! ## Items -/

/-- The stats that an item cannot have, since they are what it is made from. -/
def reservedStats : List String := ["self", "name", "icon", "stack_size"]

def statsOf : Json → Except Fault (List (String × Json))
  | .obj members => .ok members
  | _ => .error .wrongSort

def itemType (j : Json) (number : Nat) : Except Fault ItemType := do
  let name ← stated j "name"
  let stats ← statsOf (option j "stats" (.obj []))
  if stats.any fun stat => reservedStats.contains stat.1 then throw .wrongSort
  let icon ← (option j "icon" (.str "axe.png")).toText
  let _ ← Image.load icon
  return { number, name, icon, stats, stackSize := option j "stack" 1 }

def itemTypes : Json → Except Fault (List ItemType)
  | .null => .ok ItemType.all
  | j => (items j).zipIdx.mapM fun (t, number) => itemType t number

/-! ## Map files -/

def withTiles (width : Int) (tiles : Array Int) (changes : Json) : Array Int :=
  (items changes).foldl (fun (tiles : Array Int) (change : Json) =>
    let number (i : Nat) : Int := whole ((items change).getD i .null)
    tiles.setIfInBounds (number 1 * width + number 0).toNat (number 2)) tiles

/-- The bytes of a map file: as digits, as a text, or from its size, tiles and entities. -/
def mapFile (j : Json) : List UInt8 :=
  match j.member? "hex", j.member? "text" with
  | some digits, _ => Text.unhex digits.shown
  | none, some text => Text.encode text.shown
  | none, none =>
    let width := whole (option j "w" .null)
    let height := whole (option j "h" .null)
    let blank := Array.replicate (width * height).toNat (whole (option j "fill" .null))
    MapFile.write width height ((withTiles width blank (option j "set" .null)).toList.map .ofInt)
      ((items (option j "ents" .null)).map (·.shown))

/-! ## Events -/

def key (name : Json) : Except Fault Key := do Key.ofName (← name.toKey)

def event? (j : Json) : Except Fault (Option Event) := do
  let a := (items j).getD 1 .null
  match items j with
  | .str "down" :: _ => return some (.keyDown (← key a))
  | .str "up" :: _ => return some (.keyUp (← key a))
  | .str "mdown" :: _ => return some (.buttonDown (← MouseButton.ofValue a))
  | .str "mup" :: _ => return some (.buttonUp (← MouseButton.ofValue a))
  | .str "move" :: _ => return some (.mouseMove a ((items j).getD 2 .null))
  | .str "wheel" :: _ => return some (.wheel a)
  | .str "text" :: _ => return some (.text a)
  | .str "quit" :: _ => return some .quit
  | _ => return none

def events (j : Json) : Except Fault (List Event) := do
  return (← (items j).mapM event?).filterMap id

/-! ## Parts -/

/-- The options that a kind of part takes. The other kinds pass over what they do not know. -/
def knownOptions? : String → Option (List String)
  | "label" => some ["font", "text", "size", "color"]
  | "text" => some ["font", "text", "size", "max_text", "width", "color", "watch"]
  | "bar" => some ["max", "width", "height"]
  | "window" => some ["width", "height"]
  | "scroll" => some ["items", "item_size", "width", "height", "sprites", "printer"]
  | _ => none

/-- The kind of part takes all options that a description names. -/
def fitsKind (kind : String) (j : Json) : Bool :=
  match knownOptions? kind with
  | some known => (members j).all fun o => known.contains o.1
  | none => true

end Blueprint

namespace Game

open Blueprint

def spawnAt (parts : List PartId) (place : Json) : Game EntityId := do
  let (x, y) ← coordinates place
  spawn parts x y

def enterArea (e : EntityId) : Game Unit := do
  modifyArea (← currentArea) fun a => { a with entities := a.entities ++ [e] }

/-- A sort of sprite from the arguments it is made with, some of which may be left out. -/
def buildLook (kind : String) (args : List Json) : Game PartId := do
  let within (least most : Nat) : Game Unit := do
    if args.length < least || most < args.length then throw .wrongSort
  let value (i : Nat) (otherwise : Json) : Json := args.getD i otherwise
  match kind with
  | "Sprite" =>
    within 1 2
    newSprite (← (value 0 .null).toText) (value 1 .null).isTruthy
  | "Atlas" =>
    within 5 6
    newSheet (value 0 .null) (value 1 .null) (value 2 .null) (value 3 .null) (value 4 .null)
      (value 5 .null).isTruthy none
  | _ =>
    within 3 6
    newAnimation (value 0 .null) (value 1 .null) (value 2 .null)
      (value 3 (.arr [Cell.of 0 0])) (value 4 10) (value 5 .null).isTruthy

/-- A hitbox in an entity of its own. -/
def buildShape (j : Json) : Game PartId := do
  let box ← stated j "box"
  let id ← match option j "kind" .null with
    | .str "body" => newBody (← hitboxOf box)
    | .str "trigger" => newTrigger (← hitboxOf box) .plain
    | _ => newPart (.shape (← rect box))
  let _ ← spawnAt [id] (← stated j "at")
  return id

def buildFighter (j : Json) (tag : Nat) : Game PartId := do
  let fighter ← newCombat (← stated j "health") (.note tag)
  let body ← match option j "body" .null with
    | .null => pure []
    | box => do pure [← newBody (← hitboxOf box)]
  enterArea (← spawnAt (fighter :: body) (← stated j "at"))
  return fighter

/-- Put the items of a list into an inventory, each given by its number and its amount. -/
def giveAll (id : BagId) (j : Json) : Game Unit := do
  (← j.listed).forM fun row => do
    let (number, amount) ← pair row
    let _ ← give id (← entry ItemType.all (← number.toIndex)) amount

/-- An inventory, what is in it, and the slot in hand. -/
def buildBag (j : Json) : Game BagId := do
  let id ← newBag (← (option j "capacity" .null).toIndex)
  giveAll id (option j "items" (.arr []))
  match option j "slot" .null with
  | .null => return id
  | slot =>
    modifyBag id fun b => { b with inventory := { b.inventory with equipped? := some slot } }
    return id

def buildPart (kind : String) (j : Json) (tag : Nat) : Game PartId := do
  match kind with
  | "button" => newButton (.note tag) (← clickArea (option j "rect" .null))
  | "label" => newLabel (← (← required j "font").toText) (← required j "text") (option j "size" 32)
  | "text" =>
    newTextField
      { font := ← (← required j "font").toText, text := option j "text" (.str ""),
        size := option j "size" 32, maxText := option j "max_text" 30,
        width := option j "width" 400, color := option j "color" (.arr white),
        onChange? := if isChosen j "watch" then some (.note tag) else none }
  | "bar" => newBar (← required j "max") (option j "width" 300) (option j "height" 20)
  | "window" => newPart .window
  | "scroll" =>
    let width ← (option j "width" 200).toScalar
    newList
      { items := ← required j "items", showsImages := isChosen j "sprites",
        onChoose := if isChosen j "printer" then .unfit else .note tag,
        itemSize := ← required j "item_size",
        area := ← ScrollView.outline width (← (option j "height" 500).toScalar) }
  | "helper" => newEditorHelper (.note tag)
  | _ => newBagView (← buildBag j)

/-- A part on the screen, in an entity of its own. A label that is a button counts as the
button. -/
def buildWidget (kind : String) (place j : Json) (tag : Nat) : Game PartId := do
  if !fitsKind kind j then throw .wrongSort
  if kind = "simple" then
    let (x, y) ← coordinates place
    let e ← placeLabelButton (.note tag) (← (← required j "font").toText) (← required j "text")
      (option j "size" 32) x y
    find e fun p => p matches .button _
  else
    let id ← buildPart kind j tag
    let _ ← spawnAt [id] place
    return id

end Game

end TileQuest
