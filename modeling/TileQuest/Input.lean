import TileQuest.Json.Arithmetic

/-!
# Keys, buttons and the mouse

The state of the keyboard and the mouse, and the events that change it. A key is fresh in the
frame in which it went down. What is polled (`Input.held`, `Input.polledButtons`, `Input.mouse`)
follows all events of a frame before the first of them is handled.
-/

namespace TileQuest

inductive Key where
  | char (c : Char)
  | enter
  | backspace
  | escape
  | leftShift
  | rightShift
deriving DecidableEq, Inhabited

/-- The keys that have a name of more than one letter. -/
def Key.named : List (String × Key) :=
  [("space", char ' '), ("return", enter), ("backspace", backspace), ("escape", escape),
    ("period", char '.'), ("comma", char ','), ("minus", char '-'), ("semicolon", char ';'),
    ("quote", char '\''), ("slash", char '/'), ("backslash", char '\\'), ("equals", char '='),
    ("lshift", leftShift), ("rshift", rightShift)]

/-- The key that types a letter or digit. -/
def Key.ofChar (c : Char) : Except Fault Key :=
  if c.isLower || c.isDigit then .ok (char c) else .error .unknownKey

/-- A key by its name. Small letters and digits name themselves. -/
def Key.ofName (name : String) : Except Fault Key :=
  match name.toList with
  | [c] => ofChar c
  | _ => lookup named name

/-- A mouse button: a whole number as a rule, and otherwise a value that is none. Equal values are
one button. -/
abbrev MouseButton := Json

namespace MouseButton

/-- The button of a number, which is a whole number if it has the value of one. -/
def ofScalar (x : Scalar) : MouseButton :=
  match x.trunc with
  | .ok n => if x.same n then .ofInt n else .num x
  | .error _ => .num x

def ofValue : Json → Except Fault MouseButton
  | .arr _ | .obj _ => .error .wrongSort
  | .bool b => .ok (.ofInt (if b then 1 else 0))
  | .num x => .ok (ofScalar x)
  | j => .ok j

end MouseButton

/-- The state of the keyboard and the mouse. -/
structure Input where
  down : List Key := []
  fresh : List Key := []
  buttonsDown : List MouseButton := []
  freshButtons : List MouseButton := []
  held : List Key := []
  polledButtons : Except Fault (List Bool) := .ok [false, false, false]
  mouse : Except Fault Scalar × Except Fault Scalar := (.ok 0, .ok 0)
  /-- How far the wheel was turned in this frame. -/
  scroll : Scalar := 0

inductive Event where
  | keyDown (k : Key)
  | keyUp (k : Key)
  | buttonDown (b : MouseButton)
  | buttonUp (b : MouseButton)
  | mouseMove (x y : Json)
  | wheel (amount : Json)
  | text (s : Json)
  | quit
deriving DecidableEq, Inhabited

namespace Input

def isDown (i : Input) (k : Key) : Bool := i.down.contains k

def isFresh (i : Input) (k : Key) : Bool := i.fresh.contains k

def isFreshButton (i : Input) (b : MouseButton) : Bool := i.freshButtons.contains b

def leftIsDown (i : Input) : Except Fault Bool := do entry (← i.polledButtons) 0

def shiftIsHeld (i : Input) : Bool := i.held.contains .leftShift || i.held.contains .rightShift

def insertNew {α : Type} [DecidableEq α] (xs : List α) (a : α) : List α :=
  if a ∈ xs then xs else xs ++ [a]

def pollButton (i : Input) (b : MouseButton) (isDown : Bool) : Input :=
  match [1, 2, 3].idxOf? b with
  | some k => { i with polledButtons := i.polledButtons.map (·.set k isDown) }
  | none => i

def poll (i : Input) : Event → Input
  | .keyDown k => { i with held := insertNew i.held k }
  | .keyUp k => { i with held := i.held.erase k }
  | .buttonDown b => i.pollButton b true
  | .buttonUp b => i.pollButton b false
  | .mouseMove x y => { i with mouse := (x.toScalar, y.toScalar) }
  | _ => i

/-- The start of a frame: nothing is fresh, and the polled state follows the events. -/
def beginFrame (i : Input) (events : List Event) : Input :=
  events.foldl poll { i with scroll := 0, fresh := [], freshButtons := [] }

end Input

end TileQuest
