import TileQuest.Number.Shortest
import TileQuest.Text.Numeral
import TileQuest.Text.Printable

/-!
# JSON values

What a language model answers is JSON, and any part of it can become a line of dialogue. The stats
of items and the arguments of entities are JSON values too, since nobody checks them before they are
used. The members of an object keep their order. `Json.shown` is how a value reads on a line.
-/

namespace TileQuest

inductive Json where
  | null
  | bool (b : Bool)
  | num (x : Scalar)
  | str (s : String)
  | arr (items : List Json)
  | obj (members : List (String × Json))
deriving Inhabited

instance : Coe Scalar Json := ⟨Json.num⟩

namespace Json

def str? : Json → Option String
  | str s => some s
  | _ => none

/-- The member of an object with a name. The last one counts when there are several. -/
def member? (j : Json) (name : String) : Option Json :=
  match j with
  | obj members => (members.reverse.find? fun m => m.1 == name).map (·.2)
  | _ => none

/-! ## Equality -/

mutual

def same : Json → Json → Bool
  | null, null => true
  | bool a, bool b => a == b
  | num a, num b => decide (a = b)
  | str a, str b => decide (a = b)
  | arr a, arr b => sameItems a b
  | obj a, obj b => sameMembers a b
  | _, _ => false

def sameItems : List Json → List Json → Bool
  | [], [] => true
  | a :: as, b :: bs => same a b && sameItems as bs
  | _, _ => false

def sameMembers : List (String × Json) → List (String × Json) → Bool
  | [], [] => true
  | (n, a) :: as, (m, b) :: bs => decide (n = m) && same a b && sameMembers as bs
  | _, _ => false

end

mutual

theorem same_iff (a b : Json) : same a b = true ↔ a = b := by
  cases a <;> cases b <;> simp [same, sameItems_iff, sameMembers_iff]

theorem sameItems_iff (as bs : List Json) : sameItems as bs = true ↔ as = bs := by
  cases as <;> cases bs <;> simp [sameItems, same_iff, sameItems_iff]

theorem sameMembers_iff (as bs : List (String × Json)) : sameMembers as bs = true ↔ as = bs := by
  rcases as with - | ⟨⟨n, a⟩, as⟩ <;> rcases bs with - | ⟨⟨m, b⟩, bs⟩ <;>
    simp [sameMembers, same_iff, sameMembers_iff, and_assoc]

end

instance : DecidableEq Json := fun a b => decidable_of_iff _ (same_iff a b)

/-! ## Uses of a value -/

/-- The number that a value is. A truth value counts as zero or one. -/
def toScalar : Json → Except Fault Scalar
  | num x => .ok x
  | bool b => .ok (if b then 1 else 0)
  | _ => .error .wrongSort

/-- The whole number that a value stands for: a number cut off toward zero, or a text that is read
as one. -/
def toInt : Json → Except Fault Int
  | num x => x.trunc
  | bool b => .ok (if b then 1 else 0)
  | str s => Text.parseInt s
  | _ => .error .wrongSort

def toText : Json → Except Fault String
  | str s => .ok s
  | _ => .error .wrongSort

/-- The value is neither empty nor zero. -/
def isTruthy : Json → Bool
  | null => false
  | bool b => b
  | num x => !x.isZero
  | str s => !s.isEmpty
  | arr items => !items.isEmpty
  | obj members => !members.isEmpty

/-- So many times a value: the product for a number, and a repetition for texts and arrays. -/
def times (n : Nat) : Json → Except Fault Json
  | str s => .ok (str (String.join (List.replicate n s)))
  | arr items => .ok (arr (List.replicate n items).flatten)
  | j => do return num (← (← j.toScalar).mul n)

/-! ## Text of a value -/

/-- Hexadecimal digits, at least `width` of them. -/
def hex (width n : Nat) : List Char :=
  let ds := Nat.toDigits 16 n
  List.replicate (width - ds.length) '0' ++ ds

def quotedChar (quote : Char) (c : Char) : List Char :=
  if c = quote || c = '\\' then ['\\', c]
  else if c = '\n' then ['\\', 'n']
  else if c = '\r' then ['\\', 'r']
  else if c = '\t' then ['\\', 't']
  else if Text.printable.holds c then [c]
  else if c.toNat < 0x100 then ['\\', 'x'] ++ hex 2 c.toNat
  else if c.toNat < 0x10000 then ['\\', 'u'] ++ hex 4 c.toNat
  else ['\\', 'U'] ++ hex 8 c.toNat

/-- A string between quotes: single ones, unless only double ones leave it plain. -/
def quoted (s : String) : String :=
  let cs := s.toList
  let quote := if cs.contains '\'' && !cs.contains '"' then '"' else '\''
  String.ofList (quote :: cs.flatMap (quotedChar quote) ++ [quote])

mutual

/-- The text of a value inside another. -/
def inner : Json → String
  | null => "None"
  | bool b => if b then "True" else "False"
  | num x => x.text
  | str s => quoted s
  | arr items => "[" ++ innerItems items ++ "]"
  | obj members => "\x7b" ++ innerMembers members ++ "\x7d"

def innerItems : List Json → String
  | [] => ""
  | [item] => inner item
  | item :: items => inner item ++ ", " ++ innerItems items

def innerMembers : List (String × Json) → String
  | [] => ""
  | [(name, value)] => quoted name ++ ": " ++ inner value
  | (name, value) :: members =>
    quoted name ++ ": " ++ inner value ++ ", " ++ innerMembers members

end

/-- The text of a value on a line of its own. -/
def shown : Json → String
  | str s => s
  | j => inner j

end Json

end TileQuest
