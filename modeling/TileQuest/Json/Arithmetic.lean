import TileQuest.Indexing
import TileQuest.Json.Basic

/-!
# Arithmetic on values that nobody checked

Amounts, sizes and healths can be set to any JSON value. They are added, compared and cut as far as
their sort allows, and everything else is a fault.

* Numbers are added and compared by value, truth values counting as zero and one.
* Texts are joined, repeated, and compared letter by letter, arrays item by item.
* Objects can only be equal or not, whatever the order of their members.
* Values of different sorts are neither added nor compared.

On whole numbers all of this is plain arithmetic (`Json.plus_int`, `Json.less_int` and so on).
-/

namespace TileQuest

namespace Json

def ofInt (n : Int) : Json := num (.int n)

instance (n : Nat) : OfNat Json n := ⟨ofInt n⟩

/-- The position in a list that a value stands for: a whole number, or a truth value. -/
def toIndex : Json → Except Fault Int
  | num (.int n) => .ok n
  | bool b => .ok (if b then 1 else 0)
  | _ => .error .wrongSort

/-- The entry that a value stands for in a table whose keys are texts. Arrays and objects cannot
even be looked up. -/
def toKey : Json → Except Fault String
  | str s => .ok s
  | arr _ | obj _ => .error .wrongSort
  | _ => .error .unknownKey

/-! ## Sums and differences -/

/-- The sum of two numbers, or two texts or arrays one after the other. -/
def plus : Json → Json → Except Fault Json
  | str a, str b => .ok (str (a ++ b))
  | arr a, arr b => .ok (arr (a ++ b))
  | a, b => do return num (← (← a.toScalar).add (← b.toScalar))

def minus (a b : Json) : Except Fault Json := do
  return num (← (← a.toScalar).sub (← b.toScalar))

/-- The first count that is too large: counts go from `-countBound` to `countBound - 1`. -/
def countBound : Nat := 9223372036854775808

/-- The bytes that there are for one value. -/
def room : Nat := 34359738368

/-- The bytes that each character of a text takes, as many as the largest of them needs. -/
def characterSize (s : String) : Nat :=
  if s.toList.all (·.toNat < 256) then 1 else if s.toList.all (·.toNat < 65536) then 2 else 4

/-- A text or an array can be had so many times: its length can be counted, and there is room. -/
def checkRoom (n : Nat) : Json → Except Fault Unit
  | str s =>
    if countBound ≤ s.length * n then .error .overflow
    else if room < characterSize s * s.length * n then .error .noRoom
    else .ok ()
  | arr items => if room < 8 * items.length * n then .error .noRoom else .ok ()
  | _ => .ok ()

/-- A text or an array so many times. After as many times as a numeral can have digits the rest is
left out: a repetition is only ever read as a number, and one that long is none. -/
def repeated (j count : Json) : Except Fault Json := do
  let n ← count.toIndex
  if n < -countBound || (countBound : Int) ≤ n then throw .overflow
  checkRoom n.toNat j
  j.times (min n.toNat (Text.maxDigits + 1))

/-- The product of two numbers, or a text or an array so many times. -/
def multiplied : Json → Json → Except Fault Json
  | str s, b => repeated (str s) b
  | arr items, b => repeated (arr items) b
  | a, str s => repeated (str s) a
  | a, arr items => repeated (arr items) a
  | a, b => do return num (← (← a.toScalar).mul (← b.toScalar))

def dividedBy (a b : Json) : Except Fault Scalar := do (← a.toScalar).div (← b.toScalar)

/-- The distance between the points `(x, y)` and `(x', y')`, looked at across and then down. -/
def distance (x y x' y' : Json) : Except Fault Scalar := do
  let across ← (← (← x'.toScalar).sub (← x.toScalar)).square
  let down ← (← (← y'.toScalar).sub (← y.toScalar)).square
  Scalar.hypotenuse across down

@[simp] theorem plus_int (a b : Int) :
    plus (num (.int a)) (num (.int b)) = .ok (num (.int (a + b))) := rfl

@[simp] theorem minus_int (a b : Int) :
    minus (num (.int a)) (num (.int b)) = .ok (num (.int (a - b))) := rfl

/-! ## Comparisons -/

mutual

/-- The values are equal: numbers by value, whatever their sort. -/
def equal : Json → Json → Bool
  | num a, num b => a.same b
  | num a, bool b => a.same (if b then 1 else 0)
  | bool a, num b => Scalar.same (if a then 1 else 0) b
  | arr a, arr b => equalItems a b
  | obj a, obj b => decide (a.length = b.length) && equalMembers a b
  | a, b => decide (a = b)

def equalItems : List Json → List Json → Bool
  | [], [] => true
  | a :: as, b :: bs => equal a b && equalItems as bs
  | _, _ => false

/-- The first members are all among the second. -/
def equalMembers : List (String × Json) → List (String × Json) → Bool
  | [], _ => true
  | (name, a) :: as, bs =>
    (match bs.find? fun b => b.1 == name with
      | some (_, b) => equal a b
      | none => false) && equalMembers as bs

end

mutual

/-- The first value comes before the second. -/
def less : Json → Json → Except Fault Bool
  | str a, str b => .ok (decide (a < b))
  | arr a, arr b => lessItems a b
  | a, b => do return (← a.toScalar).lt (← b.toScalar)

/-- The first items come before the second. The first items that differ decide. -/
def lessItems : List Json → List Json → Except Fault Bool
  | _, [] => .ok false
  | [], _ :: _ => .ok true
  | a :: as, b :: bs => if equal a b then lessItems as bs else less a b

end

/-- The first value is equal to the second or comes before it. -/
def atMost (a b : Json) : Except Fault Bool := do return (← less a b) || equal a b

@[simp] theorem equal_int (a b : Int) :
    equal (num (.int a)) (num (.int b)) = decide (a = b) := rfl

@[simp] theorem less_int (a b : Int) :
    less (num (.int a)) (num (.int b)) = .ok (decide (a < b)) := rfl

@[simp] theorem atMost_int (a b : Int) :
    atMost (num (.int a)) (num (.int b)) = .ok (decide (a ≤ b)) := by
  have h : (decide (a < b) || decide (a = b)) = decide (a ≤ b) := by
    rw [Bool.eq_iff_iff]
    simp only [Bool.or_eq_true, decide_eq_true_eq]
    omega
  simp [atMost, bind, Except.bind, pure, Except.pure, h]

/-! ## Parts of texts and collections -/

def characters (s : String) : List Json := s.toList.map fun c => str (String.singleton c)

/-- What a value lists: the items of an array, the characters of a text, the names in an object. -/
def listed : Json → Except Fault (List Json)
  | arr items => .ok items
  | str s => .ok (characters s)
  | obj members => .ok (members.map fun m => str m.1)
  | _ => .error .wrongSort

def length (j : Json) : Except Fault Nat := do return (← j.listed).length

/-- What is at a signed position of an array or a text. -/
def item (j : Json) (i : Int) : Except Fault Json :=
  match j with
  | arr items => entry items i
  | str s => entry (characters s) i
  | obj _ => .error .unknownKey
  | _ => .error .wrongSort

/-- An array or a text with its items changed by a function. -/
def recut (f : {α : Type} → List α → List α) : Json → Except Fault Json
  | arr items => .ok (arr (f items))
  | str s => .ok (str (String.ofList (f s.toList)))
  | _ => .error .wrongSort

/-- An array or a text without its last item. -/
def dropLast : Json → Except Fault Json := recut List.dropLast

/-- The first items of an array or a text. -/
def take (n : Nat) : Json → Except Fault Json := recut (List.take n)

/-- A text with another one behind it, or an array with what a value lists behind it. -/
def extended (j more : Json) : Except Fault Json :=
  match j with
  | arr items => do return arr (items ++ (← more.listed))
  | j => j.plus more

end Json

end TileQuest
