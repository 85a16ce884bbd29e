import TileQuest.Fault

/-!
# Signed positions in a list

Tables of the game are read at signed positions: zero is the first entry and minus one the last.
`signedIndex?` turns such a position into an ordinary one, and `entry` reads an entry or reports
that the position lies outside the list.
-/

namespace TileQuest

/-- The ordinary position that a signed one stands for in a list of the given length. -/
def signedIndex? (length : Nat) (i : Int) : Option Nat :=
  if 0 ≤ i then (if i < length then some i.toNat else none)
  else if 0 ≤ i + length then some (i + length).toNat else none

def entry? {α : Type} (xs : List α) (i : Int) : Option α :=
  (signedIndex? xs.length i).bind fun k => xs[k]?

def entry {α : Type} (xs : List α) (i : Int) : Except Fault α :=
  match entry? xs i with
  | some a => .ok a
  | none => .error .outOfRange

theorem entry_natCast {α : Type} (xs : List α) (i : Nat) :
    entry xs (i : Int) = match xs[i]? with
      | some a => .ok a
      | none => .error .outOfRange := by
  by_cases h : i < xs.length <;> simp [entry, entry?, signedIndex?, h]

def lookup {α : Type} (table : List (String × α)) (name : String) : Except Fault α :=
  match table.find? fun row => row.1 == name with
  | some row => .ok row.2
  | none => .error .unknownKey

/-- A table with a value stored under a name: in place if the name is there, at the end if not. -/
def store {α : Type} (table : List (String × α)) (name : String) (value : α) :
    List (String × α) :=
  match table with
  | [] => [(name, value)]
  | row :: rest => if row.1 == name then (name, value) :: rest else row :: store rest name value

end TileQuest
