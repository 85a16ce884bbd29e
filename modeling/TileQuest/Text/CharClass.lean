/-!
# Classes of characters

A class of characters is told by how long the runs of code points are that are outside and inside,
in turn, from the first code point on.
-/

namespace TileQuest.Text

/-- A class of characters: the lengths of the runs outside and inside. -/
abbrev CharClass := List Nat

/-- The code point lies in a run that is inside. -/
def CharClass.contains : CharClass → Nat → Bool
  | outside :: inside :: rest, n =>
    outside ≤ n && (n < outside + inside || contains rest (n - outside - inside))
  | _, _ => false

def CharClass.holds (cls : CharClass) (c : Char) : Bool := cls.contains c.toNat

end TileQuest.Text
