import TileQuest.Fault
import TileQuest.Number.Square

/-!
# Scalars

Positions, healths, cooldowns and sizes are whole numbers of any size until a rule with fractions
touches them, and binary64 numbers from then on. Whole numbers are added, multiplied and compared
exactly; one that meets a binary64 number is rounded first, and refused when it is out of range. A
quotient is always a binary64 number, the exact quotient rounded once.

Comparison is by value: `Scalar.lt` never rounds and never fails.
-/

namespace TileQuest

/-- A whole number or a binary64 number. -/
inductive Scalar where
  | int (n : Int)
  | real (x : Binary64)
deriving DecidableEq

namespace Scalar

instance : Inhabited Scalar := ⟨int 0⟩

instance (n : Nat) : OfNat Scalar n := ⟨int n⟩

instance : Coe Int Scalar := ⟨int⟩

instance : Coe Nat Scalar := ⟨fun n => int n⟩

/-- The binary64 number nearest to a rational, as a scalar. -/
def ofRat (q : Rat) : Scalar := real (.round q)

def exact : Scalar → Binary64
  | int n => .finite n
  | real x => x

/-! ## Arithmetic -/

/-- The nearest binary64 number, refused when the whole number is beyond the range. -/
def toBinary64 (a : Scalar) : Except Fault Binary64 :=
  match a with
  | int n =>
    match Binary64.round n with
    | .infinite _ => .error .overflow
    | x => .ok x
  | real x => .ok x

/-- An operation on binary64 numbers, for scalars that are not both whole. -/
def mixed (op : Binary64 → Binary64 → Binary64) (a b : Scalar) : Except Fault Scalar := do
  let x ← a.toBinary64
  let y ← b.toBinary64
  return real (op x y)

def add : Scalar → Scalar → Except Fault Scalar
  | int a, int b => .ok (int (a + b))
  | a, b => mixed Binary64.add a b

def sub : Scalar → Scalar → Except Fault Scalar
  | int a, int b => .ok (int (a - b))
  | a, b => mixed Binary64.sub a b

def mul : Scalar → Scalar → Except Fault Scalar
  | int a, int b => .ok (int (a * b))
  | a, b => mixed Binary64.mul a b

/-- The quotient of whole numbers: the exact quotient, rounded. It is refused when it is beyond
the range. -/
def divInts (a b : Int) : Except Fault Scalar :=
  if b = 0 then .error .divisionByZero
  else
    match Binary64.roundSigned ((a : Rat) / (b : Rat)) (decide (a < 0) != decide (b < 0)) with
    | .infinite _ => .error .overflow
    | x => .ok (real x)

def div : Scalar → Scalar → Except Fault Scalar
  | int a, int b => divInts a b
  | a, b => do
    let x ← a.toBinary64
    let y ← b.toBinary64
    if y.isZero then throw .divisionByZero
    return real (x.div y)

/-- The scalar moved by a whole number, for moves that are small enough for binary64. -/
def shift (a : Scalar) (n : Int) : Scalar :=
  match a with
  | int m => int (m + n)
  | real x => real (x.add (.round n))

def abs : Scalar → Scalar
  | int n => int n.natAbs
  | real x => real x.abs

/-! ## Order -/

def lt : Scalar → Scalar → Bool
  | int a, int b => decide (a < b)
  | a, b => a.exact.lt b.exact

def le : Scalar → Scalar → Bool
  | int a, int b => decide (a ≤ b)
  | a, b => a.exact.le b.exact

def same : Scalar → Scalar → Bool
  | int a, int b => decide (a = b)
  | a, b => a.exact.same b.exact

instance : LT Scalar := ⟨fun a b => a.lt b = true⟩
instance : LE Scalar := ⟨fun a b => a.le b = true⟩
instance (a b : Scalar) : Decidable (a < b) := inferInstanceAs (Decidable (a.lt b = true))
instance (a b : Scalar) : Decidable (a ≤ b) := inferInstanceAs (Decidable (a.le b = true))

def isZero (a : Scalar) : Bool := a.same 0

/-! ## Whole parts -/

/-- The whole number that `pick` takes for a finite number. -/
def whole (pick : Rat → Int) : Scalar → Except Fault Int
  | int n => .ok n
  | real (.finite q) => .ok (pick q)
  | real .negativeZero => .ok 0
  | real (.infinite _) => .error .overflow
  | real (.nan _) => .error .notANumber

/-- The whole part, cut off toward zero. -/
def trunc : Scalar → Except Fault Int := whole fun q => q.num.tdiv q.den

/-- The least whole number that is not below. -/
def ceil : Scalar → Except Fault Int := whole Rat.ceil

/-- The remainder by a positive divisor, between zero and the divisor. -/
def mod (a : Scalar) (d : Nat) : Scalar :=
  match a with
  | int n => int (n % d)
  | real x =>
    match x.rat?, x with
    | some q, _ => ofRat (q - (d : Rat) * (q / (d : Rat)).floor)
    | none, .nan s => real (.nan s)
    | none, _ => real (.nan true)

def half : Scalar → Scalar
  | int n => int (n / 2)
  | real (.finite q) => ofRat (q / 2).floor
  | real .negativeZero => real .negativeZero
  | real (.infinite _) => real (.nan true)
  | real (.nan s) => real (.nan s)

/-! ## Squares and roots -/

/-- The square, refused when a finite number has an infinite one. -/
def square : Scalar → Except Fault Scalar
  | int n => .ok (int (n * n))
  | real x =>
    match x.rat?, x.square with
    | some _, .infinite _ => .error .overflow
    | _, y => .ok (real y)

/-- The longest side of a right triangle, given the squares of the other two. -/
def hypotenuse (across down : Scalar) : Except Fault Scalar := do
  return real (← (← across.add down).toBinary64).sqrt

end Scalar

end TileQuest
