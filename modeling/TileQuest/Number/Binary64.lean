/-!
# Binary64 numbers

A finite binary64 number is held as the rational it stands for. Every operation is then the exact
operation on rationals followed by one rounding, `Binary64.round`: to the nearest number with a
significand of 53 bits and an exponent of at least `-1074`, a tie going to the even significand.

A rational that already has that form is its own rounding, and `Binary64.round` tests for this
first (`Binary64.round_of_fits`), so what stays on the grid of halves is exact by definition.

Zero has two forms, the plain one and `Binary64.negativeZero`, which differ only in how they are
written and in the sign of what they are multiplied with. What is not a number has a sign too. An
operation without a value gives the negative form, and one on what is not a number its first such
operand.
-/

namespace TileQuest

inductive Binary64 where
  | finite (value : Rat)
  | negativeZero
  | infinite (negative : Bool)
  | nan (negative : Bool)
deriving DecidableEq, Inhabited

namespace Binary64

/-! ## Rounding -/

def twoTo (k : Nat) : Nat := Nat.pow 2 k

/-- `num / den` to the nearest whole number, a tie going to the even neighbour. -/
def nearestEven (num den : Nat) : Nat :=
  let whole := num / den
  let rest := num % den
  if 2 * rest < den then whole
  else if den < 2 * rest then whole + 1
  else if whole % 2 = 0 then whole else whole + 1

/-- The exponent `e` with `2 ^ e ≤ num / den < 2 ^ (e + 1)`, for positive `num` and `den`. -/
def leadingExponent (num den : Nat) : Int :=
  let guess : Int := (num.log2 : Int) - (den.log2 : Int)
  let reached : Bool :=
    if 0 ≤ guess then decide (den * twoTo guess.toNat ≤ num)
    else decide (den ≤ num * twoTo (-guess).toNat)
  if reached then guess else guess - 1

/-- The rational has a significand of at most 53 bits and a small enough denominator. -/
def fits (q : Rat) : Bool :=
  decide (q.num.natAbs < twoTo 53) && q.den == twoTo q.den.log2 && decide (q.den.log2 ≤ 1074)

def zero (negative : Bool) : Binary64 := if negative then negativeZero else finite 0

/-- The rounding of a rational with a long significand. What is nearest to zero keeps its sign. -/
def roundLong (q : Rat) : Binary64 :=
  let num := q.num.natAbs
  let den := q.den
  let unit := max (leadingExponent num den - 52) (-1074)
  let size : Rat :=
    if 0 ≤ unit then ((nearestEven num (den * twoTo unit.toNat) * twoTo unit.toNat : Nat) : Rat)
    else mkRat (nearestEven (num * twoTo (-unit).toNat) den) (twoTo (-unit).toNat)
  if (twoTo 1024 : Rat) ≤ size then .infinite (decide (q < 0))
  else if size = 0 then zero (decide (q < 0))
  else .finite (if q < 0 then -size else size)

/-- The binary64 number nearest to a rational. -/
def round (q : Rat) : Binary64 :=
  if fits q then .finite q else roundLong q

theorem round_of_fits {q : Rat} (h : fits q = true) : round q = .finite q := by
  simp [round, h]

/-! ## Arithmetic -/

/-- The rational a finite number stands for. -/
def rat? : Binary64 → Option Rat
  | finite q => some q
  | negativeZero => some 0
  | _ => none

def isNegative : Binary64 → Bool
  | finite a => decide (a < 0)
  | negativeZero => true
  | infinite s => s
  | nan s => s

def isZero (a : Binary64) : Bool := a.rat? = some 0

/-- The number with the opposite sign. What is not a number stays what it is. -/
def neg : Binary64 → Binary64
  | finite a => if a = 0 then negativeZero else finite (-a)
  | negativeZero => finite 0
  | infinite s => infinite (!s)
  | nan s => nan s

/-- The rounded sum. The negative zero is the neutral element: a sum of numbers that cancel is the
plain zero. -/
def add : Binary64 → Binary64 → Binary64
  | finite a, finite b => round (a + b)
  | negativeZero, b => b
  | a, negativeZero => a
  | infinite s, infinite t => if s = t then infinite s else nan true
  | infinite s, finite _ => infinite s
  | finite _, infinite s => infinite s
  | nan s, _ => nan s
  | _, nan s => nan s

def sub (a b : Binary64) : Binary64 := add a (neg b)

def signsDiffer (a b : Binary64) : Bool := a.isNegative != b.isNegative

/-- A rounded number, or zero with the given sign. -/
def roundSigned (q : Rat) (negative : Bool) : Binary64 :=
  if q = 0 then zero negative else round q

def mul (a b : Binary64) : Binary64 :=
  match a.rat?, b.rat? with
  | some p, some q => roundSigned (p * q) (signsDiffer a b)
  | _, _ =>
    match a, b with
    | nan s, _ => nan s
    | _, nan s => nan s
    | _, _ => if a.isZero || b.isZero then nan true else infinite (signsDiffer a b)

/-- The rounded quotient. Division by zero is refused where it can arise, so its value here is
of no account. -/
def div (a b : Binary64) : Binary64 :=
  match a, b with
  | nan s, _ => nan s
  | _, nan s => nan s
  | infinite _, infinite _ => nan true
  | infinite _, _ => infinite (signsDiffer a b)
  | _, infinite _ => zero (signsDiffer a b)
  | _, _ =>
    match a.rat?, b.rat? with
    | some p, some q => if q = 0 then nan true else roundSigned (p / q) (signsDiffer a b)
    | _, _ => nan true

def abs : Binary64 → Binary64
  | nan _ => nan false
  | a => if a.isNegative then a.neg else a

/-- The rounded square root. The root is taken of `q * 4 ^ shift`, with at least 55 bits before
the point; one more bit tells whether anything was cut off. -/
def sqrt : Binary64 → Binary64
  | finite q =>
    if q ≤ 0 then (if q = 0 then finite 0 else nan true) else
    let num := q.num.natAbs
    let shift := 58 + q.den.log2
    let scaled := num * twoTo (2 * shift) / q.den
    let root := scaled.sqrt
    let isCut := root * root * q.den != num * twoTo (2 * shift)
    round (mkRat (2 * root + if isCut then 1 else 0) (twoTo (shift + 1)))
  | negativeZero => negativeZero
  | infinite s => if s then nan true else infinite false
  | nan s => nan s

/-! ## Order -/

def lt (a b : Binary64) : Bool :=
  match a.rat?, b.rat? with
  | some p, some q => decide (p < q)
  | _, _ =>
    match a, b with
    | nan _, _ => false
    | _, nan _ => false
    | infinite s, infinite t => s && !t
    | infinite s, _ => s
    | _, infinite t => !t
    | _, _ => false

def same (a b : Binary64) : Bool :=
  match a.rat?, b.rat? with
  | some p, some q => decide (p = q)
  | _, _ =>
    match a, b with
    | infinite s, infinite t => s == t
    | _, _ => false

def le (a b : Binary64) : Bool := lt a b || same a b

/-! ## The interchange encoding -/

/-- The 64 bits of the number: sign, eleven bits of exponent, 52 bits of significand. -/
def bits : Binary64 → Nat
  | finite q =>
    if q = 0 then 0 else
    let num := q.num.natAbs
    let sign := if q < 0 then twoTo 63 else 0
    let lead := leadingExponent num q.den
    if lead < -1022 then sign + num * twoTo 1074 / q.den
    else
      let unit := lead - 52
      let significand :=
        if 0 ≤ unit then num / (q.den * twoTo unit.toNat) else num * twoTo (-unit).toNat / q.den
      sign + (lead + 1023).toNat * twoTo 52 + (significand - twoTo 52)
  | negativeZero => twoTo 63
  | infinite s => (if s then twoTo 63 else 0) + 2047 * twoTo 52
  | nan s => (if s then twoTo 63 else 0) + 2047 * twoTo 52 + twoTo 51

end Binary64

end TileQuest
