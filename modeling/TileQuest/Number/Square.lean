import TileQuest.Number.Binary64

/-!
# Squares by logarithms

The square of a binary64 number is worked out as a power, `exp (2 * ln x)`. The logarithm is held
in two parts, so the power is off by less than a hundredth of a unit in the last place before it is
rounded: an exact square that fits is found as it is, and about one square in a thousand falls on
the other side of a tie from the exact one.

* `Binary64.lnParts`: the logarithm. The number is `2 ^ k * z` with `z` in an interval of 128
  slots. Every slot has a short number `c` near its middle, and `ln x` is
  `k * ln 2 + ln c + ln (1 + r)` with `r = z / c - 1`, the last term by a polynomial.
* `Binary64.expParts`: the exponential, as `2 ^ (k / 128) * exp r`, the last factor by a polynomial.

The tables are worked out by series and by square roots, to `guardBits` bits after the point. Every
other step rounds once; `fused` is a product and a sum with one rounding between them.
-/

namespace TileQuest

namespace Binary64

/-! ## Single steps -/

/-- The value of the binary64 number nearest to a rational. -/
def near (q : Rat) : Rat := (round q).rat?.getD 0

/-- A product plus a number, rounded once. -/
def fused (a b c : Rat) : Rat := near (a * b + c)

/-- The nearest multiple of `2 ^ -k`, a tie going to the even one. -/
def snap (k : Nat) (q : Rat) : Rat :=
  let count : Int := nearestEven (q.num.natAbs * twoTo k) q.den
  mkRat (if q < 0 then -count else count) (twoTo k)

def dyadic (numerator : Int) (k : Nat) : Rat := mkRat numerator (twoTo k)

def powerOfTwo (k : Int) : Rat :=
  if 0 ≤ k then (twoTo k.toNat : Rat) else mkRat 1 (twoTo (-k).toNat)

/-! ## Logarithms and roots in fixed point -/

/-- The bits after the point of what is not rounded to binary64. -/
def guardBits : Nat := 200

def seriesTerms : Nat := 80

/-- The natural logarithm of `a / b`, for `a / b` between one half and two. With
`t = (a - b) / (a + b)` it is twice the sum of `t ^ (2 * n + 1) / (2 * n + 1)`. -/
def lnRatio (a b : Nat) : Rat :=
  let less : Int := (a : Int) - (b : Int)
  let more : Int := (a : Int) + (b : Int)
  let sum := (List.range seriesTerms).foldl (fun (acc : Int × Int) (n : Nat) =>
    (acc.1 + acc.2 / ((2 * n + 1 : Nat) : Int), acc.2 * (less * less) / (more * more)))
    (0, 2 * less * (twoTo guardBits : Nat) / more)
  dyadic sum.1 guardBits

/-- The number `2 ^ (i / 128)`: seven square roots, one after the other, of `2 ^ i`. -/
def rootOfTwo (i : Nat) : Rat :=
  dyadic ((List.range 7).foldl (fun (v : Nat) (_ : Nat) => (v * twoTo guardBits).sqrt)
    (twoTo (i + guardBits)) : Nat) guardBits

def lnTwo : Rat := lnRatio 2 1

/-! ## The logarithm -/

/-- The lower end of the interval of slots. The upper end is twice as large. -/
def slotsStart : Rat := dyadic 0x169555 21

/-- How many slots there are below one. Above one they are twice as wide. -/
def slotsBelowOne : Rat := (1 - slotsStart) * 256

/-- The slot that a number of the interval falls into. -/
def slotOf (z : Rat) : Nat :=
  (if z < 1 then (z - slotsStart) * 256 else slotsBelowOne + (z - 1) * 128).floor.toNat

def slotMiddle (i : Nat) : Rat :=
  let position : Rat := (i : Rat) + mkRat 1 2
  if position < slotsBelowOne then slotsStart + position / 256
  else 1 + (position - slotsBelowOne) / 128

/-- The short number `c` of a slot, as the two numbers `a` and `b` with `c = a / b`: its inverse
has eight bits. -/
def slotCentre (i : Nat) : Nat × Nat :=
  let middle := slotMiddle i
  let a := if middle < 1 then 128 else 256
  (a, (snap 0 ((a : Rat) / middle)).num.natAbs)

/-- A number as the sum of a binary64 number and a much smaller one. -/
structure Parts where
  high : Rat
  low : Rat
deriving DecidableEq, Inhabited

/-- A sum in two parts, the second term being much smaller. -/
def Parts.sum (a b : Rat) : Parts :=
  let high := near (a + b)
  { high, low := near (near (a - high) + b) }

/-- A number split into a short part, with `bits` bits after the point, and the rounded rest. -/
def Parts.split (bits : Nat) (q : Rat) : Parts :=
  let high := snap bits q
  { high, low := near (q - high) }

/-- What is left of `ln (1 + r)` after the terms `r` and `square = -r ^ 2 / 2`, as a factor of
`r * square`. -/
def lnTail (r square : Rat) : Rat :=
  let third := fused (dyadic 0x10002b8b263fc3 52) r (dyadic (-0x12495b9b4845e9) 52)
  let second := fused third square
    (fused (dyadic (-0x1555555529a47a) 53) r (dyadic 0x1999999959554e 53))
  fused square second (fused (dyadic 0x10000000000006 53) r (dyadic (-0x15555555555560) 53))

/-- The logarithm of a positive number, in two parts. -/
def lnParts (x : Rat) : Parts :=
  let scale := x / slotsStart
  let k := leadingExponent scale.num.natAbs scale.den
  let z := x / powerOfTwo k
  let (a, b) := slotCentre (slotOf z)
  let two := Parts.split 42 lnTwo
  let centre := Parts.split 43 (lnRatio a b)
  let r := near (z * b / a - 1)
  let start := Parts.sum (fused k two.high centre.high) r
  let half := near (-r / 2)
  let square := near (r * half)
  let next := Parts.sum start.high square
  let low := near (fused k two.low centre.low + start.low)
  let low := near (near (low + fused half r (-square)) + next.low)
  Parts.sum next.high (fused (near (r * square)) (lnTail r square) low)

/-! ## The exponential -/

/-- The exponential of a small number less one, and less what is left out of `root`. -/
def expTail (r root : Rat) : Rat :=
  let square := near (r * r)
  let low := fused (fused (dyadic 0x1555555555543c 55) r (dyadic 0x1ffffffffffdbd 54)) square
    (near (r + root))
  fused (fused r (dyadic 0x11111167a4d017 59) (dyadic 0x155555cf172b91 57))
    (near (square * square)) low

/-- The number `scale * (1 + tail)`, rounded, where it may lie below the numbers with a full
significand. -/
def roundSmall (scale tail : Rat) : Binary64 :=
  let lift := powerOfTwo 1022
  let scale := scale * lift
  let rest := near (scale * tail)
  let y := near (scale + rest)
  let y :=
    if y < 1 then
      let low := near (near (scale - y) + rest)
      let high := near (1 + y)
      near (high + near (near (near (1 - high) + y) + low)) - 1
    else y
  round (y / lift)

/-- The exponential of a number in two parts. -/
def expParts (p : Parts) : Binary64 :=
  let step := Parts.split 44 (lnTwo / 128)
  let k := snap 0 (p.high * near (128 / lnTwo))
  let r := near (p.low + fused k (-step.low) (fused k (-step.high) p.high))
  let root := rootOfTwo (k.num % 128).toNat
  let scale := near root * powerOfTwo (k.num / 128)
  let tail := expTail r (near (root / near root - 1))
  if p.high ≤ -512 then roundSmall scale tail else round (scale + scale * tail)

/-! ## The square -/

/-- The square of a number. A square that fits is exact. -/
def square (x : Binary64) : Binary64 :=
  match x.rat? with
  | none => x.mul x
  | some q =>
    if fits (q * q) then .finite (q * q)
    else
      let ln := lnParts (if q < 0 then -q else q)
      expParts { high := 2 * ln.high, low := 2 * ln.low }

end Binary64

end TileQuest
