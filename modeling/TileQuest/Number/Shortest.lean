import TileQuest.Number.Scalar

/-!
# The shortest decimal of a binary64 number

`Binary64.shortest` finds the fewest decimal digits that read back as the number, and of those the
nearest. `Binary64.text` writes them: positionally when the point falls at most four zeros before
the first digit and at most sixteen digits after it, with an exponent otherwise. `Scalar.text`
writes whole numbers in full.
-/

namespace TileQuest

namespace Binary64

/-- The place `k` of the point of a positive rational: `10 ^ (k - 1) ≤ q < 10 ^ k`. -/
def decimalPoint (q : Rat) : Int :=
  ((Nat.toDigits 10 (q * (Nat.pow 10 400 : Nat)).floor.toNat).length : Int) - 400

def powerOfTen (k : Int) : Rat :=
  if 0 ≤ k then ((Nat.pow 10 k.toNat : Nat) : Rat) else mkRat 1 (Nat.pow 10 (-k).toNat)

/-- The digits of the decimal of the given length that reads back as `q`, if there is one. -/
def decimalOfLength? (q : Rat) (length : Nat) : Option Nat :=
  let unit := powerOfTen (decimalPoint q - length)
  let below := (q / unit).floor.toNat
  let readsBack (digits : Nat) : Bool := round (digits * unit) = finite q
  let isNearerBelow : Bool := q / unit - below ≤ mkRat 1 2
  match readsBack below, readsBack (below + 1) with
  | true, true => some (if isNearerBelow then below else below + 1)
  | true, false => some below
  | false, true => some (below + 1)
  | false, false => none

/-- The fewest digits that read back as the positive rational `q`, and where the point stands. -/
def shortest (q : Rat) : Nat × Int :=
  match (List.range 17).findSome? fun k =>
      (decimalOfLength? q (k + 1)).map fun digits => (digits, k + 1) with
  | some (digits, length) =>
    (digits, decimalPoint q + ((Nat.toDigits 10 digits).length : Int) - length)
  | none => (0, 0)

def withoutTrailingZeros (ds : List Char) : List Char :=
  (ds.reverse.dropWhile (· == '0')).reverse

def positiveText (q : Rat) : String :=
  let (digits, point) := shortest q
  let ds := withoutTrailingZeros (Nat.toDigits 10 digits)
  let count : Int := ds.length
  if -4 < point ∧ point ≤ 16 then
    if point ≤ 0 then
      "0." ++ String.ofList (List.replicate (-point).toNat '0' ++ ds)
    else if count ≤ point then
      String.ofList (ds ++ List.replicate (point - count).toNat '0') ++ ".0"
    else
      String.ofList (ds.take point.toNat) ++ "." ++ String.ofList (ds.drop point.toNat)
  else
    let exponent := point - 1
    let fraction := if ds.length ≤ 1 then "" else "." ++ String.ofList (ds.drop 1)
    let size := Nat.toDigits 10 exponent.natAbs
    String.ofList (ds.take 1) ++ fraction ++ "e" ++ (if exponent < 0 then "-" else "+") ++
      String.ofList (if size.length < 2 then '0' :: size else size)

def text : Binary64 → String
  | finite q =>
    if q = 0 then "0.0" else if q < 0 then "-" ++ positiveText (-q) else positiveText q
  | negativeZero => "-0.0"
  | infinite s => if s then "-inf" else "inf"
  | nan _ => "nan"

end Binary64

def Scalar.text : Scalar → String
  | int n => toString n
  | real x => x.text

end TileQuest
