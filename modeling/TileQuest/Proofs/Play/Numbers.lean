import Mathlib.Data.Rat.Lemmas
import Mathlib.Algebra.Order.Floor.Ring
import Mathlib.Data.Rat.Floor
import Mathlib.Data.Nat.Prime.Pow
import Mathlib.Tactic.FieldSimp
import TileQuest.Proofs.Steady

/-!
# Numbers on a grid

Players and enemies stand on whole and half pixels. As long as nobody is far away from the origin,
everything that is worked out from their places stays on a grid of small powers of two, where
binary64 numbers are exact. So sums, quotients by powers of two, squares and roots are all there:
an overflow needs a number that is off the grid or out of range.
-/

namespace TileQuest

variable {i i : Int} {n k l : Nat} {p q : Rat}

/-! ## The grid -/

/-- The rational is a whole number of steps of size `2 ^ -k`, and of `n` steps at most. -/
def OnGrid (k n : Nat) (q : Rat) : Prop := ∃ m : Int, m.natAbs ≤ n ∧ q = m / 2 ^ k

namespace OnGrid

variable {m : Nat}

lemma add (hp : OnGrid k m p) (hq : OnGrid k n q) : OnGrid k (m + n) (p + q) := by
  obtain ⟨i, hi, rfl⟩ := hp
  obtain ⟨j, hj, rfl⟩ := hq
  refine ⟨i + j, by omega, ?_⟩
  push_cast
  ring

lemma neg (hp : OnGrid k m p) : OnGrid k m (-p) := by
  obtain ⟨i, hi, rfl⟩ := hp
  refine ⟨-i, by omega, ?_⟩
  push_cast
  ring

lemma mul (hp : OnGrid k m p) (hq : OnGrid l n q) : OnGrid (k + l) (m * n) (p * q) := by
  obtain ⟨i, hi, rfl⟩ := hp
  obtain ⟨j, hj, rfl⟩ := hq
  refine ⟨i * j, ?_, ?_⟩
  · rw [Int.natAbs_mul]
    exact Nat.mul_le_mul hi hj
  · push_cast
    rw [div_mul_div_comm, pow_add]

lemma div_pow (hp : OnGrid k m p) (l : Nat) : OnGrid (k + l) m (p / 2 ^ l) := by
  obtain ⟨i, hi, rfl⟩ := hp
  exact ⟨i, hi, by rw [div_div, pow_add]⟩

lemma ofInt (k : Nat) (i : Int) : OnGrid k (i.natAbs * 2 ^ k) i := by
  refine ⟨i * 2 ^ k, by rw [Int.natAbs_mul, Int.natAbs_pow]; rfl, ?_⟩
  push_cast
  rw [mul_div_cancel_right₀]
  exact pow_ne_zero k two_ne_zero

lemma mono (hp : OnGrid k m p) (h : m ≤ n) : OnGrid k n p := by
  obtain ⟨i, hi, rfl⟩ := hp
  exact ⟨i, hi.trans h, rfl⟩

lemma of_abs_le (hp : OnGrid k m p) (h : |p| ≤ n) : OnGrid k (n * 2 ^ k) p := by
  obtain ⟨i, -, rfl⟩ := hp
  refine ⟨i, ?_, rfl⟩
  rw [abs_div, abs_of_pos (by positivity : (0 : Rat) < 2 ^ k), div_le_iff₀ (by positivity)] at h
  rw [← Nat.cast_le (α := Rat), Nat.cast_natAbs]
  push_cast
  exact h

lemma fits (hp : OnGrid k n p) (hn : n < 2 ^ 53) (hk : k ≤ 1074) : Binary64.fits p = true := by
  obtain ⟨i, hi, rfl⟩ := hp
  have hden : ((i : Rat) / 2 ^ k).den ∣ 2 ^ k := by
    have h := Rat.den_dvd i (2 ^ k)
    exact_mod_cast h
  obtain ⟨j, hj, hden⟩ := (Nat.dvd_prime_pow Nat.prime_two).1 hden
  have hnum : ((i : Rat) / 2 ^ k).num ∣ i := by
    have h := Rat.num_dvd i (b := 2 ^ k) (pow_ne_zero k two_ne_zero)
    rw [Rat.divInt_eq_div] at h
    exact_mod_cast h
  have hsize : ((i : Rat) / 2 ^ k).num.natAbs < 2 ^ 53 := by
    by_cases hzero : i = 0
    · subst hzero
      simp
    · have hle := Nat.le_of_dvd (Int.natAbs_pos.2 hzero) (Int.natAbs_dvd_natAbs.2 hnum)
      omega
  rw [Binary64.fits, hden, Nat.log2_two_pow, Bool.and_eq_true, Bool.and_eq_true]
  exact ⟨⟨decide_eq_true hsize, beq_self_eq_true _⟩, decide_eq_true (by omega)⟩

end OnGrid

/-! ## Binary64 numbers on the grid -/

namespace Binary64

variable {x y : Binary64}

lemma rat?_neg (hx : x.rat? = some p) : x.neg.rat? = some (-p) := by
  cases x with
  | finite a =>
    cases hx
    by_cases ha : p = 0
    · simp [neg, ha, rat?]
    · simp [neg, ha, rat?]
  | negativeZero => cases hx; simp [neg, rat?]
  | infinite | nan => cases hx

lemma rat?_add (hx : x.rat? = some p) (hy : y.rat? = some q) (h : fits (p + q) = true) :
    (x.add y).rat? = some (p + q) := by
  cases x with
  | finite a =>
    cases hx
    cases y with
    | finite b => cases hy; rw [add, round_of_fits h, rat?]
    | negativeZero => cases hy; simp [add, rat?]
    | infinite | nan => cases hy
  | negativeZero => cases hx; simpa [add] using hy
  | infinite | nan => cases hx

lemma rat?_roundSigned (h : fits q = true) (negative : Bool) :
    (roundSigned q negative).rat? = some q := by
  rw [roundSigned]
  split
  · rename_i hzero
    subst hzero
    cases negative <;> rfl
  · rw [round_of_fits h, rat?]

lemma rat?_div_finite (hx : x.rat? = some p) (hq : q ≠ 0) (h : fits (p / q) = true) :
    (x.div (finite q)).rat? = some (p / q) := by
  cases x with
  | finite a =>
    cases hx
    simp only [div, rat?, if_neg hq]
    exact rat?_roundSigned h _
  | negativeZero =>
    cases hx
    simp only [div, rat?, if_neg hq]
    exact rat?_roundSigned h _
  | infinite | nan => cases hx

lemma rat?_square (hx : x.rat? = some p) (h : fits (p * p) = true) :
    x.square.rat? = some (p * p) := by
  rw [square, hx]
  simp only [h, if_true, rat?]

lemma rat?_abs (hx : x.rat? = some p) : x.abs.rat? = some |p| := by
  cases x with
  | finite a =>
    cases hx
    simp only [abs, isNegative, decide_eq_true_eq]
    split
    · rename_i h
      rw [rat?_neg rfl, abs_of_neg h]
    · rename_i h
      rw [rat?, abs_of_nonneg (not_lt.1 h)]
  | negativeZero => cases hx; rfl
  | infinite | nan => cases hx

end Binary64

/-! ## Scalars on the grid -/

namespace Scalar

def Holds (k n : Nat) (q : Rat) (a : Scalar) : Prop := a.exact.rat? = some q ∧ OnGrid k n q

/-- The scalar is a whole number of steps of size `2 ^ -k`, and of `n` steps at most. -/
def Fine (k n : Nat) (a : Scalar) : Prop := ∃ q, a.exact.rat? = some q ∧ OnGrid k n q

namespace Holds

variable {m : Nat} {a b : Scalar}

lemma int (k : Nat) (hi : i.natAbs * 2 ^ k ≤ n) : Holds k n i (.int i) :=
  ⟨rfl, (OnGrid.ofInt k i).mono hi⟩

lemma mono (ha : a.Holds k m p) (h : m ≤ n) : a.Holds k n p := ⟨ha.1, ha.2.mono h⟩

lemma toBinary64 (ha : a.Holds k n p) (hn : n < 2 ^ 53) (hk : k ≤ 1074) :
    ∃ x, a.toBinary64 = .ok x ∧ x.rat? = some p := by
  obtain ⟨hq, hgrid⟩ := ha
  cases a with
  | int i =>
    cases hq
    refine ⟨.finite i, ?_, rfl⟩
    rw [Scalar.toBinary64, Binary64.round_of_fits (hgrid.fits hn hk)]
  | real x => exact ⟨x, rfl, hq⟩

lemma mixed (op : Binary64 → Binary64 → Binary64) {r : Rat} (ha : a.Holds k m p)
    (hb : b.Holds k n q) (h : m + n < 2 ^ 53) (hk : k ≤ 1074)
    (hop : ∀ x y, x.rat? = some p → y.rat? = some q → (op x y).rat? = some r) :
    ∃ c, Scalar.mixed op a b = .ok c ∧ c.exact.rat? = some r := by
  obtain ⟨x, hx, hp⟩ := ha.toBinary64 (by omega) hk
  obtain ⟨y, hy, hq⟩ := hb.toBinary64 (by omega) hk
  refine ⟨.real (op x y), ?_, hop x y hp hq⟩
  rw [Scalar.mixed, hx, ok_bind, hy, ok_bind]
  rfl

section

variable (ha : a.Holds k m p) (hb : b.Holds k n q) (h : m + n < 2 ^ 53) (hk : k ≤ 1074)
include ha hb h hk

lemma add : ∃ c, a.add b = .ok c ∧ c.Holds k (m + n) (p + q) := by
  have hgrid := ha.2.add hb.2
  obtain ⟨c, hc, hrat⟩ := mixed Binary64.add ha hb h hk fun x y hx hy =>
    Binary64.rat?_add hx hy (hgrid.fits h hk)
  cases a with
  | int i =>
    cases b with
    | int j =>
      cases ha.1
      cases hb.1
      exact ⟨.int (i + j), rfl, congrArg some (by push_cast; rfl), hgrid⟩
    | real y => exact ⟨c, hc, hrat, hgrid⟩
  | real x => exact ⟨c, hc, hrat, hgrid⟩

lemma sub : ∃ c, a.sub b = .ok c ∧ c.Holds k (m + n) (p - q) := by
  rw [sub_eq_add_neg]
  have hgrid := ha.2.add hb.2.neg
  obtain ⟨c, hc, hrat⟩ := mixed Binary64.sub ha hb h hk fun x y hx hy =>
    Binary64.rat?_add hx (Binary64.rat?_neg hy) (hgrid.fits h hk)
  cases a with
  | int i =>
    cases b with
    | int j =>
      cases ha.1
      cases hb.1
      exact ⟨.int (i - j), rfl, congrArg some (by push_cast; ring), hgrid⟩
    | real y => exact ⟨c, hc, hrat, hgrid⟩
  | real x => exact ⟨c, hc, hrat, hgrid⟩

end

lemma abs (ha : a.Holds k n p) : a.abs.Holds k n |p| := by
  obtain ⟨hq, hgrid⟩ := ha
  have habs : OnGrid k n |p| := by
    rcases abs_choice p with h | h <;> rw [h]
    · exact hgrid
    · exact hgrid.neg
  cases a with
  | int i =>
    cases hq
    exact ⟨congrArg some (by rw [Int.natCast_natAbs, Int.cast_abs]), habs⟩
  | real x => exact ⟨Binary64.rat?_abs hq, habs⟩

lemma div_pow (ha : a.Holds k n p) (hn : n < 2 ^ 53) (hl : l ≤ 10) (hk : k + l ≤ 1074) :
    ∃ c, a.div ((2 ^ l : Nat) : Int) = .ok c ∧ c.Holds (k + l) n (p / (2 ^ l : Nat)) := by
  obtain ⟨hq, hgrid⟩ := ha
  have hquot : OnGrid (k + l) n (p / (2 ^ l : Nat)) := by
    have h := hgrid.div_pow l
    push_cast
    exact h
  have hfits := hquot.fits hn hk
  have hpow : ((2 ^ l : Nat) : Int) ≠ 0 := by positivity
  have hround : Binary64.round (((2 ^ l : Nat) : Int) : Rat) = .finite ((2 ^ l : Nat) : Rat) := by
    refine Binary64.round_of_fits ((OnGrid.ofInt 0 _).fits ?_ (by omega))
    have := Nat.pow_le_pow_right (n := 2) (by omega) hl
    simp only [Int.natAbs_natCast, pow_zero, mul_one]
    omega
  cases a with
  | int i =>
    cases hq
    have hrat := Binary64.rat?_roundSigned hfits
      (decide (i < 0) != decide (((2 ^ l : Nat) : Int) < 0))
    refine ⟨.real (.roundSigned ((i : Rat) / ((2 ^ l : Nat) : Rat))
      (decide (i < 0) != decide (((2 ^ l : Nat) : Int) < 0))), ?_, hrat, hquot⟩
    rw [div, divInts, if_neg hpow, Int.cast_natCast]
    split
    · rename_i hinf
      rw [hinf] at hrat
      cases hrat
    · rfl
  | real x =>
    have hne : ((2 ^ l : Nat) : Rat) ≠ 0 := by positivity
    have hrat := Binary64.rat?_div_finite hq hne hfits
    refine ⟨.real (x.div (.finite ((2 ^ l : Nat) : Rat))), ?_, hrat, hquot⟩
    have hzero : (Binary64.finite ((2 ^ l : Nat) : Rat)).isZero = false := by
      simp [Binary64.isZero, Binary64.rat?]
    simp only [div, Scalar.toBinary64, hround, ok_bind, hzero]
    rfl

lemma square (ha : a.Holds k n p) (hn : n * n < 2 ^ 53) (hk : k + k ≤ 1074) :
    ∃ c, a.square = .ok c ∧ c.Holds (k + k) (n * n) (p * p) := by
  obtain ⟨hq, hgrid⟩ := ha
  have hsquare := hgrid.mul hgrid
  cases a with
  | int i =>
    cases hq
    exact ⟨.int (i * i), rfl, congrArg some (by push_cast; rfl), hsquare⟩
  | real x =>
    change x.rat? = some p at hq
    have hrat := Binary64.rat?_square hq (hsquare.fits hn hk)
    refine ⟨.real x.square, ?_, hrat, hsquare⟩
    simp only [Scalar.square, hq]
    split
    · rename_i hinf
      rw [hinf] at hrat
      cases hrat
    · rfl

lemma whole (ha : a.Holds k n p) (pick : Rat → Int) (hpick : ∀ i : Int, pick i = i) :
    Scalar.whole pick a = .ok (pick p) := by
  obtain ⟨hq, -⟩ := ha
  cases a with
  | int i =>
    cases hq
    rw [Scalar.whole, hpick]
  | real x =>
    cases x with
    | finite q =>
      cases hq
      rfl
    | negativeZero =>
      cases hq
      exact congrArg Except.ok (hpick 0).symm
    | infinite | nan => cases hq

lemma hypotenuse (ha : a.Holds k m p) (hb : b.Holds k n q) (h : m + n < 2 ^ 53)
    (hk : k ≤ 1074) : ∃ c, Scalar.hypotenuse a b = .ok c := by
  obtain ⟨c, hc, hsum⟩ := ha.add hb h hk
  obtain ⟨x, hx, -⟩ := hsum.toBinary64 h hk
  exact ⟨.real x.sqrt, by rw [Scalar.hypotenuse, hc, ok_bind, hx, ok_bind]; rfl⟩

lemma lt (ha : a.Holds k m p) (hb : b.Holds l n q) : a.lt b = decide (p < q) := by
  have h : a.exact.lt b.exact = decide (p < q) := by simp only [Binary64.lt, ha.1, hb.1]
  cases a <;> cases b <;> try exact h
  cases ha.1
  cases hb.1
  simp [Scalar.lt]

lemma le (ha : a.Holds k m p) (hb : b.Holds l n q) : a.le b = decide (p ≤ q) := by
  have h : a.exact.le b.exact = decide (p ≤ q) := by
    simp only [Binary64.le, Binary64.lt, Binary64.same, ha.1, hb.1, ← Bool.decide_or, ← le_iff_lt_or_eq]
  cases a <;> cases b <;> try exact h
  cases ha.1
  cases hb.1
  simp [Scalar.le]

end Holds

namespace Fine

variable {m : Nat} {a b : Scalar}

lemma int (k : Nat) (hi : i.natAbs * 2 ^ k ≤ n) : Fine k n (.int i) :=
  ⟨i, Holds.int k hi⟩

lemma mono (ha : a.Fine k m) (h : m ≤ n) : a.Fine k n := by
  obtain ⟨q, hq⟩ := ha
  exact ⟨q, Holds.mono hq h⟩

lemma add (ha : a.Fine k m) (hb : b.Fine k n) (h : m + n < 2 ^ 53) (hk : k ≤ 1074) :
    ∃ c, a.add b = .ok c ∧ c.Fine k (m + n) := by
  obtain ⟨p, hp⟩ := ha
  obtain ⟨q, hq⟩ := hb
  obtain ⟨c, hc, hsum⟩ := Holds.add hp hq h hk
  exact ⟨c, hc, _, hsum⟩

lemma sub (ha : a.Fine k m) (hb : b.Fine k n) (h : m + n < 2 ^ 53) (hk : k ≤ 1074) :
    ∃ c, a.sub b = .ok c ∧ c.Fine k (m + n) := by
  obtain ⟨p, hp⟩ := ha
  obtain ⟨q, hq⟩ := hb
  obtain ⟨c, hc, hrest⟩ := Holds.sub hp hq h hk
  exact ⟨c, hc, _, hrest⟩

end Fine

end Scalar

/-! ## Boxes, circles and distances -/

/-- A coordinate on whole or half pixels, at most `n` half pixels away from the origin. -/
def Json.Within (n : Nat) (j : Json) : Prop := ∃ a, j = .num a ∧ a.Fine 1 n

lemma Json.Within.mono {m : Nat} {j : Json} (hj : j.Within m) (h : m ≤ n) : j.Within n := by
  obtain ⟨a, rfl, ha⟩ := hj
  exact ⟨a, rfl, ha.mono h⟩

/-- The largest coordinate that is looked at, in half pixels. -/
def farthest : Nat := 4000000

namespace Box

structure InRange (b : Box) : Prop where
  x : b.x.Fine 1 (farthest + 2000)
  y : b.y.Fine 1 (farthest + 2000)
  w : b.w.natAbs ≤ 1000
  h : b.h.natAbs ≤ 1000

variable {a b : Box} {x y : Json}

lemma exists_place {hitbox : Rect} (hsmall : hitbox.IsSmall) (hx : x.Within farthest)
    (hy : y.Within farthest) : ∃ b, place hitbox x y = .ok b ∧ b.InRange := by
  obtain ⟨x, rfl, hx⟩ := hx
  obtain ⟨y, rfl, hy⟩ := hy
  obtain ⟨hleft, htop, hwd, hht⟩ := hsmall
  have hfar : farthest = 4000000 := rfl
  obtain ⟨left, hl, hleft⟩ := (Scalar.Fine.int 1 (n := 2000) (i := hitbox.x) (by omega)).add hx
    (by omega) (by omega)
  obtain ⟨top, ht, htop⟩ := (Scalar.Fine.int 1 (n := 2000) (i := hitbox.y) (by omega)).add hy
    (by omega) (by omega)
  refine ⟨⟨left, top, hitbox.w, hitbox.h⟩, ?_, hleft.mono (by omega), htop.mono (by omega), hwd,
    hht⟩
  simp only [place, Rect.corner, Json.toScalar, ok_bind, hl, ht]
  rfl

lemma InRange.hasEdges (hb : b.InRange) :
    (∃ right, b.x.add b.w = .ok right) ∧ ∃ bottom, b.y.add b.h = .ok bottom := by
  have hw := hb.w
  have hh := hb.h
  have hfar : farthest = 4000000 := rfl
  obtain ⟨right, hright, -⟩ := hb.x.add (Scalar.Fine.int 1 (n := 2000) (i := b.w) (by omega))
    (by omega) (by omega)
  obtain ⟨bottom, hbot, -⟩ := hb.y.add (Scalar.Fine.int 1 (n := 2000) (i := b.h) (by omega))
    (by omega) (by omega)
  exact ⟨⟨right, hright⟩, bottom, hbot⟩

lemma InRange.meets (ha : a.InRange) (hb : b.InRange) : ∃ r, a.meets b = .ok r := by
  obtain ⟨⟨ar, har⟩, ab, hab⟩ := ha.hasEdges
  obtain ⟨⟨br, hbr⟩, bb, hbb⟩ := hb.hasEdges
  simp only [Box.meets, har, hab, hbr, hbb, ok_bind]
  cases a.x.lt br <;> cases b.x.lt ar <;> cases a.y.lt bb <;> exact ⟨_, rfl⟩

/-- Whether a circle meets a box, when everything is on the grid: it reaches the box both across and
down, and has its centre beside the box or is near enough to a corner. -/
lemma meetsCircle_eq {p q s t : Rat} {cx cy : Scalar} (radius : Int)
    (hx : b.x.Holds 1 n p) (hy : b.y.Holds 1 n q) (hcx : cx.Holds 1 n s) (hcy : cy.Holds 1 n t)
    (hw : b.w.natAbs < 2 ^ 24) (hh : b.h.natAbs < 2 ^ 24) (hradius : radius.natAbs < 2 ^ 24)
    (hn : n < 2 ^ 27) : b.meetsCircle (.num cx) (.num cy) (.num (.int radius)) =
      .ok (decide (|s - p| ≤ b.w / 2 + radius ∧ |t - q| ≤ b.h / 2 + radius ∧
        (|s - p| ≤ b.w / 2 ∨ |t - q| ≤ b.h / 2 ∨
          (|s - p| - b.w / 2) * (|s - p| - b.w / 2) + (|t - q| - b.h / 2) * (|t - q| - b.h / 2) ≤
            radius * radius))) := by
  have hhalf {i : Int} (hi : i.natAbs < 2 ^ 24) :
      ∃ c, (i : Scalar).div 2 = .ok c ∧ c.Holds 1 (2 ^ 24) (i / 2) :=
    (Scalar.Holds.int 0 (n := 2 ^ 24) (i := i) (by omega)).div_pow (l := 1) (by omega) (by omega)
      (by omega)
  have hrad : Scalar.Holds 1 (2 ^ 25) radius (.int radius) := .int 1 (by omega)
  obtain ⟨across, hacr, hac⟩ := hcx.sub hx (by omega) (by omega)
  obtain ⟨down, hdown, hdo⟩ := hcy.sub hy (by omega) (by omega)
  obtain ⟨halfWidth, hwd, hwide⟩ := hhalf hw
  obtain ⟨halfHeight, hht, hhigh⟩ := hhalf hh
  obtain ⟨reach, hreach, hre⟩ := hwide.add hrad (by omega) (by omega)
  obtain ⟨reach', hreach', hre'⟩ := hhigh.add hrad (by omega) (by omega)
  obtain ⟨dx, hdx, hdxs⟩ := hac.abs.sub hwide (by omega) (by omega)
  obtain ⟨dy, hdy, hdys⟩ := hdo.abs.sub hhigh (by omega) (by omega)
  have hsquare : Scalar.square (.int radius) = .ok (.int (radius * radius)) := rfl
  simp only [Box.meetsCircle, Json.toScalar, ok_bind, hacr, hdown, hwd, hht, hreach,
    hreach', hdx, hdy, hre.lt hac.abs, hre'.lt hdo.abs, hac.abs.le hwide, hdo.abs.le hhigh, hsquare,
    decide_eq_true_eq]
  by_cases hfar : b.w / 2 + radius < |s - p|
  · simp [hfar, hfar.not_ge, pure, Except.pure]
  by_cases hfar' : b.h / 2 + radius < |t - q|
  · simp [hfar, hfar', hfar'.not_ge, pure, Except.pure]
  simp only [hfar, hfar', if_false, not_lt.1 hfar, not_lt.1 hfar', true_and]
  by_cases hin : |s - p| ≤ b.w / 2
  · simp [hin, pure, Except.pure]
  by_cases hin' : |t - q| ≤ b.h / 2
  · simp [hin, hin', pure, Except.pure]
  simp only [hin, hin', if_false, false_or]
  -- Only here are squares worked out, and only of what is within the radius.
  have hnear {c : Scalar} {m : Nat} {d e : Rat} (hc : c.Holds 1 m (d - e)) (hd : ¬ e + radius < d)
      (he : ¬ d ≤ e) :
      ∃ c', c.square = .ok c' ∧ c'.Holds 2 (2 ^ 50) ((d - e) * (d - e)) := by
    have hle : |d - e| ≤ radius.natAbs := by
      rw [abs_of_pos (by linarith), Nat.cast_natAbs]
      have := le_abs_self (radius : Rat)
      push_cast
      linarith
    exact (Scalar.Holds.mono ⟨hc.1, hc.2.of_abs_le hle⟩ (by omega : _ ≤ 2 ^ 25)).square (by norm_num)
      (by omega)
  obtain ⟨dx2, hdx2, hdxs⟩ := hnear hdxs hfar hin
  obtain ⟨dy2, hdy2, hdys⟩ := hnear hdys hfar' hin'
  obtain ⟨corner, hcor, hco⟩ := hdxs.add hdys (by norm_num) (by omega)
  have hsq : Scalar.Holds 0 (radius * radius).natAbs (radius * radius : Int) (.int (radius * radius)) :=
    .int 0 (by omega)
  simp only [hdx2, hdy2, ok_bind, hcor, hco.le hsq, pure, Except.pure, Int.cast_mul]

end Box

lemma Json.Within.distance {x y x' y' : Json} (hx : x.Within farthest) (hy : y.Within farthest)
    (hx' : x'.Within farthest) (hy' : y'.Within farthest) :
    ∃ d, Json.distance x y x' y' = .ok d := by
  obtain ⟨x, rfl, p, hx⟩ := hx
  obtain ⟨y, rfl, q, hy⟩ := hy
  obtain ⟨x', rfl, p', hx'⟩ := hx'
  obtain ⟨y', rfl, q', hy'⟩ := hy'
  have hfar : farthest = 4000000 := rfl
  obtain ⟨dx, hdx, hdxfine⟩ := Scalar.Holds.sub hx' hx (by omega) (by omega)
  obtain ⟨dy, hdy, hdyfine⟩ := Scalar.Holds.sub hy' hy (by omega) (by omega)
  obtain ⟨dx2, hdx2, hdx2fine⟩ := hdxfine.square (by rw [hfar]; norm_num) (by omega)
  obtain ⟨dy2, hdy2, hdy2fine⟩ := hdyfine.square (by rw [hfar]; norm_num) (by omega)
  obtain ⟨d, hd⟩ := hdx2fine.hypotenuse hdy2fine (by rw [hfar]; norm_num) (by omega)
  exact ⟨d, by simp only [Json.distance, Json.toScalar, ok_bind, hdx, hdy, hdx2, hdy2, hd]⟩

/-! ## Solid ground -/

namespace TileMap

def IsValid (m : TileMap) : Prop :=
  ∀ row ∈ m.rows, ∀ tile ∈ row, ∃ kind, TileKind.ofTile tile = .ok kind

variable {m : TileMap} {x y : Json}

lemma exists_cell (hx : x.Within n) (hn : n < 2 ^ 53) : ∃ i, cell x = .ok i := by
  obtain ⟨a, rfl, q, ha⟩ := hx
  obtain ⟨c, hc, hholds⟩ := Scalar.Holds.div_pow (l := 5) ha hn (by omega) (by omega)
  have htrunc := hholds.whole (fun q => q.num.tdiv q.den) fun i => by simp
  have hdiv : a.div tileSize = .ok c := hc
  exact ⟨_, by rw [cell, Json.toScalar, ok_bind, hdiv, ok_bind]; exact htrunc⟩

lemma mem_of_tile? {column row : Int} {tile : Json} (h : m.tile? column row = some tile) :
    ∃ tiles ∈ m.rows, tile ∈ tiles := by
  rw [tile?] at h
  split at h
  · cases h
  · obtain ⟨tiles, hts, htile⟩ := Option.bind_eq_some_iff.1 h
    exact ⟨tiles, List.mem_of_getElem? hts, List.mem_of_getElem? htile⟩

lemma IsValid.pointIsSolid (hm : m.IsValid) (hx : x.Within n) (hy : y.Within n)
    (hn : n < 2 ^ 53) : ∃ r, m.pointIsSolid x y = .ok r := by
  obtain ⟨column, hcol⟩ := exists_cell hx hn
  obtain ⟨row, hrow⟩ := exists_cell hy hn
  rw [TileMap.pointIsSolid, hcol, ok_bind, hrow, ok_bind]
  cases htile : m.tile? column row with
  | none => exact ⟨true, rfl⟩
  | some tile =>
    obtain ⟨tiles, hts, hmem⟩ := mem_of_tile? htile
    obtain ⟨kind, hkind⟩ := hm tiles hts tile hmem
    exact ⟨kind.isSolid, by simp only [hkind, ok_bind]; rfl⟩

lemma exists_plus_ofInt (hx : x.Within n) (hi : i.natAbs * 2 ≤ k)
    (hn : k + n < 2 ^ 53) : ∃ z, Json.plus (.ofInt i) x = .ok z ∧ z.Within (k + n) := by
  obtain ⟨a, rfl, ha⟩ := hx
  obtain ⟨c, hc, hfine⟩ := (Scalar.Fine.int 1 hi).add ha hn (by omega)
  exact ⟨.num c, by simp only [Json.plus, Json.ofInt, Json.toScalar, ok_bind, hc]; rfl, c, rfl, hfine⟩

lemma exists_plus_within (hx : x.Within n) (i : Int) (hi : i.natAbs * 2 ≤ k)
    (hn : n + k < 2 ^ 53) : ∃ z, x.plus (.ofInt i) = .ok z ∧ z.Within (n + k) := by
  obtain ⟨a, rfl, ha⟩ := hx
  obtain ⟨c, hc, hfine⟩ := ha.add (Scalar.Fine.int 1 hi) hn (by omega)
  exact ⟨.num c, by simp only [Json.plus, Json.ofInt, Json.toScalar, ok_bind, hc]; rfl, c, rfl, hfine⟩

lemma IsValid.walkRow (hm : m.IsValid) (rowStep left step : Nat) (hx : x.Within n)
    (hy : y.Within n) (hrow : rowStep ≤ 64) (hstep : left + step ≤ 64)
    (hn : n + left * 4096 < 2 ^ 53) :
    ∃ r, TileMap.walkRow m.pointIsSolid rowStep left step x y = .ok r ∧
      ∀ x' y', r = some (x', y') → x'.Within (n + left * 4096) ∧ y'.Within (n + left * 4096) := by
  induction left generalizing step x y n with
  | zero =>
    refine ⟨some (x, y), rfl, ?_⟩
    rintro _ _ ⟨⟩
    exact ⟨by simpa using hx, by simpa using hy⟩
  | succ left ih =>
    have hsize : tileSize = 32 := rfl
    obtain ⟨x1, hx1, hnear⟩ := exists_plus_ofInt (i := (step * tileSize : Nat)) (k := 4096) hx
      (by rw [hsize, Int.natAbs_natCast]; omega) (by omega)
    obtain ⟨y1, hy1, hnear'⟩ := exists_plus_ofInt (i := (rowStep * tileSize : Nat)) (k := 4096) hy
      (by rw [hsize, Int.natAbs_natCast]; omega) (by omega)
    obtain ⟨solid, hsol⟩ := hm.pointIsSolid hnear hnear' (by omega)
    rw [TileMap.walkRow, hx1, ok_bind, hy1, ok_bind, hsol, ok_bind]
    cases solid with
    | true => exact ⟨none, rfl, nofun⟩
    | false =>
      obtain ⟨r, hr, hends⟩ := ih (step + 1) hnear hnear' (by omega) (by omega)
      refine ⟨r, hr, fun x' y' h => ?_⟩
      rw [show n + (left + 1) * 4096 = 4096 + n + left * 4096 by omega]
      exact hends x' y' h

lemma IsValid.walk (hm : m.IsValid) (columns left rowStep : Nat) (hx : x.Within n)
    (hy : y.Within n) (hcolumns : columns ≤ 64) (hrs : left + rowStep ≤ 64)
    (hn : n + left * 262144 < 2 ^ 53) :
    ∃ r, TileMap.walk m.pointIsSolid columns left rowStep x y = .ok r ∧
      ∀ x' y', r = some (x', y') → x'.Within (n + left * 262144) ∧
        y'.Within (n + left * 262144) := by
  induction left generalizing rowStep x y n with
  | zero =>
    refine ⟨some (x, y), rfl, ?_⟩
    rintro _ _ ⟨⟩
    exact ⟨by simpa using hx, by simpa using hy⟩
  | succ left ih =>
    rw [Nat.succ_mul, ← Nat.add_assoc] at hn
    obtain ⟨r, hr, hends⟩ := hm.walkRow rowStep columns 0 hx hy (by omega) (by omega) (by omega)
    rw [TileMap.walk, hr, ok_bind]
    cases r with
    | none => exact ⟨none, rfl, nofun⟩
    | some corner =>
      obtain ⟨hx', hy'⟩ := hends _ _ rfl
      obtain ⟨r, hr, hends⟩ := ih (rowStep + 1) (hx'.mono (n := n + 262144) (by omega))
        (hy'.mono (by omega)) (by omega) (by omega)
      refine ⟨r, hr, fun x' y' h => ?_⟩
      rw [Nat.succ_mul, Nat.add_left_comm, Nat.add_comm (left * 262144)]
      exact hends x' y' h

lemma exists_ceil (hi : i.natAbs < 2 ^ 53) :
    ∃ c, Scalar.div (.int i) tileSize = .ok c ∧ c.ceil = .ok ((i + 31) / 32) := by
  obtain ⟨c, hc, hholds⟩ := (Scalar.Holds.int 0 (n := i.natAbs) (i := i) (by omega)).div_pow (l := 5)
    hi (by omega) (by omega)
  refine ⟨c, hc, (hholds.whole Rat.ceil Rat.ceil_intCast).trans (congrArg Except.ok ?_)⟩
  have hle (k : Int) : Rat.ceil ((i : Rat) / (2 ^ 5 : Nat)) ≤ k ↔ i ≤ 32 * k := by
    rw [Rat.ceil_le_iff, div_le_iff₀ (by norm_num)]
    norm_cast
    rw [mul_comm]
    rfl
  have hupper := (hle ((i + 31) / 32)).2 (by omega)
  have hlower := (hle ((i + 31) / 32 - 1)).not.2 (by omega)
  omega

lemma IsValid.rectIsSolid (hm : m.IsValid) (hx : x.Within n) (hy : y.Within n) {w h : Int}
    (hw : w.natAbs ≤ 1000) (hh : h.natAbs ≤ 1000) (hn : n < 2 ^ 40) :
    ∃ r, m.rectIsSolid x y (.ofInt w) (.ofInt h) = .ok r := by
  obtain ⟨c, hc, hcolumns⟩ := exists_ceil (i := w) (by omega)
  obtain ⟨c', hc', hrs⟩ := exists_ceil (i := h) (by omega)
  obtain ⟨r, hr, hends⟩ := hm.walk ((w + 31) / 32).toNat ((h + 31) / 32).toNat 0 hx hy (by omega)
    (by omega) (by omega)
  have hint (i : Int) : (Json.ofInt i).toScalar = .ok (.int i) := rfl
  simp only [TileMap.rectIsSolid, TileMap.touches, hint, ok_bind, hc, hc', hcolumns, hrs, hr]
  cases r with
  | none => exact ⟨true, rfl⟩
  | some corner =>
    obtain ⟨x', y'⟩ := corner
    obtain ⟨hx', hy'⟩ := hends x' y' rfl
    obtain ⟨right, hright, hnear⟩ := exists_plus_within (k := 2000) hx' w (by omega) (by omega)
    obtain ⟨bottom, hbot, hnear'⟩ := exists_plus_within (k := 2000) hy' h (by omega) (by omega)
    obtain ⟨r1, hr1⟩ := hm.pointIsSolid hnear (hy'.mono (by omega)) (by omega)
    obtain ⟨r2, hr2⟩ := hm.pointIsSolid (hx'.mono (by omega)) hnear' (by omega)
    obtain ⟨r3, hr3⟩ := hm.pointIsSolid hnear hnear' (by omega)
    simp only [hright, hbot, ok_bind, hr1, hr2, hr3]
    cases r1 <;> cases r2 <;> exact ⟨_, rfl⟩

end TileMap

end TileQuest
