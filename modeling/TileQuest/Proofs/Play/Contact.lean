import Mathlib.Data.Real.Basic
import TileQuest.Proofs.Bodies.Standing
import TileQuest.Proofs.Play.Numbers

/-!
# Circles and bodies

A circle meets a body when they have a point in common (`Rect.Reached`). The tests that are made
instead come to the same on whole and half pixels (`World.Perches.meetsCircle`), so the bodies within
a circle are those that it reaches, in the order in which they were registered
(`Game.bodiesInCircle_eq_reached`). The rectangle that is reached lies around the place of the
hitbox, and the hitbox to the right of its place and below it, so the answer is that for the hitbox
exactly if half a hitbox more or less makes no difference (`World.tells_touched_iff`).
-/

namespace TileQuest

/-! ## The nearest point -/

/-- The point of a stretch that is nearest to a given one. -/
lemma exists_nearest (b c : ℝ) {s : ℝ} (hs : 0 ≤ s) :
    ∃ p, |p - b| ≤ s ∧ |p - c| = max 0 (|c - b| - s) := by
  by_cases hc : |c - b| ≤ s
  · exact ⟨c, hc, by rw [sub_self, abs_zero, max_eq_left (by linarith)]⟩
  have hgap : max 0 (|c - b| - s) = |c - b| - s := max_eq_right (by linarith)
  rcases le_total b c with h | h
  · rw [abs_of_nonneg (sub_nonneg.2 h)] at hc hgap ⊢
    refine ⟨b + s, by rw [add_sub_cancel_left, abs_of_nonneg hs], ?_⟩
    rw [hgap, abs_of_nonpos (by linarith)]
    ring
  · rw [abs_of_nonpos (sub_nonpos.2 h)] at hc hgap ⊢
    refine ⟨b - s, by rw [sub_sub_cancel_left, abs_neg, abs_of_nonneg hs], ?_⟩
    rw [hgap, abs_of_nonneg (by linarith)]
    ring

lemma gap_le {b c p s : ℝ} (h : |p - b| ≤ s) : max 0 (|c - b| - s) ≤ |p - c| := by
  refine max_le (abs_nonneg _) ?_
  have := abs_sub_le c p b
  rw [abs_sub_comm c p] at this
  linarith

/-- The gaps across and down to a rectangle decide whether a circle reaches it, and they are looked
at one by one before the squares are. -/
lemma gaps_within_iff {d e s t r : ℝ} (hr : 0 ≤ r) :
    max 0 (d - s) ^ 2 + max 0 (e - t) ^ 2 ≤ r ^ 2 ↔
      d ≤ s + r ∧ e ≤ t + r ∧ (d ≤ s ∨ e ≤ t ∨ (d - s) * (d - s) + (e - t) * (e - t) ≤ r * r) := by
  rcases le_total d s with hd | hd <;> rcases le_total e t with he | he
  · rw [max_eq_left (by linarith), max_eq_left (by linarith)]
    exact ⟨fun _ => ⟨by linarith, by linarith, .inl hd⟩, fun _ => by simpa using sq_nonneg r⟩
  · rw [max_eq_left (by linarith), max_eq_right (by linarith), zero_pow two_ne_zero, zero_add,
      pow_le_pow_iff_left₀ (by linarith) hr two_ne_zero]
    exact ⟨fun h => ⟨by linarith, by linarith, .inl hd⟩, fun h => by linarith [h.2.1]⟩
  · rw [max_eq_right (by linarith), max_eq_left (by linarith), zero_pow two_ne_zero, add_zero,
      pow_le_pow_iff_left₀ (by linarith) hr two_ne_zero]
    exact ⟨fun h => ⟨by linarith, by linarith, .inr (.inl he)⟩, fun h => by linarith [h.1]⟩
  · rw [max_eq_right (by linarith), max_eq_right (by linarith)]
    constructor
    · intro h
      exact ⟨by nlinarith, by nlinarith, .inr (.inr (by linarith))⟩
    · rintro ⟨hd', he', h | h | h⟩ <;> nlinarith

namespace Rect

/-- Some point of the rectangle of a hitbox's size around the hitbox's place, its owner being at
`(x, y)`, is in the circle around `(s, t)`. -/
def Reached (r : Rect) (x y s t : Rat) (radius : Int) : Prop :=
  ∃ px py : ℝ, |px - (x + r.x)| ≤ r.w / 2 ∧ |py - (y + r.y)| ≤ r.h / 2 ∧
    (px - s) ^ 2 + (py - t) ^ 2 ≤ radius ^ 2

lemma reached_iff {r : Rect} (hw : 0 ≤ r.w) (hh : 0 ≤ r.h) {x y s t : Rat} {radius : Int}
    (hrad : 0 ≤ radius) :
    r.Reached x y s t radius ↔
      |s - (r.x + x)| ≤ r.w / 2 + radius ∧ |t - (r.y + y)| ≤ r.h / 2 + radius ∧
        (|s - (r.x + x)| ≤ r.w / 2 ∨ |t - (r.y + y)| ≤ r.h / 2 ∨
          (|s - (r.x + x)| - r.w / 2) * (|s - (r.x + x)| - r.w / 2) +
            (|t - (r.y + y)| - r.h / 2) * (|t - (r.y + y)| - r.h / 2) ≤ radius * radius) := by
  have hgaps := gaps_within_iff (d := |(s : ℝ) - (x + r.x)|) (e := |(t : ℝ) - (y + r.y)|)
    (s := r.w / 2) (t := r.h / 2) (Int.cast_nonneg hrad)
  rw [add_comm (r.x : Rat), add_comm (r.y : Rat)]
  refine .trans ⟨?_, ?_⟩ (hgaps.trans (by exact_mod_cast Iff.rfl))
  · rintro ⟨px, py, hpx, hpy, h⟩
    have hx := pow_le_pow_left₀ (le_max_left _ _) (gap_le (c := s) hpx) 2
    have hy := pow_le_pow_left₀ (le_max_left _ _) (gap_le (c := t) hpy) 2
    rw [sq_abs] at hx hy
    linarith
  · intro h
    obtain ⟨px, hpx, hx⟩ := exists_nearest (x + r.x : ℝ) s (s := r.w / 2) (by positivity)
    obtain ⟨py, hpy, hy⟩ := exists_nearest (y + r.y : ℝ) t (s := r.h / 2) (by positivity)
    rw [← hx, ← hy, sq_abs, sq_abs] at h
    exact ⟨px, py, hpx, hpy, h⟩

/-- Some point of the hitbox, its owner being at `(x, y)`, is in the circle around `(s, t)`. -/
def Touched (r : Rect) (x y s t : Rat) (radius : Int) : Prop :=
  ∃ px py : ℝ, (x + r.x ≤ px ∧ px ≤ x + r.x + r.w) ∧ (y + r.y ≤ py ∧ py ≤ y + r.y + r.h) ∧
    (px - s) ^ 2 + (py - t) ^ 2 ≤ radius ^ 2

lemma reached_iff_touched {r : Rect} {x y s t : Rat} {radius : Int} :
    r.Reached x y s t radius ↔ r.Touched x y (s + r.w / 2) (t + r.h / 2) radius := by
  constructor
  · rintro ⟨px, py, hpx, hpy, h⟩
    rw [abs_le] at hpx hpy
    refine ⟨px + r.w / 2, py + r.h / 2, ⟨by linarith, by linarith⟩, ⟨by linarith, by linarith⟩, ?_⟩
    push_cast
    rwa [add_sub_add_right_eq_sub, add_sub_add_right_eq_sub]
  · rintro ⟨px, py, hpx, hpy, h⟩
    refine ⟨px - r.w / 2, py - r.h / 2, abs_le.2 ⟨by linarith, by linarith⟩,
      abs_le.2 ⟨by linarith, by linarith⟩, ?_⟩
    push_cast at h
    rwa [sub_right_comm px, sub_sub, sub_right_comm py, sub_sub]

/-- The lower right corner belongs to the hitbox. -/
lemma touched_corner {r : Rect} (hw : 0 < r.w) (hh : 0 < r.h) (x y : Rat) :
    r.Touched x y (x + r.x + r.w) (y + r.y + r.h) 0 := by
  have hw : (0 : ℝ) < r.w := Int.cast_pos.2 hw
  have hh : (0 : ℝ) < r.h := Int.cast_pos.2 hh
  refine ⟨x + r.x + r.w, y + r.y + r.h, ⟨by linarith, le_rfl⟩, ⟨by linarith, le_rfl⟩, ?_⟩
  push_cast
  simp

/-- The lower right corner is beyond the rectangle around the place of the hitbox. -/
lemma not_reached_corner {r : Rect} (hw : 0 < r.w) (x y t : Rat) :
    ¬ r.Reached x y (x + r.x + r.w) t 0 := by
  rintro ⟨px, py, hpx, -, h⟩
  have hw : (0 : ℝ) < r.w := Int.cast_pos.2 hw
  push_cast at h
  have hp : px - (x + r.x + r.w) = 0 := by nlinarith [sq_nonneg (px - (x + r.x + r.w)), sq_nonneg (py - t)]
  rw [abs_le] at hpx
  linarith [hpx.2]

end Rect

/-! ## Bodies in the world -/

lemma Game.run_meetsCircle {w : World} {b : PartId} {bx : Box} (h : w.HasBox b bx)
    (x y radius : Json) : (meetsCircle b x y radius).runOn w = (bx.meetsCircle x y radius, w) := by
  rw [meetsCircle, bind_ok (run_box_eq_ok.2 ⟨h, rfl⟩), run_lift]

namespace World

/-- The part has a hitbox, its entity stands at `(x, y)`, on whole or half pixels, and everything is
below `2 ^ 24`. -/
structure Perches (w : World) (b : PartId) (r : Rect) (x y : Rat) : Prop where
  owned : ∃ e cx cy, w.ownerOf? b = some e ∧ w.placeOf? e = some (.num cx, .num cy) ∧
    cx.Holds 1 (2 ^ 25) x ∧ cy.Holds 1 (2 ^ 25) y
  hitbox : w.parts[b.index]?.map (·.part.hitbox?) = some (some r)
  offset : r.x.natAbs < 2 ^ 24 ∧ r.y.natAbs < 2 ^ 24
  width : 0 ≤ r.w ∧ r.w < 2 ^ 24
  height : 0 ≤ r.h ∧ r.h < 2 ^ 24

variable {w : World} {b : PartId} {r : Rect} {x y s t : Rat} {cx cy : Scalar} {radius : Int}

lemma Perches.meetsCircle (h : w.Perches b r x y) (hcx : cx.Holds 1 (2 ^ 25) s)
    (hcy : cy.Holds 1 (2 ^ 25) t) (hrad : 0 ≤ radius) (hsmall : radius < 2 ^ 24) :
    ∃ met, (Game.meetsCircle b (.num cx) (.num cy) (.ofInt radius)).runOn w = (.ok met, w) ∧
      (met = true ↔ r.Reached x y s t radius) := by
  obtain ⟨⟨e, ex, ey, hown, hplace, hx, hy⟩, hhitbox, ⟨hleft, htop⟩, ⟨hw, hw'⟩, hh, hh'⟩ := h
  obtain ⟨left, hl, hleft⟩ := (Scalar.Holds.int 1 (n := 2 ^ 25) (i := r.x) (by omega)).add hx
    (by omega) (by omega)
  obtain ⟨top, ht, htop⟩ := (Scalar.Holds.int 1 (n := 2 ^ 25) (i := r.y) (by omega)).add hy
    (by omega) (by omega)
  have hbox : w.HasBox b ⟨left, top, r.w, r.h⟩ := by
    refine ⟨e, _, r, hown, hplace, hhitbox, ?_⟩
    simp only [Box.place, Rect.corner, Json.toScalar, ok_bind, hl, ht]
    rfl
  have hcircle := Box.meetsCircle_eq (b := ⟨left, top, r.w, r.h⟩) radius hleft htop
    (hcx.mono (by omega)) (hcy.mono (by omega)) (by omega : r.w.natAbs < 2 ^ 24)
    (by omega : r.h.natAbs < 2 ^ 24) (by omega) (by omega)
  exact ⟨_, (Game.run_meetsCircle hbox _ _ _).trans (congrArg (·, w) hcircle),
    decide_eq_true_iff.trans (Rect.reached_iff hw hh hrad).symm⟩

/-- The answer for a circle is the one for the hitbox exactly if it is the same for the circle moved
right and down by half the hitbox. Around the lower right corner of a hitbox it never is. -/
theorem tells_touched_iff (h : w.Perches b r x y) (hw : 0 < r.w) (hh : 0 < r.h) :
    (∀ s t radius : Int, s.natAbs < 2 ^ 24 → t.natAbs < 2 ^ 24 → 0 ≤ radius → radius < 2 ^ 24 →
      ∃ met, (Game.meetsCircle b (.ofInt s) (.ofInt t) (.ofInt radius)).runOn w = (.ok met, w) ∧
        ((met = true ↔ r.Touched x y s t radius) ↔
          (r.Touched x y s t radius ↔ r.Touched x y (s + r.w / 2) (t + r.h / 2) radius))) ∧
    ¬ (r.Touched x y (x + r.x + r.w) (y + r.y + r.h) 0 ↔
      r.Touched x y (x + r.x + r.w + r.w / 2) (y + r.y + r.h + r.h / 2) 0) := by
  constructor
  · intro s t radius hs ht hradius hsmall
    obtain ⟨met, hrun, hmet⟩ := h.meetsCircle (.int 1 (by omega : s.natAbs * 2 ^ 1 ≤ 2 ^ 25))
      (.int 1 (by omega : t.natAbs * 2 ^ 1 ≤ 2 ^ 25)) hradius hsmall
    exact ⟨met, hrun, by rw [hmet, Rect.reached_iff_touched]; exact iff_comm⟩
  · rw [iff_true_left (Rect.touched_corner hw hh x y), ← Rect.reached_iff_touched]
    exact Rect.not_reached_corner hw x y _

end World

namespace Game

variable {w : World}

lemma run_filterM {α : Type} {p : α → Game Bool} {r : α → Bool} {as : List α}
    (hp : ∀ a ∈ as, (p a).runOn w = (.ok (r a), w)) :
    (as.filterM p).runOn w = (.ok (as.filter r), w) := by
  have haux (done : List α) :
      (List.filterAuxM p as done).runOn w = (.ok ((as.filter r).reverse ++ done), w) := by
    induction as generalizing done with
    | nil => rfl
    | cons a as ih =>
      obtain ⟨ha, hrest⟩ := List.forall_mem_cons.1 hp
      rw [List.filterAuxM, bind_ok ha]
      cases hr : r a <;> simp [hr, ih hrest]
  rw [List.filterM, bind_ok (haux [])]
  simp

open World

/-- A circle of whole radius around a point on whole or half pixels meets just those bodies that it
has a point in common with, and these are found in the order of the register. -/
theorem bodiesInCircle_eq_reached {cx cy : Scalar} {s t : Rat} {radius : Int}
    (hcx : cx.Holds 1 (2 ^ 25) s) (hcy : cy.Holds 1 (2 ^ 25) t) (hradius : 0 ≤ radius)
    (hsmall : radius < 2 ^ 24) (hbodies : ∀ b ∈ w.bodies, ∃ r x y, w.Perches b r x y) :
    (∀ b r x y, w.Perches b r x y → ∃ met,
      (meetsCircle b (.num cx) (.num cy) (.ofInt radius)).runOn w = (.ok met, w) ∧
        (met = true ↔ r.Reached x y s t radius)) ∧ ∃ met : PartId → Bool,
      (bodiesInCircle (.num cx) (.num cy) (.ofInt radius)).runOn w =
        (.ok (w.bodies.filter met), w) ∧
      ∀ b ∈ w.bodies, ∀ r x y, w.Perches b r x y → (met b = true ↔ r.Reached x y s t radius) := by
  have hmeets {b r x y} (h : w.Perches b r x y) := h.meetsCircle hcx hcy hradius hsmall
  refine ⟨fun b r x y h => hmeets h, ?_⟩
  have hmet (b : PartId) (hb : b ∈ w.bodies) : ∃ met,
      (meetsCircle b (.num cx) (.num cy) (.ofInt radius)).runOn w = (.ok met, w) := by
    obtain ⟨r, x, y, h⟩ := hbodies b hb
    obtain ⟨met, hrun, -⟩ := hmeets h
    exact ⟨met, hrun⟩
  choose! met hrun using hmet
  refine ⟨met, ?_, fun b hb r x y h => ?_⟩
  · rw [bodiesInCircle, run_get_bind]
    exact run_filterM hrun
  · obtain ⟨met', hrun', hiff⟩ := hmeets h
    cases (hrun b hb).symm.trans hrun'
    exact hiff

def twoBodies : World :=
  { entities := #[{ x := .num (.real (.finite (mkRat 1 2))), y := 0 }, { x := 100, y := 0 }],
    parts := #[{ part := .body { w := 16, h := 16 }, owner? := some ⟨0⟩ },
      { part := .body { w := 16, h := 16 }, owner? := some ⟨1⟩ }],
    bodies := [⟨0⟩, ⟨1⟩] }

lemma perches_distant : twoBodies.Perches ⟨1⟩ { w := 16, h := 16 } 100 0 := by
  refine ⟨⟨⟨1⟩, _, _, rfl, rfl, .int 1 (by decide), .int 1 (by decide)⟩, rfl, ?_, ?_, ?_⟩ <;> decide

lemma twoBodies_perch : ∀ b ∈ twoBodies.bodies, ∃ r x y, twoBodies.Perches b r x y := by
  intro b hb
  have hsmall : (0 : Int).natAbs < 2 ^ 24 ∧ 0 ≤ (16 : Int) ∧ (16 : Int) < 2 ^ 24 := by decide
  have hb : b = ⟨0⟩ ∨ b = ⟨1⟩ := by simpa [twoBodies] using hb
  rcases hb with rfl | rfl
  · exact ⟨{ w := 16, h := 16 }, mkRat 1 2, 0,
      ⟨⟨0⟩, _, _, rfl, rfl, ⟨rfl, 1, by decide, by norm_num⟩, .int 1 (by decide)⟩, rfl,
      ⟨hsmall.1, hsmall.1⟩, hsmall.2, hsmall.2⟩
  · exact ⟨_, _, _, perches_distant⟩

theorem bodiesInCircle_eq_reached_twoBodies :
    (∀ b ∈ twoBodies.bodies, ∃ r x y, twoBodies.Perches b r x y) ∧ ∃ met : PartId → Bool,
      (bodiesInCircle (.num 0) (.num 0) (.ofInt 20)).runOn twoBodies =
        (.ok (twoBodies.bodies.filter met), twoBodies) ∧
      ∀ b ∈ twoBodies.bodies, ∀ r x y, twoBodies.Perches b r x y →
        (met b = true ↔ r.Reached x y (0 : Int) (0 : Int) 20) :=
  ⟨twoBodies_perch, (bodiesInCircle_eq_reached (.int 1 (by decide)) (.int 1 (by decide)) (by decide)
    (by decide) twoBodies_perch).2⟩

end Game

namespace World

open Game

theorem tells_touched_iff_distant :
    ∃ met, (Game.meetsCircle ⟨1⟩ (.ofInt 104) (.ofInt 4) (.ofInt 3)).runOn twoBodies =
        (.ok met, twoBodies) ∧
      ((met = true ↔ ({ w := 16, h := 16 } : Rect).Touched 100 0 (104 : Int) (4 : Int) 3) ↔
        (({ w := 16, h := 16 } : Rect).Touched 100 0 (104 : Int) (4 : Int) 3 ↔
          ({ w := 16, h := 16 } : Rect).Touched 100 0 ((104 : Int) + (16 : Int) / 2)
            ((4 : Int) + (16 : Int) / 2) 3)) :=
  (tells_touched_iff perches_distant (by decide) (by decide)).1 104 4 3 (by decide) (by decide)
    (by decide) (by decide)

/-- A circle of radius zero in the hitbox of a body is not found to meet it. -/
theorem not_tells_distant :
    ((Game.meetsCircle ⟨1⟩ (.ofInt 112) (.ofInt 8) (.ofInt 0)).runOn twoBodies).1 = .ok false ∧
      ({ w := 16, h := 16 } : Rect).Touched 100 0 112 8 0 := by
  refine ⟨by decide +kernel, 112, 8, ?_, ?_, ?_⟩ <;> norm_num

end World

end TileQuest
