import Mathlib.Logic.ExistsUnique
import Mathlib.Tactic.ByContra
import TileQuest.Play.Enemies
import TileQuest.Proofs.Obeys

/-!
# When enemies think

An enemy looks around when the number of the step, modulo thirty, is its phase. The phase is drawn
from zero to thirty, so there is one draw too many: an enemy thinks once in thirty steps exactly if it
did not draw thirty, and with thirty it never does (`World.thinks_once_iff`).
-/

namespace TileQuest

variable {w u : World} {id : PartId} {en : Enemy}

namespace Game

/-- What an enemy does in every step, whether or not it has looked around. -/
def hunt (id : PartId) : Game Unit := do
  match (← enemy id).targeted? with
  | some other => attackTargeted id other
  | none => pure ()
  match (← enemy id).target? with
  | some (tx, ty) => walkToward id tx ty
  | none => return

def updateEnemyBy (look : Game Unit) (id : PartId) : Game Unit := do
  if (← get).step % 30 = (← enemy id).phase then look
  hunt id

lemma updateEnemy_eq (id : PartId) : updateEnemy id = updateEnemyBy (lookAround id) id := rfl

end Game

namespace World

open Game

def HasPhase (w : World) (id : PartId) (phase : Int) : Prop :=
  ∃ o en, w.parts[id.index]? = some o ∧ o.part = .enemy en ∧ en.phase = phase

/-- The update of the enemy starts with looking around, whatever that does. -/
def Thinks (w : World) (id : PartId) : Prop :=
  ∀ look, (updateEnemyBy look id).runOn w = (look >>= fun _ => hunt id).runOn w

lemma HasPhase.thinks_iff {phase : Int} (h : w.HasPhase id phase) :
    w.Thinks id ↔ w.step % 30 = phase := by
  obtain ⟨o, en, ho, hen, rfl⟩ := h
  have hrun (look : Game Unit) : (updateEnemyBy look id).runOn w =
      (if w.step % 30 = en.phase then look >>= fun _ => hunt id else hunt id).runOn w := by
    rw [updateEnemyBy, run_get_bind, bind_ok (run_enemy_eq_ok.2 ⟨⟨o, ho, hen⟩, rfl⟩)]
  constructor
  · intro hthinks
    by_contra hne
    have hlook (fault : Fault) : (hunt id).runOn w = (.error fault, w) := by
      have hthrow := (hrun (throw fault)).symm.trans (hthinks (throw fault))
      rwa [if_neg hne] at hthrow
    cases (hlook .absent).symm.trans (hlook .wrongSort)
  · intro hdue look
    rw [hrun, if_pos hdue]

lemma hasPhase_of_newEnemy {health : Json} {weapon : Int}
    (h : (newEnemy health weapon).runOn w = (.ok id, u)) : u.HasPhase id (w.random.headD 0 % 31) := by
  rw [newEnemy] at h
  obtain ⟨item, _, hi, hrest⟩ := run_bind_eq_ok.1 h
  rw [(run_lift_eq_ok.1 hi).2] at hrest
  let v : World := { w with
    parts := w.parts.push { part := .enemy { health? := some health, weapon := item, phase := 0 } }
    active := w.active ++ [⟨w.parts.size⟩] }
  obtain ⟨random, hrand⟩ := exists_randomBetween v 0 30
  cases (bind_ok hrand).symm.trans hrest
  let en : Enemy := { health? := some health, weapon := item, phase := w.random.headD 0 % 31 }
  refine ⟨{ part := .enemy en }, en, ?_, rfl, rfl⟩
  simp [v, en, Array.getElem_modify]

/-- A new enemy thinks once in any thirty steps exactly if it did not draw thirty. -/
theorem thinks_once_iff {health : Json} {weapon : Int} {v : Nat → World} {start : Int}
    (hmade : (newEnemy health weapon).runOn w = (.ok id, u))
    (hphase : ∀ k phase, u.HasPhase id phase → (v k).HasPhase id phase)
    (hstep : ∀ k, (v k).step = start + k) :
    (∃! k, k < 30 ∧ (v k).Thinks id) ↔ w.random.headD 0 % 31 ≠ 30 := by
  have hthinks (k : Nat) : (v k).Thinks id ↔ (start + k) % 30 = w.random.headD 0 % 31 := by
    rw [(hphase k _ (hasPhase_of_newEnemy hmade)).thinks_iff, hstep]
  simp only [hthinks]
  obtain ⟨phase, hdraw⟩ : ∃ phase, w.random.headD 0 % 31 = phase := ⟨_, rfl⟩
  rw [hdraw]
  have hrange : 0 ≤ phase ∧ phase < 31 := by omega
  constructor
  · rintro ⟨k, ⟨-, hk⟩, -⟩
    omega
  · intro hne
    exact ⟨((phase - start) % 30).toNat, by omega, fun k hk => by omega⟩

def den (draw : Int) : World := ((newEnemy 100 4).runOn { random := [draw] }).2

lemma run_den (draw : Int) : (newEnemy 100 4).runOn { random := [draw] } = (.ok ⟨0⟩, den draw) := rfl

theorem thinks_once_iff_den : ∃! k : Nat, k < 30 ∧ { den 29 with step := 12345 + k }.Thinks ⟨0⟩ :=
  (thinks_once_iff (v := fun k => { den 29 with step := 12345 + k }) (run_den 29) (fun _ _ h => h)
    fun _ => rfl).2 (by decide)

theorem not_thinks_den : ¬ ∃ k : Nat, k < 30 ∧ { den 30 with step := k }.Thinks ⟨0⟩ := by
  rintro ⟨k, hk, hthinks⟩
  have hphase : { den 30 with step := k }.HasPhase ⟨0⟩ 30 := hasPhase_of_newEnemy (run_den 30)
  rw [hphase.thinks_iff] at hthinks
  dsimp only at hthinks
  omega

end World

end TileQuest
