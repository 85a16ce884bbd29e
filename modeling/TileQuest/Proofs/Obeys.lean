import Mathlib.Order.Defs.Unbundled
import TileQuest.Proofs.Outcome
import TileQuest.World.Hitboxes

/-!
# What steps do to the world

`Game.Obeys R g` says that the step `g` leads every world to one that the relation `R` relates it
to, whether the step completes or breaks off. A relation that is reflexive and transitive carries
over from the links of a chain to the chain, so what a step of the game can do is said once, link by
link, and everything else about it follows from the relation.
-/

namespace TileQuest.Game

variable {u w w' : World} {R : World → World → Prop} {α β γ : Type} {fault : Fault}
variable {D : World → Prop}

/-- The second relation allows whatever the first one does. -/
class Allows (R S : World → World → Prop) : Prop where
  allows : ∀ w w', R w w' → S w w'

instance (R : World → World → Prop) : Allows R R := ⟨fun _ _ h => h⟩

/-- Whatever comes of a step, the world that it leaves is related to the world before it. -/
def Obeys {α : Type} (R : World → World → Prop) (g : Game α) : Prop := ∀ w, R w (g.runOn w).2

namespace Obeys

variable {S : World → World → Prop} {g : Game α} {f : α → Game β} {b : β}

lemma allow [Allows R S] (hg : Obeys R g) : Obeys S g := fun w => Allows.allows w _ (hg w)

lemma of_run (h : Obeys R g) {r : Except Fault α} (hrun : g.runOn w = (r, w')) : R w w' := by
  have hw := h w
  rwa [hrun] at hw

lemma rest (hg : Obeys R g) (h : (g >>= f).runOn w = (.ok b, w')) :
    ∃ a u, R w u ∧ (f a).runOn u = (.ok b, w') := by
  obtain ⟨a, u, hrun, hrest⟩ := run_bind_eq_ok.1 h
  exact ⟨a, u, hg.of_run hrun, hrest⟩

lemma seen (hg : Obeys Eq g) (h : (g >>= f).runOn w = (.ok b, w')) :
    ∃ a, g.runOn w = (.ok a, w) ∧ (f a).runOn w = (.ok b, w') := by
  obtain ⟨a, u, hrun, hrest⟩ := run_bind_eq_ok.1 h
  cases hg.of_run hrun
  exact ⟨a, hrun, hrest⟩

protected lemma ite {c : Prop} [Decidable c] {g' : Game α} (hg : Obeys R g) (hg' : Obeys R g') :
    Obeys R (if c then g else g') := by
  split
  · exact hg
  · exact hg'

variable [IsPreorder World R]

protected lemma pure (a : α) : Obeys R (pure a : Game α) := fun w => Std.Refl.refl w

protected lemma throw (fault : Fault) : Obeys R (throw fault : Game α) := fun w => Std.Refl.refl w

protected lemma get : Obeys R (get : Game World) := fun w => Std.Refl.refl w

protected lemma lift (x : Except Fault α) : Obeys R (liftM x : Game α) := fun w => Std.Refl.refl w

protected lemma orAbsent (a? : Option α) : Obeys R (orAbsent a?) := by
  cases a? with
  | none => exact .throw _
  | some a => exact .pure a

protected lemma bind (hg : Obeys R g) (hf : ∀ a, Obeys R (f a)) : Obeys R (g >>= f) :=
  fun w => snd_run_bind (hg w) (fun _ h => h) fun a u _ h => IsTrans.trans w u _ h (hf a u)

lemma lifts {x : Except Fault α} (hf : ∀ a, Obeys R (f a)) : Obeys R (liftM x >>= f) :=
  (Obeys.lift x).bind hf

lemma when {c : Prop} [Decidable c] {g : Game Unit} {f : Unit → Game β} (hg : Obeys R g)
    (hf : ∀ a, Obeys R (f a)) : Obeys R (if c then g >>= f else f ()) :=
  .ite (hg.bind hf) (hf ())

lemma rest_when {c : Prop} [Decidable c] {g : Game Unit} {k : Unit → Game β} (hg : Obeys R g)
    (h : (if c then g >>= k else k ()).runOn w = (.ok b, w')) :
    ∃ u, R w u ∧ (k ()).runOn u = (.ok b, w') := by
  split at h
  · obtain ⟨_, u, hu, hrest⟩ := hg.rest h
    exact ⟨u, hu, hrest⟩
  · exact ⟨w, Std.Refl.refl w, h⟩

protected lemma forM {k : γ → Game PUnit} (hk : ∀ c, Obeys R (k c)) (cs : List γ) :
    Obeys R (cs.forM k) := by
  induction cs with
  | nil => exact .pure _
  | cons c cs ih => exact (hk c).bind fun _ => ih

protected lemma mapM {k : γ → Game α} (hk : ∀ c, Obeys R (k c)) (cs : List γ) :
    Obeys R (cs.mapM k) := by
  rw [← List.mapM'_eq_mapM]
  induction cs with
  | nil => exact .pure _
  | cons c cs ih => exact (hk c).bind fun _ => ih.bind fun _ => .pure _

protected lemma tryCatch {handle : Fault → Game α} (hg : Obeys R g)
    (hh : ∀ fault, Obeys R (handle fault)) : Obeys R (tryCatch g handle) := by
  intro w
  rw [run_tryCatch]
  rcases hrun : g.runOn w with ⟨fault | a, u⟩
  · exact IsTrans.trans w u _ (hg.of_run hrun) (hh fault u)
  · exact hg.of_run hrun

end Obeys

lemma snd_run_seen {P : World → Prop} {g : Game α} {f : α → Game β} (hg : Obeys Eq g) (hw : P w)
    (hf : ∀ a, g.runOn w = (.ok a, w) → P ((f a).runOn w).2) : P ((g >>= f).runOn w).2 :=
  snd_run_bind (P := (w = ·)) (hg w) (fun _ hu => hu ▸ hw) fun a _ hrun hu => by
    subst hu
    exact hf a hrun

/-! ## What a step comes to in one world -/

/-- Run on a world, the step gives something that has the first property, together with the world
that it leaves, or it breaks off in a world that has the second. -/
structure Ends {α : Type} (w : World) (g : Game α) (Q : α → World → Prop) (E : World → Prop) :
    Prop where
  ok : ∀ a u, g.runOn w = (.ok a, u) → Q a u
  error : ∀ fault u, g.runOn w = (.error fault, u) → E u

namespace Ends

variable {g : Game α} {f : α → Game β}
variable {Q : α → World → Prop} {Q' : β → World → Prop} {E : World → Prop}

lemma of_ok {a : α} (hrun : g.runOn w = (.ok a, u)) (h : Q a u) : Ends w g Q E where
  ok _ _ hrun' := by cases hrun.symm.trans hrun'; exact h
  error _ _ hrun' := by cases hrun.symm.trans hrun'

lemma of_error (hrun : g.runOn w = (.error fault, u)) (h : E u) : Ends w g Q E where
  ok _ _ hrun' := by cases hrun.symm.trans hrun'
  error _ _ hrun' := by cases hrun.symm.trans hrun'; exact h

lemma of_run_eq {g' : Game α} (hrun : g.runOn w = g'.runOn w') (h : Ends w' g' Q E) :
    Ends w g Q E where
  ok a u hrun' := h.ok a u (hrun.symm.trans hrun')
  error fault u hrun' := h.error fault u (hrun.symm.trans hrun')

lemma mono {P : α → World → Prop} (h : Ends w g P D)
    (hQ : ∀ a u, P a u → Q a u) (hE : ∀ u, D u → E u) : Ends w g Q E where
  ok a u hrun := hQ a u (h.ok a u hrun)
  error fault u hrun := hE u (h.error fault u hrun)

lemma bind {P : α → World → Prop} (hg : Ends w g P E)
    (hf : ∀ a u, P a u → Ends u (f a) Q' E) : Ends w (g >>= f) Q' E := by
  rcases hrun : g.runOn w with ⟨fault | a, u⟩
  · exact .of_error (by rw [run_bind, hrun]) (hg.error fault u hrun)
  · exact .of_run_eq (bind_ok hrun) (hf a u (hg.ok a u hrun))

lemma step {a : α} {u : World} (hrun : g.runOn w = (.ok a, u)) (hf : Ends u (f a) Q' E) :
    Ends w (g >>= f) Q' E :=
  .of_run_eq (bind_ok hrun) hf

protected lemma lift {x : Except Fault α} (hE : ∀ fault, x = .error fault → E w)
    (hf : ∀ a, x = .ok a → Ends w (f a) Q' E) : Ends w (liftM x >>= f) Q' E := by
  rcases hx : x with fault | a
  · exact .of_error rfl (hE fault hx)
  · exact .of_run_eq rfl (hf a hx)

lemma watch (hg : Obeys R g) (hE : ∀ u, R w u → E u)
    (hf : ∀ a u, g.runOn w = (.ok a, u) → R w u → Ends u (f a) Q' E) : Ends w (g >>= f) Q' E := by
  rcases hrun : g.runOn w with ⟨fault | a, u⟩
  · exact .of_error (by rw [run_bind, hrun]) (hE u (hg.of_run hrun))
  · exact .of_run_eq (bind_ok hrun) (hf a u hrun (hg.of_run hrun))

lemma look (hg : Obeys Eq g) (hE : E w)
    (hf : ∀ a, g.runOn w = (.ok a, w) → Ends w (f a) Q' E) : Ends w (g >>= f) Q' E :=
  .watch hg (fun _ hu => hu ▸ hE) fun a _ hrun hu => by subst hu; exact hf a hrun

protected lemma tryCatch {handle : Fault → Game α} (hg : Ends w g Q D)
    (hh : ∀ fault u, D u → Ends u (handle fault) Q E) : Ends w (tryCatch g handle) Q E := by
  rcases hrun : g.runOn w with ⟨fault | a, u⟩
  · exact .of_run_eq (by rw [run_tryCatch, hrun]) (hh fault u (hg.error fault u hrun))
  · exact .of_ok (by rw [run_tryCatch, hrun]) (hg.ok a u hrun)

lemma ran (h : Ends w g Q E) : Ends w g (fun a u => Q a u ∧ g.runOn w = (.ok a, u)) E :=
  { h with ok := fun a u hrun => ⟨h.ok a u hrun, hrun⟩ }

protected lemma pure {a : α} (h : Q a w) : Ends w (pure a) Q E := .of_ok rfl h

protected lemma throw (h : E w) : Ends w (throw fault) Q E := .of_error rfl h

lemma of_obeys (hg : Obeys R g) (hQ : ∀ a u, R w u → Q a u)
    (hE : ∀ u, R w u → E u) : Ends w g Q E where
  ok a u hrun := hQ a u (hg.of_run hrun)
  error _ u hrun := hE u (hg.of_run hrun)

lemma and_obeys (h : Ends w g Q E) (hg : Obeys R g) :
    Ends w g (fun a u => Q a u ∧ R w u) (fun u => E u ∧ R w u) where
  ok a u hrun := ⟨h.ok a u hrun, hg.of_run hrun⟩
  error fault u hrun := ⟨h.error fault u hrun, hg.of_run hrun⟩

lemma snd {P : World → Prop} (h : Ends w g (fun _ => P) P) : P (g.runOn w).2 := by
  rcases hrun : g.runOn w with ⟨fault | a, u⟩
  · exact h.error fault u hrun
  · exact h.ok a u hrun

lemma of_snd {P : World → Prop} (h : P (g.runOn w).2) : Ends w g (fun _ => P) P where
  ok a u hrun := by rwa [hrun] at h
  error fault u hrun := by rwa [hrun] at h

lemma completes (h : Ends w g Q fun _ => False) : ∃ a w', g.runOn w = (.ok a, w') ∧ Q a w' := by
  rcases hrun : g.runOn w with ⟨fault | a, u⟩
  · exact (h.error fault u hrun).elim
  · exact ⟨a, u, rfl, h.ok a u hrun⟩

end Ends

/-! ## Looking at the world -/

section Looking

variable (id : PartId) [IsPreorder World R]

lemma obeys_owned : Obeys R (owned id) := .bind .get fun _ => .orAbsent _

lemma obeys_part : Obeys R (part id) := (obeys_owned id).bind fun _ => .pure _

lemma obeys_owner : Obeys R (owner id) := (obeys_owned id).bind fun _ => .orAbsent _

lemma obeys_hasLost (f : Faculty) : Obeys R (hasLost id f) :=
  (obeys_owned id).bind fun _ => .pure _

lemma obeys_requires (f : Faculty) : Obeys R (requires id f) :=
  (obeys_hasLost id f).bind fun _ => .ite (.throw _) (.pure _)

lemma obeys_entity (e : EntityId) : Obeys R (entity e) := .bind .get fun _ => .orAbsent _

lemma obeys_entityPlace (e : EntityId) : Obeys R (entityPlace e) :=
  (obeys_entity e).bind fun _ => .pure _

lemma obeys_entityPoint (e : EntityId) : Obeys R (entityPoint e) :=
  (obeys_entity e).bind fun _ => .lifts fun _ => .lifts fun _ => .pure _

lemma obeys_place : Obeys R (place id) :=
  (obeys_owner id).bind fun e => obeys_entityPlace e

lemma obeys_point : Obeys R (point id) :=
  (obeys_owner id).bind fun e => obeys_entityPoint e

lemma obeys_find? (e : EntityId) (test : Part → Bool) : Obeys R (find? e test) :=
  .bind .get fun _ => (obeys_entity e).bind fun _ => .pure _

lemma obeys_hasPart (e : EntityId) (test : Part → Bool) : Obeys R (hasPart e test) :=
  (obeys_find? e test).bind fun _ => .pure _

lemma obeys_find (e : EntityId) (test : Part → Bool) : Obeys R (find e test) :=
  (obeys_find? e test).bind fun _ => .orAbsent _

lemma obeys_sprite : Obeys R (sprite id) :=
  (obeys_part id).bind fun p => by cases p <;> first | exact .pure _ | exact .throw _

lemma obeys_label : Obeys R (label id) := (obeys_part id).bind fun _ => .orAbsent _

lemma obeys_combat : Obeys R (combat id) :=
  (obeys_part id).bind fun p => by cases p <;> first | exact .pure _ | exact .throw _

lemma obeys_player : Obeys R (player id) :=
  (obeys_part id).bind fun p => by cases p <;> first | exact .pure _ | exact .throw _

lemma obeys_enemy : Obeys R (enemy id) :=
  (obeys_part id).bind fun p => by cases p <;> first | exact .pure _ | exact .throw _

lemma obeys_dialogue : Obeys R (dialogue id) :=
  (obeys_part id).bind fun p => by cases p <;> first | exact .pure _ | exact .throw _

lemma obeys_area (a : AreaId) : Obeys R (area a) := .bind .get fun _ => .orAbsent _

lemma obeys_currentArea : Obeys R currentArea := .bind .get fun _ => .orAbsent _

lemma obeys_groundOf (a : AreaId) : Obeys R (groundOf a) :=
  (obeys_area a).bind fun _ => .orAbsent _

lemma obeys_ground (g : GroundId) : Obeys R (ground g) := .bind .get fun _ => .orAbsent _

lemma obeys_currentMap : Obeys R currentMap :=
  Obeys.bind (obeys_currentArea.bind fun a => obeys_groundOf a) fun g => obeys_ground g

lemma obeys_bag (b : BagId) : Obeys R (bag b) := .bind .get fun _ => .orAbsent _

lemma obeys_hitbox : Obeys R (hitbox id) :=
  (obeys_part id).bind fun _ => .orAbsent _

lemma obeys_box : Obeys R (box id) :=
  (obeys_place id).bind fun _ => (obeys_hitbox id).bind fun _ => .lift _

lemma obeys_collides (a b : PartId) : Obeys R (collides a b) :=
  (obeys_box a).bind fun _ => (obeys_box b).bind fun _ => .lift _

lemma obeys_meetsOther (others : List PartId) : Obeys R (meetsOther id others) := by
  induction others with
  | nil => exact .pure _
  | cons other rest ih =>
    unfold meetsOther
    split
    · exact (obeys_collides other id).bind fun _ => .ite (.pure _) ih
    · exact ih

lemma obeys_positionIsValid : Obeys R (positionIsValid id) :=
  (obeys_box id).bind fun _ => obeys_currentMap.bind fun _ => .lifts fun _ =>
    .ite (.pure _) (.bind .get fun _ => (obeys_meetsOther id _).bind fun _ => .pure _)

end Looking

variable {i : PartId}

/-! ## What is seen -/

lemma run_part_eq_ok {p : Part} :
    (part i).runOn w = (.ok p, u) ↔ (∃ o, w.parts[i.index]? = some o ∧ o.part = p) ∧ u = w := by
  constructor
  · intro h
    obtain ⟨o, howned, hpure⟩ := (obeys_owned i).seen h
    obtain ⟨ho, -⟩ := run_orAbsent_eq_ok.1 howned
    cases hpure
    exact ⟨⟨o, ho, rfl⟩, rfl⟩
  · rintro ⟨⟨o, ho, rfl⟩, rfl⟩
    exact run_part ho

lemma run_part_bind_eq_ok {α : Type} {f : Part → Game α} {sort : α → Part}
    (hf : ∀ p a (w u : World), (f p).runOn w = (.ok a, u) ↔ p = sort a ∧ u = w) {a : α} :
    (part i >>= f).runOn w = (.ok a, u) ↔
      (∃ o, w.parts[i.index]? = some o ∧ o.part = sort a) ∧ u = w := by
  constructor
  · intro h
    obtain ⟨p, hpart, hrun⟩ := (obeys_part i).seen h
    obtain ⟨⟨o, ho, rfl⟩, -⟩ := run_part_eq_ok.1 hpart
    obtain ⟨hp, hu⟩ := (hf o.part a w u).1 hrun
    exact ⟨⟨o, ho, hp⟩, hu⟩
  · rintro ⟨⟨o, ho, hp⟩, rfl⟩
    rw [bind_ok (run_part ho)]
    exact (hf o.part a u u).2 ⟨hp, rfl⟩

lemma run_combat_eq_ok {c : Combat} : (combat i).runOn w = (.ok c, u) ↔
      (∃ o, w.parts[i.index]? = some o ∧ o.part = .combat c) ∧ u = w :=
  run_part_bind_eq_ok fun p c w u => by cases p <;> simp [eq_comm]

lemma run_player_eq_ok {p : Player} : (player i).runOn w = (.ok p, u) ↔
      (∃ o, w.parts[i.index]? = some o ∧ o.part = .player p) ∧ u = w :=
  run_part_bind_eq_ok fun part p w u => by cases part <;> simp [eq_comm]

lemma run_enemy_eq_ok {e : Enemy} : (enemy i).runOn w = (.ok e, u) ↔
      (∃ o, w.parts[i.index]? = some o ∧ o.part = .enemy e) ∧ u = w :=
  run_part_bind_eq_ok fun p e w u => by cases p <;> simp [eq_comm]

lemma run_dialogue_eq_ok {d : Dialogue} : (dialogue i).runOn w = (.ok d, u) ↔
      (∃ o, w.parts[i.index]? = some o ∧ o.part = .dialogue d) ∧ u = w :=
  run_part_bind_eq_ok fun p d w u => by cases p <;> simp [eq_comm]

end TileQuest.Game
