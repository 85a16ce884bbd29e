import Mathlib.Order.Nat
import TileQuest.World.Basic

/-!
# Taking results apart

A step of the game is a chain of smaller steps, each of which may break off. Here is what such a
chain comes to: for a check (`Except Fault`), when it succeeds, and for a step (`Game`), what it
gives and which world it leaves, link by link.
-/

namespace TileQuest

variable {α β : Type} {w : World}

lemma bind_eq_ok {x : Except Fault α} {f : α → Except Fault β} {b : β} :
    (x >>= f) = .ok b ↔ ∃ a, x = .ok a ∧ f a = .ok b := by
  constructor
  · intro h
    cases x with
    | error _ => cases h
    | ok a => exact ⟨a, rfl, h⟩
  · rintro ⟨a, rfl, h⟩
    exact h

lemma lt_of_getElem? {xs : Array α} {i : Nat} {a : α} (h : xs[i]? = some a) : i < xs.size :=
  (Array.getElem?_eq_some_iff.1 h).1

@[simp] lemma ok_bind (a : α) (f : α → Except Fault β) :
    ((Except.ok a : Except Fault α) >>= f) = f a := rfl

def World.partIs (w : World) (test : Part → Bool) (p : PartId) : Bool :=
  (w.parts[p.index]?.map fun o => test o.part).getD false

lemma World.partIs_of {i : PartId} {o : Owned} (h : w.parts[i.index]? = some o)
    (test : Part → Bool) : w.partIs test i = test o.part := by
  rw [partIs, h]
  rfl

def World.IsWhole (w : World) (e : EntityId) : Prop :=
  ∀ en, w.entities[e.index]? = some en → ∀ p ∈ en.parts, p.index < w.parts.size

lemma World.IsWhole.of_kept {w' : World} {e : EntityId} (h : w.IsWhole e)
    (hents : w'.entities[e.index]? = w.entities[e.index]?)
    (hsize : w.parts.size ≤ w'.parts.size) : w'.IsWhole e := by
  intro en hen p hp
  exact (h en (hents.symm.trans hen) p hp).trans_le hsize

namespace Game

variable {α β : Type} {w w' : World} {i : PartId} {o : Owned} {e : EntityId} {en : Entity}
variable {a : AreaId} {ar : Area} {g : GroundId}

@[simp] lemma run_pure (a : α) (w : World) : (pure a : Game α).runOn w = (.ok a, w) := rfl

@[simp] lemma run_throw (fault : Fault) (w : World) :
    (throw fault : Game α).runOn w = (.error fault, w) := rfl

@[simp] lemma run_get (w : World) : (get : Game World).runOn w = (.ok w, w) := rfl

@[simp] lemma run_modify (f : World → World) (w : World) :
    (modify f : Game PUnit).runOn w = (.ok ⟨⟩, f w) := rfl

@[simp] lemma run_lift (x : Except Fault α) (w : World) :
    (liftM x : Game α).runOn w = (x, w) := rfl

@[simp] lemma run_orAbsent_some (a : α) (w : World) :
    (orAbsent (some a)).runOn w = (.ok a, w) := rfl

lemma run_bind (x : Game α) (f : α → Game β) (w : World) :
    (x >>= f).runOn w =
      match x.runOn w with
      | (.ok a, w') => (f a).runOn w'
      | (.error fault, w') => (.error fault, w') := by
  simp only [runOn, ExceptT.run_bind, StateT.run_bind]
  rcases x.run.run w with ⟨_ | a, w'⟩
  · rfl
  · rfl

lemma bind_ok {x : Game α} {f : α → Game β} {a : α} (h : x.runOn w = (.ok a, w')) :
    (x >>= f).runOn w = (f a).runOn w' := by
  rw [run_bind, h]

@[simp] lemma run_get_bind (f : World → Game β) (w : World) :
    (get >>= f).runOn w = (f w).runOn w := rfl

@[simp] lemma run_modify_bind (g : World → World) (f : PUnit → Game β) (w : World) :
    (modify g >>= f).runOn w = (f ⟨⟩).runOn (g w) := rfl

lemma run_lift_bind {x : Except Fault α} {a : α} (h : x = .ok a) (f : α → Game β) (w : World) :
    (liftM x >>= f).runOn w = (f a).runOn w := by
  rw [h]
  rfl

lemma run_bind_eq_ok {x : Game α} {f : α → Game β} {b : β} : (x >>= f).runOn w = (.ok b, w') ↔
      ∃ a u, x.runOn w = (.ok a, u) ∧ (f a).runOn u = (.ok b, w') := by
  rw [run_bind]
  constructor
  · intro h
    rcases hx : x.runOn w with ⟨_ | a, u⟩
    · rw [hx] at h
      cases h
    · rw [hx] at h
      exact ⟨a, u, rfl, h⟩
  · rintro ⟨a, u, hx, h⟩
    rw [hx]
    exact h

lemma run_orAbsent_eq_ok {a? : Option α} {a : α} :
    (orAbsent a?).runOn w = (.ok a, w') ↔ a? = some a ∧ w' = w := by
  cases a? with
  | none => exact ⟨nofun, fun h => nomatch h.1⟩
  | some a' =>
    rw [run_orAbsent_some, Prod.mk.injEq, Except.ok.injEq, Option.some.injEq, eq_comm (a := w)]

lemma run_lift_eq_ok {x : Except Fault α} {a : α} :
    (liftM x : Game α).runOn w = (.ok a, w') ↔ x = .ok a ∧ w' = w := by
  rw [run_lift, Prod.mk.injEq, eq_comm (a := w)]

lemma snd_run_bind {P Q : World → Prop} {x : Game α} {f : α → Game β} (hx : P (x.runOn w).2)
    (hfault : ∀ u, P u → Q u) (hf : ∀ a u, x.runOn w = (.ok a, u) → P u → Q ((f a).runOn u).2) :
    Q ((x >>= f).runOn w).2 := by
  rw [run_bind]
  rcases hrun : x.runOn w with ⟨_ | a, u⟩
  · rw [hrun] at hx
    exact hfault u hx
  · rw [hrun] at hx
    exact hf a u hrun hx

lemma snd_run_bind_pure (x : Game α) (f : α → β) (w : World) :
    ((x >>= fun a => pure (f a)).runOn w).2 = (x.runOn w).2 := by
  rw [run_bind]
  rcases x.runOn w with ⟨_ | a, w'⟩
  · rfl
  · rfl

lemma run_of_isOk {g : Game Unit} (h : (g.runOn w).1.isOk = true) :
    g.runOn w = (.ok (), (g.runOn w).2) := by
  rcases hrun : g.runOn w with ⟨_ | _, u⟩
  · rw [hrun] at h
    cases h
  · rfl

lemma run_tryCatch (x : Game α) (handle : Fault → Game α) (w : World) :
    (tryCatch x handle).runOn w =
      match x.runOn w with
      | (.ok a, w') => (.ok a, w')
      | (.error fault, w') => (handle fault).runOn w' := by
  simp only [runOn, tryCatch, tryCatchThe, MonadExceptOf.tryCatch, ExceptT.tryCatch, ExceptT.run_mk,
    StateT.run_bind]
  change (do let r ← x.run.run w; _) = _
  rcases x.run.run w with ⟨_ | a, w'⟩
  · rfl
  · rfl

@[simp] lemma run_forM_nil (f : α → Game PUnit) (w : World) :
    (([] : List α).forM f).runOn w = (.ok ⟨⟩, w) := rfl

lemma run_forM_cons (a : α) (as : List α) (f : α → Game PUnit) (w : World) :
    ((a :: as).forM f).runOn w = (f a >>= fun _ => as.forM f).runOn w := rfl

lemma exists_randomBetween (w : World) (low high : Int) :
    ∃ random, (randomBetween low high).runOn w =
      (.ok (low + w.random.headD 0 % (high - low + 1)), { w with random }) := by
  rw [randomBetween, nextRandom, bind_assoc, run_get_bind]
  cases hrand : w.random with
  | nil => exact ⟨w.random, rfl⟩
  | cons n rest => exact ⟨rest, rfl⟩

/-! ## Looking things up -/

lemma run_owned (h : w.parts[i.index]? = some o) : (owned i).runOn w = (.ok o, w) := by
  rw [owned, run_get_bind, h, run_orAbsent_some]

lemma run_part (h : w.parts[i.index]? = some o) : (part i).runOn w = (.ok o.part, w) := by
  rw [part, bind_ok (run_owned h), run_pure]

lemma run_requires (h : w.parts[i.index]? = some o) (hlost : o.lost = []) (f : Faculty) :
    (requires i f).runOn w = (.ok (), w) := by
  rw [requires, hasLost, bind_assoc, bind_ok (run_owned h), hlost]
  rfl

lemma run_owner (h : w.parts[i.index]? = some o)
    (he : o.owner? = some e) : (owner i).runOn w = (.ok e, w) := by
  rw [owner, bind_ok (run_owned h), he, run_orAbsent_some]

lemma run_entity (h : w.entities[e.index]? = some en) : (entity e).runOn w = (.ok en, w) := by
  rw [entity, run_get_bind, h, run_orAbsent_some]

lemma run_entity_eq_ok :
    (entity e).runOn w = (.ok en, w') ↔ w.entities[e.index]? = some en ∧ w' = w :=
  run_orAbsent_eq_ok

lemma run_find? (h : w.entities[e.index]? = some en) (test : Part → Bool) :
    (find? e test).runOn w = (.ok (en.parts.find? (w.partIs test)), w) := by
  rw [find?, run_get_bind, bind_ok (run_entity h)]
  rfl

lemma run_area (h : w.areas[a.index]? = some ar) : (area a).runOn w = (.ok ar, w) := by
  rw [area, run_get_bind, h, run_orAbsent_some]

lemma run_currentArea_eq_ok :
    currentArea.runOn w = (.ok a, w') ↔ w.area? = some a ∧ w' = w := run_orAbsent_eq_ok

lemma run_groundOf (h : w.areas[a.index]? = some ar)
    (hg : ar.ground? = some g) : (groundOf a).runOn w = (.ok g, w) := by
  rw [groundOf, bind_ok (run_area h), hg, run_orAbsent_some]

lemma run_ground {map : TileMap} (h : w.grounds[g.index]? = some map) :
    (ground g).runOn w = (.ok map, w) := by
  rw [ground, run_get_bind, h, run_orAbsent_some]

end Game

end TileQuest
