import TileQuest.Proofs.Steady

/-!
# Registers are kept in order

Parts are registered when they are made, at the end of a register, and a part that leaves a register
never comes back. So whatever a step does, a register is afterwards what is left of it, in the same
order, followed by parts that were made in between, each of them once (`World.Drafts`).
-/

namespace TileQuest

variable {ids : List PartId} {w0 : World} {id : PartId} {free : List Roll}
variable {R : World → World → Prop} {r : Roll} {i : Nat}

/-! ## Registers -/

/-- A register that parts enter and leave one by one. -/
inductive Roll where
  /-- What does something in every frame. -/
  | active
  | drawn
  | overlay
  /-- What typed text reaches. -/
  | listeners
  /-- What stops others. -/
  | bodies
  /-- What can be touched. -/
  | triggers
  /-- What can be clicked in the world. -/
  | usables
deriving DecidableEq

namespace Roll

def list : Roll → World → List PartId
  | active, w => w.active
  | drawn, w => w.drawn
  | overlay, w => w.overlay
  | listeners, w => w.listeners
  | bodies, w => w.bodies
  | triggers, w => w.triggers
  | usables, w => w.usables

def put : Roll → World → List PartId → World
  | active, w, ids => { w with active := ids }
  | drawn, w, ids => { w with drawn := ids }
  | overlay, w, ids => { w with overlay := ids }
  | listeners, w, ids => { w with listeners := ids }
  | bodies, w, ids => { w with bodies := ids }
  | triggers, w, ids => { w with triggers := ids }
  | usables, w, ids => { w with usables := ids }

lemma list_put (r : Roll) (w : World) (ids : List PartId) : r.list (r.put w ids) = ids := by
  cases r <;> rfl

lemma list_put_of_ne {r' : Roll} (h : r' ≠ r) (w : World) (ids : List PartId) :
    r'.list (r.put w ids) = r'.list w := by
  cases r <;> cases r' <;> first | rfl | exact absurd rfl h

lemma parts_put (r : Roll) (w : World) (ids : List PartId) : (r.put w ids).parts = w.parts := by
  cases r <;> rfl

end Roll

/-- The registers that a part of this sort may stand in. -/
def Gist.rolls : Gist → List Roll
  | image isOverlay => [if isOverlay then .overlay else .drawn, .active]
  | inputBox => [.overlay]
  | line => [.overlay]
  | field => [.overlay, .listeners, .active]
  | view _ => [.active]
  | list => [.active, .overlay]
  | talk _ => [.active]
  | body _ => [.bodies]
  | trigger _ => [.triggers]
  | usable => [.usables]
  | fighter .. => [.active]
  | player .. => [.active]
  | enemy .. => [.active]
  | other => [.active]
  | _ => []

def Part.rolls (p : Part) : List Roll := p.gist.rolls

lemma Part.rolls_combat (c : Combat) : (Part.combat c).rolls = [.active] := by
  rw [rolls, gist_combat]
  rfl

/-! ## Lists that lose members and get new ones -/

/-- What is left of the first list, in the same order, followed by fresh members, each of them
once. -/
def Refilled (fresh : PartId → Prop) (old new : List PartId) : Prop :=
  ∃ kept added, new = kept ++ added ∧ kept.Sublist old ∧ added.Nodup ∧ ∀ p ∈ added, fresh p

namespace Refilled

variable {fresh fresh' : PartId → Prop} {old mid new : List PartId}

lemma of_sublist (h : new.Sublist old) : Refilled fresh old new :=
  ⟨new, [], (List.append_nil new).symm, h, List.nodup_nil, nofun⟩

lemma mono (h : Refilled fresh old new) (hmono : ∀ p, fresh p → fresh' p) :
    Refilled fresh' old new := by
  obtain ⟨kept, added, hnew, hkept, hnd, hfr⟩ := h
  exact ⟨kept, added, hnew, hkept, hnd, fun p hp => hmono p (hfr p hp)⟩

lemma trans {goal : PartId → Prop} (h : Refilled fresh old mid) (h' : Refilled fresh' mid new)
    (hapart : ∀ p, fresh p → ¬ fresh' p) (hgoal : ∀ p, fresh p → goal p)
    (hgoal' : ∀ p, fresh' p → goal p) : Refilled goal old new := by
  obtain ⟨kept, added, rfl, hkept, hnd, hfr⟩ := h
  obtain ⟨_, added', rfl, hkept', hnd', hfr'⟩ := h'
  obtain ⟨kept', left, rfl, hleft, hleft'⟩ := List.sublist_append_iff.1 hkept'
  refine ⟨kept', left ++ added', by rw [List.append_assoc], hleft.trans hkept, ?_, fun p hp => ?_⟩
  · refine List.nodup_append.2 ⟨hnd.sublist hleft', hnd', fun p hp q hq heq => ?_⟩
    exact hapart p (hfr p (hleft'.subset hp)) (hfr' p (heq ▸ hq))
  · rcases List.mem_append.1 hp with hp | hp
    · exact hgoal p (hfr p (hleft'.subset hp))
    · exact hgoal' p (hfr' p hp)

lemma concat {id : PartId} (h : Refilled (fun p => fresh p ∧ p ≠ id) old new) (hid : fresh id) :
    Refilled fresh old (new ++ [id]) := by
  obtain ⟨kept, added, rfl, hkept, hnd, hfr⟩ := h
  refine ⟨kept, added ++ [id], by rw [List.append_assoc], hkept, ?_, fun p hp => ?_⟩
  · exact List.nodup_append.2 ⟨hnd, by simp, fun p hp q hq heq =>
      (hfr p hp).2 (heq.trans (List.mem_singleton.1 hq))⟩
  · rcases List.mem_append.1 hp with hp | hp
    · exact (hfr p hp).1
    · rwa [List.mem_singleton.1 hp]

end Refilled

namespace World

variable {w w' w'' : World}

/-! ## The relation -/

def rollsOf (w : World) (p : PartId) : List Roll :=
  (w.parts[p.index]?.map fun o => o.part.rolls).getD []

lemma rollsOf_of {p : PartId} {o : Owned} (ho : w.parts[p.index]? = some o) :
    w.rollsOf p = o.part.rolls := by
  rw [rollsOf, ho]
  rfl

lemma lt_of_mem_rollsOf {p : PartId} (h : r ∈ w.rollsOf p) : p.index < w.parts.size := by
  rcases Nat.lt_or_ge p.index w.parts.size with hlt | hle
  · exact hlt
  · rw [rollsOf, Array.getElem?_eq_none hle] at h
    cases h

/-- The registers lose parts and get new ones at the end, and no part changes its sort. -/
structure Drafts (w w' : World) : Prop where
  parts_le : w.parts.size ≤ w'.parts.size
  rolls : ∀ p : PartId, p.index < w.parts.size → w'.rollsOf p = w.rollsOf p
  refilled : ∀ r : Roll,
    Refilled (fun p => w.parts.size ≤ p.index ∧ r ∈ w'.rollsOf p) (r.list w) (r.list w')

/-- All registers hold parts that belong there, each of them once. -/
structure Filed (w : World) : Prop where
  nodup : ∀ r : Roll, (r.list w).Nodup
  sort : ∀ (r : Roll), ∀ p ∈ r.list w, r ∈ w.rollsOf p

lemma Drafts.of_sublist (hle : w.parts.size ≤ w'.parts.size)
    (hrolls : ∀ p : PartId, p.index < w.parts.size → w'.rollsOf p = w.rollsOf p)
    (h : ∀ r : Roll, (r.list w').Sublist (r.list w)) : Drafts w w' :=
  ⟨hle, hrolls, fun r => .of_sublist (h r)⟩

lemma Drafts.refl (w : World) : Drafts w w :=
  .of_sublist le_rfl (fun _ _ => rfl) fun _ => .refl _

lemma Drafts.trans (h : Drafts w w') (h' : Drafts w' w'') : Drafts w w'' where
  parts_le := h.parts_le.trans h'.parts_le
  rolls p hp := (h'.rolls p (hp.trans_le h.parts_le)).trans (h.rolls p hp)
  refilled r := by
    refine (h.refilled r).trans (h'.refilled r) ?_ ?_ ?_
    · exact fun p hp hp' => (lt_of_mem_rollsOf hp.2).not_ge hp'.1
    · exact fun p hp => ⟨hp.1, (h'.rolls p (lt_of_mem_rollsOf hp.2)).symm ▸ hp.2⟩
    · exact fun p hp => ⟨h.parts_le.trans hp.1, hp.2⟩

instance : IsPreorder World Drafts where
  refl := Drafts.refl
  trans _ _ _ := Drafts.trans

lemma Filed.of_drafts (h : w.Filed) (hdr : Drafts w w') : w'.Filed := by
  have hold {r : Roll} {p : PartId} (hp : p ∈ r.list w) : p.index < w.parts.size :=
    lt_of_mem_rollsOf (h.sort r p hp)
  refine ⟨fun r => ?_, fun r p hp => ?_⟩
  · obtain ⟨kept, added, hlist, hkept, hnd, hfr⟩ := hdr.refilled r
    rw [hlist]
    refine List.nodup_append.2 ⟨(h.nodup r).sublist hkept, hnd, fun p hp q hq heq => ?_⟩
    exact (hold (hkept.subset hp)).not_ge (hfr p (heq ▸ hq)).1
  · obtain ⟨kept, added, hlist, hkept, -, hfr⟩ := hdr.refilled r
    rw [hlist] at hp
    rcases List.mem_append.1 hp with hp | hp
    · have hmem := hkept.subset hp
      rw [hdr.rolls p (hold hmem)]
      exact h.sort r p hmem
    · exact (hfr p hp).2

/-! ## Changes of the world -/

/-- All registers. -/
def rolls (w : World) : List PartId × List PartId × List PartId × List PartId × List PartId ×
    List PartId × List PartId :=
  (w.active, w.drawn, w.overlay, w.listeners, w.bodies, w.triggers, w.usables)

lemma list_eq_of_rolls (h : w'.rolls = w.rolls) (r : Roll) : r.list w' = r.list w := by
  simp only [World.rolls, Prod.mk.injEq] at h
  obtain ⟨hact, hdrawn, hlay, hlisten, hbods, htrig, huse⟩ := h
  cases r with
  | active => exact hact
  | drawn => exact hdrawn
  | overlay => exact hlay
  | listeners => exact hlisten
  | bodies => exact hbods
  | triggers => exact htrig
  | usables => exact huse

lemma Drafts.of_same (h : (w'.parts, w'.rolls) = (w.parts, w.rolls)) : Drafts w w' := by
  obtain ⟨hps, hrolls⟩ := Prod.mk.inj h
  refine .of_sublist (Nat.le_of_eq (by rw [hps])) (fun p _ => ?_) fun r => ?_
  · rw [rollsOf, hps, rollsOf]
  · exact list_eq_of_rolls hrolls r ▸ List.Sublist.refl _

lemma Drafts.put (r : Roll) (h : ids.Sublist (r.list w)) : Drafts w (r.put w ids) := by
  refine .of_sublist (Nat.le_of_eq (by rw [r.parts_put])) (fun p _ => ?_) fun r' => ?_
  · rw [rollsOf, r.parts_put, rollsOf]
  · by_cases hr : r' = r
    · subst hr
      rwa [r'.list_put]
    · exact (Roll.list_put_of_ne hr w ids).symm ▸ List.Sublist.refl _

lemma Drafts.modifyOwned {f : Owned → Owned}
    (hf : ∀ o, w.parts[i]? = some o → (f o).part.rolls = o.part.rolls) :
    Drafts w { w with parts := w.parts.modify i f } :=
  .of_sublist (by simp) (fun p _ => congrArg (Option.getD · [])
    (map_getElem?_modify (g := fun o : Owned => o.part.rolls) hf p.index)) fun r => by
      cases r <;> exact .refl _

lemma Drafts.push_part (w : World) (o : Owned) :
    Drafts w { w with parts := w.parts.push o } :=
  .of_sublist (by simp) (fun p hp => by rw [rollsOf, getElem?_push_of_lt hp, rollsOf]) fun r => by
    cases r <;> exact .refl _

lemma Drafts.given (w : World) (ids : List PartId) (e : EntityId) : Drafts w (w.given ids e) := by
  refine .of_sublist (size_given w ids e).symm.le (fun p _ => ?_) fun r => ?_
  · rw [rollsOf, getElem?_given, Option.map_map, rollsOf]
    refine congrArg (fun rolls? : Option (List Roll) => rolls?.getD []) ?_
    refine congrArg (Option.map · _) (funext fun o => ?_)
    rw [Function.comp_apply]
    split <;> rfl
  · cases r <;> exact .refl _

lemma Drafts.placed (w : World) (ids : List PartId) (x y : Json) :
    Drafts w (w.placed ids x y) := by
  have hnew : Drafts w { w with entities := w.entities.push { x, y, parts := ids } } :=
    .of_same rfl
  exact hnew.trans (.given _ ids _)

/-! ## A part that is being made -/

/-- Since an earlier world the registers got new parts only, and one of these is a part that some
registers are still open to. -/
structure Drafted (w0 : World) (id : PartId) (free : List Roll) (w : World) : Prop where
  parts_le : w0.parts.size ≤ w.parts.size
  rolls : ∀ p : PartId, p.index < w0.parts.size → w.rollsOf p = w0.rollsOf p
  new : w0.parts.size ≤ id.index ∧ id.index < w.parts.size
  sort : ∀ r ∈ free, r ∈ w.rollsOf id
  refilled : ∀ r : Roll,
    Refilled (fun p => (w0.parts.size ≤ p.index ∧ r ∈ w.rollsOf p) ∧ (r ∈ free → p ≠ id))
      (r.list w0) (r.list w)

lemma Drafted.drafts (h : Drafted w0 id free w) : Drafts w0 w :=
  ⟨h.parts_le, h.rolls, fun r => (h.refilled r).mono fun _ hp => hp.1⟩

lemma Drafted.make (w : World) (p : Part) : Drafted w ⟨w.parts.size⟩ p.rolls
    { w with parts := w.parts.push { part := p } } where
  parts_le := (Drafts.push_part w _).parts_le
  rolls := (Drafts.push_part w _).rolls
  new := ⟨le_rfl, by simp⟩
  sort r hr := by
    rwa [rollsOf_of (o := { part := p }) (by simp)]
  refilled r := .of_sublist (by cases r <;> exact .refl _)

lemma Drafted.step (h : Drafted w0 id free w) (h' : Drafts w w') : Drafted w0 id free w' where
  parts_le := h.parts_le.trans h'.parts_le
  rolls := (h.drafts.trans h').rolls
  new := ⟨h.new.1, h.new.2.trans_le h'.parts_le⟩
  sort r hr := (h'.rolls id h.new.2).symm ▸ h.sort r hr
  refilled r := by
    refine (h.refilled r).trans (h'.refilled r) ?_ ?_ ?_
    · exact fun p hp hp' => (lt_of_mem_rollsOf hp.1.2).not_ge hp'.1
    · exact fun p hp => ⟨⟨hp.1.1, (h'.rolls p (lt_of_mem_rollsOf hp.1.2)).symm ▸ hp.1.2⟩, hp.2⟩
    · refine fun p hp => ⟨⟨h.parts_le.trans hp.1, hp.2⟩, fun _ heq => ?_⟩
      exact h.new.2.not_ge (heq ▸ hp.1)

lemma Drafted.enroll (h : Drafted w0 id (r :: free) w) (hr : r ∉ free) :
    Drafted w0 id free (r.put w (r.list w ++ [id])) := by
  have hsame (p : PartId) : (r.put w (r.list w ++ [id])).rollsOf p = w.rollsOf p := by
    rw [rollsOf, r.parts_put, rollsOf]
  refine ⟨?_, ?_, ?_, ?_, fun r' => ?_⟩
  · rw [r.parts_put]
    exact h.parts_le
  · exact fun p hp => (hsame p).trans (h.rolls p hp)
  · rw [r.parts_put]
    exact h.new
  · exact fun r' hr' => (hsame id).symm ▸ h.sort r' (.tail _ hr')
  · simp only [hsame]
    by_cases heq : r' = r
    · subst heq
      rw [r'.list_put]
      refine ((h.refilled r').mono fun p hp => ?_).concat ?_
      · exact ⟨⟨hp.1, fun hfree => absurd hfree hr⟩, hp.2 (.head _)⟩
      · exact ⟨⟨h.new.1, h.sort r' (.head _)⟩, fun hfree => absurd hfree hr⟩
    · rw [Roll.list_put_of_ne heq]
      exact (h.refilled r').mono fun p hp => ⟨hp.1, fun hfree => hp.2 (.tail _ hfree)⟩

lemma Drafted.after (h : Drafted w id free w') (h0 : Drafts w0 w) : Drafted w0 id free w' where
  parts_le := h0.parts_le.trans h.parts_le
  rolls := (h0.trans h.drafts).rolls
  new := ⟨h0.parts_le.trans h.new.1, h.new.2⟩
  sort := h.sort
  refilled r := by
    refine (h0.refilled r).trans (h.refilled r) ?_ ?_ ?_
    · exact fun p hp hp' => (lt_of_mem_rollsOf hp.2).not_ge hp'.1.1
    · refine fun p hp => ⟨⟨hp.1, ?_⟩, fun _ heq => ?_⟩
      · exact (h.rolls p (lt_of_mem_rollsOf hp.2)).symm ▸ hp.2
      · exact (lt_of_mem_rollsOf hp.2).not_ge (heq ▸ h.new.1)
    · exact fun p hp => ⟨⟨h0.parts_le.trans hp.1.1, hp.1.2⟩, hp.2⟩

/-! ## Together with other relations -/

/-- A relation holds, and the registers are kept in order. -/
structure Orderly (R : World → World → Prop) (w w' : World) : Prop where
  holds : R w w'
  drafts : Drafts w w'

instance {R : World → World → Prop} [IsPreorder World R] : IsPreorder World (Orderly R) where
  refl w := ⟨Std.Refl.refl w, .refl w⟩
  trans w w' w'' h h' := ⟨IsTrans.trans w w' w'' h.holds h'.holds, h.drafts.trans h'.drafts⟩

instance {R S : World → World → Prop} [Game.Allows R S] : Game.Allows (Orderly R) S :=
  ⟨fun w w' h => Game.Allows.allows w w' h.holds⟩

instance {R S : World → World → Prop} [Game.Allows R S] : Game.Allows (Orderly R) (Orderly S) :=
  ⟨fun w w' h => ⟨Game.Allows.allows w w' h.holds, h.drafts⟩⟩

instance {R : World → World → Prop} : Game.Allows (Orderly R) Drafts := ⟨fun _ _ h => h.drafts⟩

section Ladder

instance [Game.Allows (Orderly Tame) R] : Game.Allows (Orderly Still) R :=
  ⟨fun w w' h => Game.Allows.allows (R := Orderly Tame) w w' ⟨h.holds.toTame, h.drafts⟩⟩

instance [Game.Allows (Orderly Still) R] : Game.Allows (Orderly Shed) R :=
  ⟨fun w w' h => Game.Allows.allows (R := Orderly Still) w w' ⟨h.holds.toStill, h.drafts⟩⟩

instance [Game.Allows (Orderly Shed) R] : Game.Allows (Orderly Steady) R :=
  ⟨fun w w' h => Game.Allows.allows (R := Orderly Shed) w w' ⟨h.holds.shed, h.drafts⟩⟩

end Ladder

lemma Orderly.of_same (h : (w'.parts, w'.entities, w'.frame, w'.screen, w'.listeners) =
    (w.parts, w.entities, w.frame, w.screen, w.listeners)) : Orderly Steady w w' := by
  simp only [Prod.mk.injEq] at h
  obtain ⟨hps, hents, hframe, hscrn, hlisten⟩ := h
  refine ⟨.of_same (by rw [hps, hents, hframe, hscrn]), .of_same ?_⟩
  obtain ⟨-, -, -, hbods, htrig, huse, -⟩ := frame_eq_iff.1 hframe
  simp only [screen, Prod.mk.injEq] at hscrn
  obtain ⟨hact, hdrawn, hlay⟩ := hscrn
  rw [hps, World.rolls, hact, hdrawn, hlay, hlisten, hbods, htrig, huse,
    World.rolls]

lemma Orderly.modifyOwned {f : Owned → Owned}
    (hessence : ∀ o, w.parts[i]? = some o → (f o).essence = o.essence)
    (hable : ∀ o, w.parts[i]? = some o → o.Able → (f o).Able) :
    Orderly Steady w { w with parts := w.parts.modify i f } :=
  ⟨.modifyOwned hessence hable, .modifyOwned fun o ho =>
    congrArg (fun e : Gist × Option EntityId => e.1.rolls) (hessence o ho)⟩

lemma Orderly.push_part {p : Part} (hplain : p.gist.isPlain = true) (hfit : p.Fit) :
    Orderly Steady w { w with parts := w.parts.push { part := p } } :=
  ⟨.push_part hplain hfit, .push_part w _⟩

end World

namespace Game

open World

variable {g : Game PartId}

/-! ## Making parts -/

variable {α : Type} {rest : List Roll}

lemma Keeps.orderly {g : Game α} (hg : Keeps R w0 ids g)
    (hdr : Obeys Drafts g) : Keeps (Orderly R) w0 ids g := fun w h hnew =>
  ⟨⟨(hg w h.holds hnew).1, h.drafts.trans (hdr w)⟩, (hg w h.holds hnew).2⟩

/-- The step gives a new part that some registers are open to. -/
def Drafting (R : World → World → Prop) (free : List Roll) (g : Game PartId) : Prop :=
  ∀ w, Ends w g (fun id u => R w u ∧ Drafted w id free u) (Orderly R w)

/-- While a part is being made, the step goes on with it and gives it, and some registers are open
to it that were before. -/
def Enlists (R : World → World → Prop) (w0 : World) (id : PartId) (free rest : List Roll)
    (g : Game PartId) : Prop :=
  ∀ w, R w0 w → Drafted w0 id free w →
    Ends w g (fun id' u => id' = id ∧ R w0 u ∧ Drafted w0 id rest u) (Orderly R w0)

lemma Enlists.pure : Enlists R w0 id free free (pure id) :=
  fun _ h hdraft => .pure ⟨rfl, h, hdraft⟩

lemma Drafting.obeys (hg : Drafting R free g) : Obeys (Orderly R) g := fun w =>
  Ends.snd ((hg w).mono (fun _ _ hu => ⟨hu.1, hu.2.drafts⟩) fun _ hu => hu)

lemma Drafting.allow {S : World → World → Prop} [Allows (Orderly R) S]
    (hg : Drafting R free g) : Obeys S g := hg.obeys.allow

lemma Drafting.make {p : Part} (hp : Obeys R (newPart p)) (hrolls : p.rolls = free) :
    Drafting R free (newPart p) := fun w =>
  .of_ok rfl ⟨hp w, hrolls ▸ .make w p⟩

variable [IsPreorder World R]

lemma Enlists.step {g : Game α} {f : α → Game PartId} (hg : Obeys (Orderly R) g)
    (hf : ∀ a, Enlists R w0 id free rest (f a)) : Enlists R w0 id free rest (g >>= f) := by
  intro w h hdraft
  refine .watch hg (fun u hu => ?_) fun a u _ hu => ?_
  · exact ⟨IsTrans.trans w0 w u h hu.holds, hdraft.drafts.trans hu.drafts⟩
  · exact hf a u (IsTrans.trans w0 w u h hu.holds) (hdraft.step hu.drafts)

lemma Enlists.enroll {g : Game Unit} {f : Unit → Game PartId} (hg : Obeys R g)
    (hrun : ∀ w, g.runOn w = (.ok (), r.put w (r.list w ++ [id]))) (hr : r ∉ free)
    (hf : ∀ a, Enlists R w0 id free rest (f a)) : Enlists R w0 id (r :: free) rest (g >>= f) := by
  intro w h hdraft
  refine .step (hrun w) (hf () _ (IsTrans.trans w0 w _ h ?_) (hdraft.enroll hr))
  exact hg.of_run (hrun w)

lemma Drafting.after {g : Game α} {f : α → Game PartId} (hg : Obeys (Orderly R) g)
    (hf : ∀ a, Drafting R free (f a)) : Drafting R free (g >>= f) := by
  intro w
  refine .watch hg (fun _ hu => hu) fun a u _ hu => (hf a u).mono (fun id v hv => ?_) fun v hv => ?_
  · exact ⟨IsTrans.trans w u v hu.holds hv.1, hv.2.after hu.drafts⟩
  · exact IsTrans.trans w u v hu hv

lemma Drafting.afterBoth {g : Game α} {k : α → Game Unit} {f : α → Game PartId}
    (hg : Obeys (Orderly R) (g >>= fun a => k a >>= fun _ => pure a))
    (hf : ∀ a, Drafting R free (f a)) : Drafting R free (g >>= fun a => k a >>= fun _ => f a) := by
  have h := Drafting.after hg hf
  simpa only [bind_assoc, pure_bind] using h

lemma Drafting.bind {f : PartId → Game PartId} (hg : Drafting R free g)
    (hf : ∀ w0 id, Enlists R w0 id free rest (f id)) : Drafting R rest (g >>= f) := by
  refine fun w => (hg w).bind fun id u hu => ?_
  refine (hf w id u hu.1 hu.2).mono (fun id' v hv => ?_) fun _ hv => hv
  obtain ⟨rfl, hv⟩ := hv
  exact hv

lemma drafts_placeParts (ids : List PartId) (x y : Json) : Obeys Drafts (placeParts ids x y) := by
  intro w
  rw [run_placeParts]
  exact .placed w ids x y

lemma obeys_placeNew [Allows (Orderly Steady) R] {f : PartId → EntityId → Game α}
    {x y : Json} (hg : Obeys (Orderly Steady) g) (hfr : Fresh g) (hf : ∀ id e, Obeys R (f id e)) :
    Obeys R (g >>= fun id => placeParts [id] x y >>= f id) :=
  hg.placeNew hfr (fun _ u id hu hloose =>
    ⟨hu.holds.placed hloose x y, hu.drafts.trans (.placed u [id] x y)⟩) hf

end Game

end TileQuest
