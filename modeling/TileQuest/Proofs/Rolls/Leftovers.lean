import TileQuest.Proofs.Rolls.Turns

/-!
# What deleting an entity leaves behind

When an entity is deleted, its parts leave the registers they are in. Some sorts of parts do not
leave the register of those that act in every frame: images, and so the animations among them, text
fields, buttons and the helper of the editor (`Part.lingers`). They are all that is left of the
entity, and if such a part was active it stays so (`World.Filed.mem_deleteEntity_iff`).
-/

namespace TileQuest

variable {o : Owned} {w v : World}

/-- A part of this sort that is active stays so when it is broken down. -/
def Part.lingers : Part → Bool
  | inventoryView _ => false
  | scrollView _ => false
  | combat _ => false
  | player _ => false
  | enemy _ => false
  | _ => true

/-- The same, by what others go by. -/
def Gist.lingers : Gist → Bool
  | view _ => false
  | list => false
  | fighter .. => false
  | player .. => false
  | enemy .. => false
  | _ => true

lemma Part.lingers_gist (p : Part) : p.gist.lingers = p.lingers := by
  cases p with
  | combat c => rw [gist_combat]; rfl
  | _ => rfl

namespace World

variable {w w' w'' : World} {p id : PartId}

def lingers (w : World) (p : PartId) : Bool := (w.parts[p.index]?.map fun o => o.part.lingers).getD false

lemma lingers_of (ho : w.parts[p.index]? = some o) : w.lingers p = o.part.lingers := by
  rw [lingers, ho]
  rfl

lemma lt_of_lingers (h : w.lingers p = true) : p.index < w.parts.size := by
  rcases Nat.lt_or_ge p.index w.parts.size with hlt | hle
  · exact hlt
  · rw [lingers, Array.getElem?_eq_none hle] at h
    cases h

lemma lingers_of_gist (h : w'.gist? p = w.gist? p) : w'.lingers p = w.lingers p := by
  have hg := congrArg (Option.map Gist.lingers) h
  rw [gist?, gist?, Option.map_map, Option.map_map] at hg
  simp only [Function.comp_def, Part.lingers_gist] at hg
  rw [lingers, lingers, hg]

/-! ## What lingers stays active -/

/-- Parts that linger still do, and stay active. -/
structure Lingers (w w' : World) : Prop where
  parts_le : w.parts.size ≤ w'.parts.size
  lingers : ∀ p : PartId, p.index < w.parts.size → w'.lingers p = w.lingers p
  active : ∀ p ∈ w.active, w.lingers p = true → p ∈ w'.active

instance : IsPreorder World Lingers where
  refl _ := ⟨le_rfl, fun _ _ => rfl, fun _ h _ => h⟩
  trans _ _ _ h h' :=
    { parts_le := h.parts_le.trans h'.parts_le
      lingers := fun p hp =>
        (h'.lingers p (hp.trans_le h.parts_le)).trans (h.lingers p hp)
      active := fun p hp hling => h'.active p (h.active p hp hling)
        ((h.lingers p (lt_of_lingers hling)).trans hling) }

instance : Game.Allows Steady Lingers :=
  ⟨fun _ _ h => ⟨h.parts_le, fun _ hp => lingers_of_gist (h.toLasting.gist?_eq hp), fun p hp hling =>
    h.active p hp (lt_of_lingers hling)⟩⟩

/-- Only parts that do not linger are sent away, and parts stay as able as they were. -/
structure Dismisses (w w' : World) : Prop where
  lost : ∀ i : Nat, w'.parts[i]?.map Owned.lost = w.parts[i]?.map Owned.lost
  lingers : ∀ p : PartId, w'.lingers p = w.lingers p
  active : ∀ p ∈ w.active, w.lingers p = true → p ∈ w'.active

lemma Dismisses.trans (h : Dismisses w w') (h' : Dismisses w' w'') : Dismisses w w'' where
  lost i := (h'.lost i).trans (h.lost i)
  lingers p := (h'.lingers p).trans (h.lingers p)
  active p hp hling := h'.active p (h.active p hp hling) ((h.lingers p).trans hling)

instance : IsPreorder World Dismisses where
  refl _ := ⟨fun _ => rfl, fun _ => rfl, fun _ h _ => h⟩
  trans _ _ _ := Dismisses.trans

lemma Dismisses.of_same (h : (w'.parts, w'.active) = (w.parts, w.active)) : Dismisses w w' := by
  obtain ⟨hps, hact⟩ := Prod.mk.inj h
  exact ⟨fun _ => by rw [hps], fun _ => by rw [World.lingers, hps, World.lingers],
    fun _ hp _ => hact.symm ▸ hp⟩

lemma Dismisses.altered {f : Part → Part} (hf : ∀ o, w.parts[id.index]? = some o →
    (f o.part).lingers = o.part.lingers) : Dismisses w (w.altered id f) where
  lost i := map_getElem?_modify (f := fun o : Owned => { o with part := f o.part }) (fun _ _ => rfl) i
  lingers p := congrArg (Option.getD · false)
    (map_getElem?_modify (g := fun o : Owned => o.part.lingers) hf p.index)
  active _ hp _ := hp

lemma Dismisses.deactivated (h : w.lingers id = false) :
    Dismisses w { w with active := w.active.erase id } where
  lost _ := rfl
  lingers _ := rfl
  active p hp hling := (List.mem_erase_of_ne fun heq => by
    rw [heq, h] at hling
    cases hling).2 hp

lemma Dismisses.size_eq (h : Dismisses w w') : w'.parts.size = w.parts.size := by
  have hle {a b : Array Owned} (hab : ∀ i : Nat, a[i]?.map Owned.lost = b[i]?.map Owned.lost) :
      a.size ≤ b.size := by
    refine Nat.le_of_not_lt fun hlt => ?_
    have hlost := hab b.size
    rw [Array.getElem?_eq_none le_rfl, Array.getElem?_eq_getElem hlt] at hlost
    cases hlost
  exact Nat.le_antisymm (hle h.lost) (hle fun i => (h.lost i).symm)

lemma Dismisses.toLingers (h : Dismisses w w') : Lingers w w' :=
  ⟨h.size_eq.symm.le, fun p _ => h.lingers p, h.active⟩

instance : Game.Allows Dismisses Lingers := ⟨fun _ _ => Dismisses.toLingers⟩

def CanBreakDown (w : World) (p : PartId) : Prop :=
  ∀ o, w.parts[p.index]? = some o → Faculty.breakDown ∉ o.lost

lemma CanBreakDown.of_dismisses (hp : w.CanBreakDown p) (h : Dismisses w w') :
    w'.CanBreakDown p := by
  intro o' ho'
  have hlost := h.lost p.index
  rw [ho'] at hlost
  obtain ⟨o, ho, heq⟩ := Option.map_eq_some_iff.1 hlost.symm
  exact heq ▸ hp o ho

def DismissesAt (id : PartId) (w w' : World) : Prop := w.lingers id = false → Dismisses w w'

instance : IsPreorder World (DismissesAt id) where
  refl w _ := Std.Refl.refl w
  trans _ _ _ h h' hid := (h hid).trans (h' (((h hid).lingers id).trans hid))

instance : Game.Allows Dismisses (DismissesAt id) := ⟨fun _ _ h _ => h⟩

end World

namespace Game

open World

/-! ## Breaking down -/

lemma dismisses_same {f : World → World} (hf : ∀ w, ((f w).parts, (f w).active) = (w.parts, w.active)) :
    Obeys Dismisses (modify f) := fun w => .of_same (hf w)

lemma dismisses_note (n : Notice) : Obeys Dismisses (note n) := dismisses_same fun _ => rfl

lemma dismisses_leave (r : Roll) (hr : r ≠ .active) (id : PartId) : Obeys Dismisses (do
    let left ← erase (r.list (← get)) id
    modify fun w => r.put w left) :=
  .bind .get fun _ => .lifts fun left => dismisses_same fun w => by
    rw [show (r.put w left).active = w.active from Roll.list_put_of_ne hr.symm w left, r.parts_put]

lemma dismisses_delist (id : PartId) (isOverlay : Bool) : Obeys Dismisses (delist id isOverlay) :=
  .ite (dismisses_leave .overlay nofun id) (dismisses_leave .drawn nofun id)

lemma dismisses_modifyPart (id : PartId) {f : Part → Part} (hf : ∀ p, (f p).lingers = p.lingers) :
    Obeys Dismisses (modifyPart id f) := fun _ => .altered fun o _ => hf o.part

lemma dismisses_clearView (id : PartId) : Obeys Dismisses (clearView id) :=
  .bind (obeys_requires id _) fun _ => .bind (obeys_bagView id) fun _ =>
    .bind (.forM (fun item => dismisses_delist item true) _) fun _ =>
      dismisses_modifyPart id fun p => by cases p <;> rfl

lemma dismissesAt_deactivate (id : PartId) : Obeys (DismissesAt id) (deactivate id) := by
  intro w hid
  rw [deactivate, run_get_bind]
  rcases h : erase w.active id with fault | left
  · exact Std.Refl.refl w
  · unfold erase at h
    split at h
    · cases h
      exact .deactivated hid
    · cases h

lemma dismisses_breakDownPlain (id : PartId) : Obeys Dismisses (breakDownPlain id) := by
  refine .bind_part fun w o ho => ?_
  have hid := lingers_of ho
  cases hp : o.part with
  | sprite s => exact dismisses_delist id _ w
  | inputBox => exact .of_same rfl
  | label | bar => exact dismisses_delist id true w
  | textField =>
    exact Obeys.bind (dismisses_leave .listeners nofun id) (fun _ => dismisses_delist id true) w
  | inventoryView =>
    rw [hp] at hid
    exact Obeys.bind (dismissesAt_deactivate id) (fun _ => (dismisses_clearView id).allow) w hid
  | scrollView s =>
    rw [hp] at hid
    have hset (s' : ScrollView) : Obeys (DismissesAt id) (setPart id (.scrollView s')) :=
      fun u hu => .altered (f := fun _ => .scrollView s') fun o' ho' =>
        ((lingers_of ho').symm.trans hu).symm
    exact Obeys.bind (obeys_requires id _) (fun _ => .bind (hset _) fun _ =>
      .bind (obeys_requires id _) fun _ => .bind (hset _) fun _ => .bind (dismissesAt_deactivate id)
      fun _ => (dismisses_delist id true).allow) w hid
  | body => exact dismisses_leave .bodies nofun id w
  | trigger => exact dismisses_leave .triggers nofun id w
  | usable => exact dismisses_leave .usables nofun id w
  | combat =>
    rw [hp] at hid
    have hunarm (f : Combat → Combat) : Obeys Dismisses (modifyCombat id f) :=
      dismisses_modifyPart id fun p => by cases p <;> rfl
    exact Obeys.bind (dismissesAt_deactivate id) (fun _ => (hunarm _).allow) w hid
  | enemy =>
    rw [hp] at hid
    exact dismissesAt_deactivate id w hid
  | placeholder =>
    refine Obeys.bind (obeys_place id) (fun _ => .lifts fun key? => ?_) w
    cases key? with
    | none => exact .pure _
    | some key => exact dismisses_same fun _ => rfl
  | probe => exact Obeys.ite (dismisses_note _) (.pure _) w
  | _ => exact Std.Refl.refl w

lemma dismisses_leaveArea (e : EntityId) : Obeys Dismisses (leaveArea e) :=
  .bind obeys_currentArea fun _ => dismisses_same fun _ => rfl

lemma dismisses_clearEntity {breakDown : PartId → Game Unit}
    (h : ∀ id, Obeys Dismisses (breakDown id)) (e : EntityId) :
    Obeys Dismisses (clearEntity breakDown e) :=
  .bind (obeys_entity e) fun _ => .bind (.forM h _) fun _ => dismisses_same fun _ => rfl

lemma dismisses_deletePlain (e : EntityId) : Obeys Dismisses (deletePlain e) :=
  .bind (dismisses_leaveArea e) fun _ => dismisses_clearEntity dismisses_breakDownPlain e

lemma dismisses_breakDown (id : PartId) : Obeys Dismisses (breakDown id) := by
  refine .bind (obeys_hasLost id _) fun _ => .ite (.bind_part fun w o ho => ?_) (.pure _)
  cases hp : o.part with
  | player p =>
    have hid : w.lingers id = false := by rw [lingers_of ho, hp]; rfl
    have hdel (e : EntityId) : Obeys (DismissesAt id) (deletePlain e) :=
      (dismisses_deletePlain e).allow
    exact Obeys.bind (.orAbsent _) (fun _ => .bind (obeys_owner _) fun _ => .bind (hdel _) fun _ =>
      .bind (obeys_owner _) fun _ => .bind (hdel _) fun _ => .bind (hdel _) fun _ =>
      .bind (.orAbsent _) fun _ => .bind (obeys_owner _) fun _ => .bind (hdel _) fun _ =>
      .bind (dismissesAt_deactivate id) fun _ => (dismisses_note _).allow) w hid
  | _ => exact dismisses_breakDownPlain id w

lemma dismisses_deleteEntity (e : EntityId) : Obeys Dismisses (deleteEntity e) :=
  .bind (dismisses_leaveArea e) fun _ => dismisses_clearEntity dismisses_breakDown e

/-! ## Leaving registers -/

/-- As long as a part may stand in some registers and no others, the registers are kept in order. -/
def DraftsAt (id : PartId) (rolls : List Roll) (w w' : World) : Prop :=
  w.rollsOf id = rolls → Drafts w w'

instance {id : PartId} {rolls : List Roll} : Allows Drafts (DraftsAt id rolls) := ⟨fun _ _ h _ => h⟩

/-- When the step completes, a part that may stand in some registers is not in one of them any
more. -/
def Expels {α : Type} (rolls : List Roll) (r : Roll) (id : PartId) (g : Game α) : Prop :=
  ∀ w a v, w.Filed → id.index < w.parts.size → w.rollsOf id = rolls → g.runOn w = (.ok a, v) →
    id ∉ r.list v

section Expels

variable {α β : Type} {rolls : List Roll} {r : Roll} {id : PartId}

lemma Expels.leave : Expels rolls r id (do
    let left ← erase (r.list (← get)) id
    modify fun w => r.put w left) := by
  intro w _ v hw _ _ hrun
  rw [run_get_bind] at hrun
  rcases h : erase (r.list w) id with fault | left
  · rw [h] at hrun
    cases hrun
  · rw [h] at hrun
    cases hrun
    unfold erase at h
    split at h
    · cases h
      rw [r.list_put]
      exact (hw.nodup r).not_mem_erase
    · cases h

lemma Expels.before {g : Game α} {f : α → Game β} (hg : Expels rolls r id g)
    (hf : ∀ a, Obeys Drafts (f a)) (hg' : Obeys Drafts g) : Expels rolls r id (g >>= f) := by
  intro w b v hw hid hrolls hrun hmem
  obtain ⟨a, u, hrun', hrest⟩ := run_bind_eq_ok.1 hrun
  refine hg w a u hw hid hrolls hrun' (((hf a).of_run hrest).mem_of_mem ?_ hmem)
  exact hid.trans_le (hg'.of_run hrun').parts_le

lemma Expels.after {g : Game α} {f : α → Game β} (hg : Obeys (DraftsAt id rolls) g)
    (hf : ∀ a, Expels rolls r id (f a)) : Expels rolls r id (g >>= f) := by
  intro w b v hw hid hrolls hrun
  obtain ⟨a, u, hrun', hrest⟩ := run_bind_eq_ok.1 hrun
  have hdr : Drafts w u := hg.of_run hrun' hrolls
  exact hf a u b v (hw.of_drafts hdr) (hid.trans_le hdr.parts_le)
    ((hdr.rolls id hid).trans hrolls) hrest

lemma expels_deactivate : Expels rolls .active id (deactivate id) := .leave

lemma expels_delist (isOverlay : Bool) :
    Expels rolls (if isOverlay then .overlay else .drawn) id (delist id isOverlay) := by
  cases isOverlay <;> exact .leave

lemma expels_breakDownList (s : ScrollView) {r : Roll} (hr : r ∈ [Roll.active, .overlay]) :
    Expels [.active, .overlay] r id (do
      requires id .children
      setPart id (.scrollView { s with children := [] })
      requires id .content
      setPart id (.scrollView { s with children := [], drawn := [] })
      deactivate id
      delist id true) := by
  have hset (s' : ScrollView) : Obeys (DraftsAt id [.active, .overlay]) (setPart id (.scrollView s')) :=
    fun _ hrolls => drafts_setPart hrolls
  have hlast : Expels [.active, .overlay] r id (do deactivate id; delist id true) := by
    rcases List.mem_cons.1 hr with rfl | hr
    · exact expels_deactivate.before (fun _ => obeys_delist id true) (obeys_deactivate id)
    · cases List.mem_singleton.1 hr
      exact .after (obeys_deactivate (R := Drafts) id).allow fun _ => expels_delist true
  exact .after (obeys_requires (R := Drafts) id _).allow fun _ => .after (hset _) fun _ =>
    .after (obeys_requires (R := Drafts) id _).allow fun _ => .after (hset _) fun _ => hlast

lemma notMem_of_breakDownPlain (hw : w.Filed)
    (ho : w.parts[id.index]? = some o) (hpl : o.part.isPlayer = false) (hr : r ∈ o.part.rolls)
    (hgo : r = .active → o.part.lingers = false)
    (hrun : (breakDownPlain id).runOn w = (.ok (), v)) : id ∉ r.list v := by
  have hid : id.index < w.parts.size := lt_of_getElem? ho
  have hexp {r : Roll} {g : Game Unit} (hg : Expels o.part.rolls r id g)
      (hrun : g.runOn w = (.ok (), v)) : id ∉ r.list v := hg w () v hw hid (rollsOf_of ho) hrun
  have hone {r0 : Roll} {g : Game Unit} (hr : r ∈ [r0]) (hg : Expels o.part.rolls r0 id g)
      (hrun : g.runOn w = (.ok (), v)) : id ∉ r.list v := by
    cases List.mem_singleton.1 hr
    exact hexp hg hrun
  rw [breakDownPlain, bind_ok (run_part ho)] at hrun
  cases hp : o.part with
  | sprite s =>
    rw [hp] at hrun hr hgo
    rcases List.mem_cons.1 hr with rfl | hr
    · exact hexp (expels_delist s.isOverlay) hrun
    · exact absurd (hgo (List.mem_singleton.1 hr)) (by rintro ⟨⟩)
  | inputBox =>
    rw [hp] at hrun hr
    cases List.mem_singleton.1 hr
    cases hrun
    exact (hw.nodup .overlay).not_mem_erase
  | label | bar =>
    rw [hp] at hrun hr
    exact hone hr (expels_delist true) hrun
  | textField =>
    rw [hp] at hrun hr hgo
    have hlisten : Obeys Drafts (delistListener id) := obeys_delistListener id
    rcases List.mem_cons.1 hr with rfl | hr
    · exact hexp (.after hlisten.allow fun _ => expels_delist true) hrun
    rcases List.mem_cons.1 hr with rfl | hr
    · exact hexp (Expels.leave.before (fun _ => obeys_delist id true) hlisten) hrun
    · exact absurd (hgo (List.mem_singleton.1 hr)) (by rintro ⟨⟩)
  | inventoryView =>
    rw [hp] at hrun hr
    exact hone hr (expels_deactivate.before (fun _ => obeys_clearView id) (obeys_deactivate id)) hrun
  | scrollView s =>
    rw [hp] at hrun hr
    have hrolls : w.rollsOf id = [.active, .overlay] := by rw [rollsOf_of ho, hp]; rfl
    exact expels_breakDownList s hr w () v hw hid hrolls hrun
  | body | trigger | usable =>
    rw [hp] at hrun hr
    exact hone hr .leave hrun
  | combat c =>
    rw [hp] at hrun hr
    rw [Part.rolls_combat] at hr
    exact hone hr (expels_deactivate.before (fun _ => obeys_modifyCombat id _) (obeys_deactivate id))
      hrun
  | enemy =>
    rw [hp] at hrun hr
    exact hone hr expels_deactivate hrun
  | player => rw [hp] at hpl; cases hpl
  | _ =>
    rw [hp] at hr hgo
    first
    | exact absurd (hgo (List.mem_singleton.1 hr)) (by rintro ⟨⟩)
    | exact absurd hr List.not_mem_nil

lemma notMem_of_breakDown (hw : w.Filed)
    (ho : w.parts[id.index]? = some o) (hable : Faculty.breakDown ∉ o.lost)
    (hr : r ∈ o.part.rolls) (hgo : r = .active → o.part.lingers = false)
    (hrun : (breakDown id).runOn w = (.ok (), v)) : id ∉ r.list v := by
  have hfully : (breakDownFully id).runOn w = (.ok (), v) := by
    have hlost : (hasLost id .breakDown).runOn w = (.ok false, w) := by
      rw [hasLost, bind_ok (run_owned ho), run_pure, List.contains_eq_mem, decide_eq_false hable]
    rw [breakDown, bind_ok hlost] at hrun
    exact hrun
  cases hpl : o.part.isPlayer with
  | true =>
    cases hp : o.part with
    | player p =>
      have hid : id.index < w.parts.size := lt_of_getElem? ho
      rw [breakDownFully, bind_ok (run_part ho), hp] at hfully
      rw [hp] at hr
      cases List.mem_singleton.1 hr
      have hdel (e : EntityId) : Obeys (DraftsAt id [.active]) (deletePlain e) :=
        (obeys_deletePlain (R := Drafts) e).allow
      have hown (p : PartId) : Obeys (DraftsAt id [.active]) (owner p) :=
        (obeys_owner (R := Drafts) p).allow
      have hth {α : Type} (a? : Option α) : Obeys (DraftsAt id [.active]) (orAbsent a?) :=
        (Obeys.orAbsent (R := Drafts) a?).allow
      have hexp : Expels [.active] .active id (do
          let hud ← orAbsent p.hud?
          deletePlain (← owner hud.place)
          deletePlain (← owner hud.message)
          deletePlain hud.window
          deletePlain (← owner (← orAbsent p.bar?))
          deactivate id
          print "Called breakdown") :=
        .after (hth _) fun _ => .after (hown _) fun _ => .after (hdel _) fun _ =>
          .after (hown _) fun _ => .after (hdel _) fun _ => .after (hdel _) fun _ =>
          .after (hth _) fun _ => .after (hown _) fun _ => .after (hdel _) fun _ =>
          expels_deactivate.before (fun _ => obeys_print _) (obeys_deactivate id)
      exact hexp w () v hw hid (by rw [rollsOf_of ho, hp]; rfl) hfully
    | _ => rw [hp] at hpl; cases hpl
  | false =>
    have hplain : (breakDownPlain id).runOn w = (.ok (), v) := by
      rw [breakDownFully, bind_ok (run_part ho)] at hfully
      cases hp : o.part with
      | player => rw [hp] at hpl; cases hpl
      | _ =>
        rw [hp] at hfully
        exact hfully
    exact notMem_of_breakDownPlain hw ho hpl hr hgo hplain

lemma notMem_of_breakDownAll {ids : List PartId} (hw : w.Filed) (hmem : id ∈ ids)
    (hable : w.CanBreakDown id) (hr : r ∈ w.rollsOf id) (hgo : r = .active → w.lingers id = false)
    (hrun : (ids.forM breakDown).runOn w = (.ok (), v)) : id ∉ r.list v := by
  induction ids generalizing w with
  | nil => cases hmem
  | cons next ids ih =>
    obtain ⟨_, u, hnext, hrest⟩ := run_bind_eq_ok.1 hrun
    have hid : id.index < w.parts.size := lt_of_mem_rollsOf hr
    have hdr : Drafts w u := (obeys_breakDown next).of_run hnext
    have hdism : Dismisses w u := (dismisses_breakDown next).of_run hnext
    by_cases heq : id = next
    · subst heq
      obtain ⟨o, ho⟩ : ∃ o, w.parts[id.index]? = some o := ⟨_, Array.getElem?_eq_getElem hid⟩
      rw [rollsOf_of ho] at hr
      rw [lingers_of ho] at hgo
      have hgone := notMem_of_breakDown hw ho (hable o ho) hr hgo hnext
      have hdr' : Drafts u v := (Obeys.forM obeys_breakDown ids).of_run hrest
      exact fun hv => hgone (hdr'.mem_of_mem (hid.trans_le hdr.parts_le) hv)
    · refine ih (hw.of_drafts hdr) ((List.mem_cons.1 hmem).resolve_left heq)
        (hable.of_dismisses hdism) ?_ ?_ hrest
      · rwa [hdr.rolls id hid]
      · rwa [hdism.lingers id]

end Expels

end Game

namespace World

open Game

lemma Filed.mem_deleteEntity_iff (hw : w.Filed) {e : EntityId}
    (hrun : (deleteEntity e).runOn w = (.ok (), v)) {p : PartId} (hp : p ∈ w.partsOf e)
    (hable : w.CanBreakDown p) (r : Roll) :
    p ∈ r.list v ↔ p ∈ r.list w ∧ r = .active ∧ w.lingers p = true := by
  have hdr : Drafts w v := (obeys_deleteEntity e).of_run hrun
  have hdism : Dismisses w v := (dismisses_deleteEntity e).of_run hrun
  constructor
  · intro hv
    have hr := (hw.of_drafts hdr).sort r p hv
    have hold : p.index < w.parts.size := hdism.size_eq ▸ lt_of_mem_rollsOf hr
    rw [hdr.rolls p hold] at hr
    suffices hstay : r = .active ∧ w.lingers p = true from ⟨hdr.mem_of_mem hold hv, hstay⟩
    by_contra hstay
    have hgo : r = .active → w.lingers p = false := fun heq =>
      Bool.eq_false_iff.2 fun hling => hstay ⟨heq, hling⟩
    -- the part is broken down after the entity left the area
    obtain ⟨_, u, hleave, hclear⟩ := run_bind_eq_ok.1 hrun
    have hleft : Drafts w u := (obeys_leaveArea e).of_run hleave
    have hleft' : Dismisses w u := (dismisses_leaveArea e).of_run hleave
    obtain ⟨a, -, hleave⟩ := obeys_currentArea.seen hleave
    have hents : u.entities = w.entities := by cases hleave; rfl
    obtain ⟨en, hen, hclear⟩ := (obeys_entity e).seen hclear
    have hps : w.partsOf e = en.parts := by
      rw [partsOf, ← hents, (run_entity_eq_ok.1 hen).1]
      rfl
    obtain ⟨_, x, hall, hbare⟩ := run_bind_eq_ok.1 hclear
    have hgone : p ∉ r.list x := by
      refine notMem_of_breakDownAll (hw.of_drafts hleft) (hps ▸ hp) (hable.of_dismisses hleft') ?_ ?_
        hall
      · rwa [hleft.rolls p hold]
      · rwa [hleft'.lingers p]
    cases hbare
    exact hgone (by cases r <;> exact hv)
  · rintro ⟨hmem, rfl, hling⟩
    exact hdism.active p hmem hling

end World

end TileQuest
