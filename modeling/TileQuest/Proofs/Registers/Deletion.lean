import TileQuest.Proofs.Registers.Teardown

/-!
# Deleting entities

An entity that is deleted leaves the area first, and then its parts are broken down. Every part of
an entity in the area is ready for that, so the deletion completes, except that what stands for an
entity in the editor has no key once it was moved to where no place has one. Whether or not it
completes, the registers hold what is in the area afterwards (`World.AtRest`).
-/

namespace TileQuest

variable {rule : Rule} {ids pre post : List PartId} {w : World} {a : AreaId} {e : EntityId}
variable {p : PartId}

namespace World

variable {w' w'' : World} {g : Gist} {r : Register}

/-! ## Nothing is half made or half taken down -/

/-- The registers hold what is in the area, and everything there can be broken down. -/
structure AtRest (rule : Rule) (w : World) : Prop extends Sound rule w.live w where
  here : ∀ e ∈ w.present, e.index < w.entities.size
  area : ∀ a, w.area? = some a → a.index < w.areas.size

lemma AtRest.of_shrinks (h : w.AtRest rule) (hshr : Shrinks w w')
    (hsound : w'.Sound rule w'.live) : w'.AtRest rule :=
  { toSound := hsound
    here := fun e he => by
      rw [hshr.entities]
      exact h.here e (hshr.present.subset he)
    area := fun a ha => by
      rw [hshr.areas]
      exact h.area a (hshr.area ▸ ha) }

/-- The areas and the entities that were there stay as they were, and so do the parts that stay what
they are. -/
structure Stays (w w' : World) : Prop where
  areas : w'.areas = w.areas
  area : w'.area? = w.area?
  tools : w'.tools = w.tools
  parts_le : w.parts.size ≤ w'.parts.size
  entities_le : w.entities.size ≤ w'.entities.size
  parts : ∀ e : EntityId, e.index < w.entities.size → w'.partsOf e = w.partsOf e
  settled : ∀ p g, g.isSettled = true → w.gist? p = some g → w'.gist? p = some g

lemma Stays.refl (w : World) : Stays w w where
  areas := rfl
  area := rfl
  tools := rfl
  parts_le := le_rfl
  entities_le := le_rfl
  parts _ _ := rfl
  settled _ _ _ hg := hg

lemma Stays.trans (h : Stays w w') (h' : Stays w' w'') : Stays w w'' where
  areas := h'.areas.trans h.areas
  area := h'.area.trans h.area
  tools := h'.tools.trans h.tools
  parts_le := h.parts_le.trans h'.parts_le
  entities_le := h.entities_le.trans h'.entities_le
  parts e he := (h'.parts e (he.trans_le h.entities_le)).trans (h.parts e he)
  settled p g hsett hg := h'.settled p g hsett (h.settled p g hsett hg)

lemma Steady.stays (h : Steady w w') : Stays w w' := by
  obtain ⟨has, harea, -⟩ := frame_eq_iff.1 h.frame
  exact
    { areas := has
      area := harea
      tools := h.tools_eq
      parts_le := h.parts_le
      entities_le := h.entities_le
      parts := fun _ he => h.partsOf_eq he
      settled := fun _ _ _ hg => h.gist?_some hg }

lemma Stays.of_same (h : (w'.areas, w'.area?, w'.tools, w'.entities, w'.parts) =
    (w.areas, w.area?, w.tools, w.entities, w.parts)) : Stays w w' := by
  simp only [Prod.mk.injEq] at h
  obtain ⟨has, harea, htools, hents, hps⟩ := h
  exact
    { areas := has
      area := harea
      tools := htools
      parts_le := Nat.le_of_eq (by rw [hps])
      entities_le := Nat.le_of_eq (by rw [hents])
      parts := fun e _ => by rw [partsOf, hents, partsOf]
      settled := fun p _ _ hg => (gist?_of_parts hps p).trans hg }

lemma Stays.altered {k : PartId} {f : Part → Part}
    (hk : ∀ g, w.gist? k = some g → g.isSettled = false) : Stays w (w.altered k f) where
  areas := rfl
  area := rfl
  tools := rfl
  parts_le := by simp [World.altered]
  entities_le := le_rfl
  parts _ _ := rfl
  settled p g hsett hg := by
    refine (gist?_altered_of_ne (fun heq => ?_) f).trans hg
    rw [hk g (heq ▸ hg)] at hsett
    cases hsett

lemma Stays.present_eq (h : Stays w w') : w'.present = w.present := by
  rw [present, h.areas, h.area, present]

section

variable (h : w.AtRest rule)
include h

lemma AtRest.live_eq (hstays : Stays w w') : w'.live = w.live := by
  rw [live, hstays.present_eq, live]
  exact List.flatMap_congr fun e he => hstays.parts e (h.here e he)

lemma AtRest.of_stays (hsound : w'.Sound rule w.live) (hstays : Stays w w') : w'.AtRest rule :=
  { toSound := h.live_eq hstays ▸ hsound
    here := fun e he =>
      (h.here e (hstays.present_eq ▸ he)).trans_le hstays.entities_le
    area := fun a ha => by
      rw [hstays.areas]
      exact h.area a (hstays.area ▸ ha) }

lemma AtRest.of_steady (hst : Steady w w') : w'.AtRest rule :=
  h.of_stays (h.toSound.of_steady hst) hst.stays

lemma AtRest.exists_area (ha : w.area? = some a) :
    ∃ area, w.areas[a.index]? = some area ∧ w.present = area.entities := by
  refine ⟨_, Array.getElem?_eq_getElem (h.area a ha), ?_⟩
  rw [present, ha, Option.bind_some, Array.getElem?_eq_getElem (h.area a ha)]
  rfl

lemma AtRest.of_empty (hemp : w.present = [])
    (hsame : (w'.parts, w'.entities, w'.areas, w'.area?, w'.tools, w'.taken) =
      (w.parts, w.entities, w.areas, w.area?, w.tools, w.taken))
    (hregs : ∀ r : Register, r.list w' = []) : w'.AtRest rule := by
  simp only [Prod.mk.injEq] at hsame
  obtain ⟨hps, hents, has, harea, htools, htaken⟩ := hsame
  have hemp' : w'.present = [] := by rw [present, has, harea, ← present, hemp]
  have hlive : w.live = [] := by rw [live, hemp, List.flatMap_nil]
  have hlive' : w'.live = [] := by rw [live, hemp', List.flatMap_nil]
  refine { h.toTied.of_same (by rw [hps, hents, htools]) with
    nodup := hlive' ▸ List.nodup_nil
    ready := by rw [hlive']; simp
    registered := fun r => by rw [hregs r, hlive', List.filter_nil]
    seated := by rw [hlive']; simp
    ruled := ?_
    past := ⟨fun e he => ?_, fun p e hp => ?_⟩
    here := by rw [hemp']; simp
    area := fun a ha => by
      rw [has]
      exact h.area a (harea ▸ ha) }
  · have hruled := h.ruled
    rw [hlive, seating_nil] at hruled
    rwa [hlive', seating_nil, htaken]
  · rw [IsBare, hents, partsOf, hents]
    exact h.past.gone e he
  · rw [Hunts, ownerOf?_of_parts hps, gist?_of_parts hps]
    exact h.past.hunts p e hp

end

lemma exists_live_eq (ha : w.area? = some a) (he : e ∈ w.present) :
    ∃ pre post, w.live = pre ++ (w.partsOf e ++ post) ∧ (w.departed a e).live = pre ++ post := by
  obtain ⟨es, es', hpres, hnot⟩ := List.eq_append_cons_of_mem he
  refine ⟨es.flatMap w.partsOf, es'.flatMap w.partsOf, ?_, ?_⟩
  · rw [live, hpres, List.flatMap_append, List.flatMap_cons]
  · change (w.departed a e).present.flatMap w.partsOf = _
    rw [present_departed ha, hpres, List.erase_append_right _ hnot, List.erase_cons_head,
      List.flatMap_append]

lemma Fades.mem_present (h : Fades w w') (htied : w.Tied) (he : e ∈ w.present) :
    e ∈ w'.present ∨ w'.partsOf e = [] := by
  rcases hps : w.partsOf e with _ | ⟨p, ps⟩
  · exact .inr ((h.parts e).elim (fun hsame => hsame.trans hps) id)
  · have hp : p ∈ w.partsOf e := hps ▸ List.mem_cons_self
    have hmem : p ∈ w'.live := h.live ▸ mem_live.2 ⟨e, he, hp⟩
    obtain ⟨e', he', hp'⟩ := mem_live.1 hmem
    have hsame : w'.partsOf e' = w.partsOf e' := (h.parts e').resolve_right fun hnil => by
      rw [hnil] at hp'
      cases hp'
    exact .inl (htied.eq_of_mem_partsOf hp (hsame ▸ hp') ▸ he')

lemma Sound.drop (h : w.Sound rule (pre ++ (ids ++ post))) (htiled : ¬ rule.tiled)
    (hids : ∀ p ∈ ids, ∃ g, w.gist? p = some g ∧ g.register? = none) :
    w.Sound rule (pre ++ post) := by
  induction ids with
  | nil => exact h
  | cons p ids ih =>
    obtain ⟨g, hg, hreg⟩ := hids p (.head _)
    refine ih (h.leave hg (fun ht => absurd ht htiled) rfl fun r => ?_) fun q hq =>
      hids q (.tail _ hq)
    rw [hreg, if_neg nofun]

lemma Sound.unregister (h : w.Sound rule (pre ++ p :: post))
    (hg : w.gist? p = some g) (hr : g.register? = some r) :
    (r.put w ((r.list w).erase p)).Sound rule (pre ++ post) := by
  have hoth : g ≠ .placeholder := by
    rintro rfl
    cases hr
  refine h.leave hg (fun _ => hoth) (by cases r <;> rfl) fun r' => ?_
  rw [Register.list_put, hr]
  by_cases heq : r = r'
  · subst heq
    rw [if_pos rfl, if_pos rfl]
  · rw [if_neg heq, if_neg fun h => heq (Option.some.inj h)]

lemma Sound.mem_register (h : w.Sound rule ids) (hp : p ∈ ids)
    (hg : w.gist? p = some g) (hr : g.register? = some r) : p ∈ r.list w := by
  rw [h.registered r]
  exact List.mem_filter.2 ⟨hp, (partIs_of_gist hg r).trans (decide_eq_true hr)⟩

end World

namespace Game

open World

variable {o : Owned}

/-! ## Breaking a part down -/

/-- The part without the sprite of its weapon, if it is the ability to fight. -/
def disarmed : Part → Part
  | .combat c => .combat { c with weapon? := none }
  | p => p

lemma gist_disarmed (p : Part) : (disarmed p).gist = p.gist := by cases p <;> rfl

lemma run_breakDown (ho : w.parts[p.index]? = some o)
    (hlost : o.lost = []) : (breakDown p).runOn w = (breakDownFully p).runOn w := by
  rw [breakDown, hasLost, bind_assoc, bind_ok (run_owned ho), hlost]
  rfl

lemma run_breakDownFully (ho : w.parts[p.index]? = some o) (hpl : o.part.isPlayer = false) :
    (breakDownFully p).runOn w = (breakDownPlain p).runOn w := by
  rw [breakDownFully, bind_ok (run_part ho)]
  cases hp : o.part with
  | player => rw [hp] at hpl; cases hpl
  | _ => rfl

lemma placeKey?_tile (column row : Int) :
    placeKey? (.num (.int (column * 32))) (.num (.int (row * 32))) =
      .ok (some (tileKey (column, row))) := rfl

section

variable (h : w.Sound rule (pre ++ p :: post))
include h

lemma ends_breakDown_placeholder {ph : Placeholder} (ho : w.parts[p.index]? = some o)
    (hp : o.part = .placeholder ph) :
    Ends w (breakDownPlain p) (fun _ w' => w'.Sound rule (pre ++ post) ∧ Fades w w')
      (fun w' => ¬ rule.tiled ∧ w' = w) := by
  have hg : w.gist? p = some .placeholder := gist?_eq_some.2 ⟨o, ho, by rw [hp]; rfl⟩
  have hmem : p ∈ pre ++ p :: post := mem_middle.2 (.inl rfl)
  obtain ⟨g, hg', hrdy⟩ := h.ready p hmem
  cases hg.symm.trans hg'
  obtain ⟨e, hown, he, -⟩ := hrdy
  have hplace : (place p).runOn w = (.ok (w.entities[e.index].x, w.entities[e.index].y), w) := by
    rw [place, bind_ok (run_owner_eq_ok.2 ⟨hown, rfl⟩), entityPlace,
      bind_ok (run_entity (Array.getElem?_eq_getElem he))]
    rfl
  -- where the places matter, this one is a tile
  have hkey : rule.tiled → ∀ tile, w.Seated p tile →
      placeKey? w.entities[e.index].x w.entities[e.index].y = .ok (some (tileKey tile)) := by
    rintro - tile ⟨e', en, hown', hen, hx, hy⟩
    cases hown.symm.trans hown'
    rw [Array.getElem?_eq_getElem he] at hen
    cases hen
    rw [hx, hy]
    exact placeKey?_tile tile.1 tile.2
  have hsome (htiled : rule.tiled) : ∃ key, placeKey? w.entities[e.index].x w.entities[e.index].y =
      .ok (some key) := by
    obtain ⟨tile, hseat⟩ := h.seated htiled p hmem hg
    exact ⟨_, hkey htiled tile hseat⟩
  rw [breakDownPlain]
  refine .step (run_part ho) ?_
  rw [hp]
  refine .step hplace (.lift (fun fault hf => ⟨fun htiled => ?_, rfl⟩) fun key? hres => ?_)
  · obtain ⟨key, hkey⟩ := hsome htiled
    cases hf.symm.trans hkey
  cases key? with
  | none =>
    refine .of_ok rfl ⟨h.leave hg (fun htiled => ?_) rfl fun r => rfl, .refl w⟩
    obtain ⟨key, hkey⟩ := hsome htiled
    cases hres.symm.trans hkey
  | some key =>
    refine .of_ok rfl ⟨h.unseat hg fun htiled tile hseat => ?_, .of_parts rfl⟩
    rw [hkey htiled tile hseat] at hres
    exact Option.some.inj (Except.ok.inj hres)

lemma ends_breakDown_plain {E : World → Prop} (ho : w.parts[p.index]? = some o)
    (hpl : o.part.isPlayer = false) (hhold : o.part.isPlaceholder = false) :
    Ends w (breakDownPlain p) (fun _ w' => w'.Sound rule (pre ++ post) ∧ Fades w w') E := by
  have hmem : p ∈ pre ++ p :: post := mem_middle.2 (.inl rfl)
  have hnot : p ∉ pre ++ post := h.notMem_of_middle
  obtain ⟨g, hg, hrdy⟩ := h.ready p hmem
  have hgist : o.part.gist = g := by
    rw [gist?, ho] at hg
    exact Option.some.inj hg
  -- what is in no register leaves the list before anything happens
  have hleave (hoth : g ≠ .placeholder) (hreg : g.register? = none) :
      w.Sound rule (pre ++ post) :=
    h.leave hg (fun _ => hoth) rfl fun r => by rw [hreg, if_neg (by simp)]
  have hstop (hsound : w.Sound rule (pre ++ post)) (hv : ∀ items, g ≠ .view items) :
      Sound rule (pre ++ post) { w with active := w.active.erase p } :=
    hsound.erase_active (hsound.not_relies hg hnot hv)
  subst hgist
  rw [breakDownPlain]
  refine .step (run_part ho) ?_
  cases hp : o.part with
  | sprite s =>
    rw [hp] at hrdy hleave
    obtain ⟨hover, hdrawn⟩ := hrdy
    change Ends w (delist p s.isOverlay) _ _
    rw [hover]
    exact .of_ok (run_delist_drawn hdrawn) ⟨(hleave (by rintro ⟨⟩) rfl).erase_drawn hnot, .of_parts rfl⟩
  | body hitbox =>
    rw [hp] at hg
    exact .of_ok (run_erase (h.mem_register hmem hg rfl)) ⟨h.unregister hg rfl, .of_parts rfl⟩
  | trigger hitbox form =>
    rw [hp] at hg
    exact .of_ok (run_erase (h.mem_register hmem hg rfl)) ⟨h.unregister hg rfl, .of_parts rfl⟩
  | usable u =>
    rw [hp] at hg
    exact .of_ok (run_erase (h.mem_register hmem hg rfl)) ⟨h.unregister hg rfl, .of_parts rfl⟩
  | combat c =>
    have hrdy : p ∈ w.active := by
      rw [hp, Part.gist_combat] at hrdy
      exact hrdy
    let stopped : World := { w with active := w.active.erase p }
    have hstopped : stopped.Sound rule (pre ++ post) := by
      rw [hp, Part.gist_combat] at hleave hstop
      exact hstop (hleave (by simp) rfl) (by simp)
    have hlast : Obeys Steady (modifyPart p disarmed) :=
      obeys_modifyPart_of_gist p fun q => ⟨gist_disarmed q, fun h => by cases q <;> exact h⟩
    have hfades : Fades w stopped := .of_parts rfl
    exact .step (run_deactivate hrdy) (.of_ok (u := stopped.altered p disarmed) rfl
      ⟨hstopped.of_steady (hlast stopped), hfades.trans (.altered fun o _ => gist_disarmed o.part)⟩)
  | enemy e =>
    rw [hp] at hrdy hleave hstop
    exact .of_ok (run_deactivate hrdy.1)
      ⟨hstop (hleave (by rintro ⟨⟩) rfl) (by rintro _ ⟨⟩), .of_parts rfl⟩
  | player => rw [hp] at hpl; cases hpl
  | placeholder => rw [hp] at hhold; cases hhold
  | _ =>
    rw [hp] at hrdy
    exact hrdy.elim

lemma ends_breakDown (ha : w.area? = some a) (hlive : ∀ q ∈ w.live, q ∈ pre ++ post) :
    Ends w (breakDown p) (fun _ w' => w'.Sound rule (pre ++ post) ∧ Fades w w')
      (fun w' => ¬ rule.tiled ∧ w' = w ∧ w.gist? p = some .placeholder) := by
  have hmem : p ∈ pre ++ p :: post := mem_middle.2 (.inl rfl)
  have hnot : p ∉ pre ++ post := h.notMem_of_middle
  obtain ⟨g, hg, hrdy⟩ := h.ready p hmem
  obtain ⟨o, ho, hgist⟩ := gist?_eq_some.1 hg
  refine .of_run_eq (run_breakDown ho (h.able _ o ho).lost) ?_
  -- the part leaves the list first, where it is in no register
  have hleave (hoth : g ≠ .placeholder) (hreg : g.register? = none) :
      w.Sound rule (pre ++ post) :=
    h.leave hg (fun _ => hoth) rfl fun r => by rw [hreg, if_neg (by simp)]
  have hrel (hoth : g ≠ .placeholder) (hreg : g.register? = none)
      (hv : ∀ items, g ≠ .view items) : ¬ w.Relies (pre ++ post) p :=
    (hleave hoth hreg).not_relies hg hnot hv
  by_cases hpl : o.part.isPlayer = true
  · cases hp : o.part with
    | player pl =>
      rw [hp] at hgist
      subst hgist
      obtain ⟨hact, -, hud, bar, hhud, hbar, hscrn⟩ := hrdy
      rw [Part.gist, hhud, hbar] at hg
      exact ends_breakDown_player (hleave (by rintro ⟨⟩) rfl) ha hlive hg hnot hact hscrn
    | _ => rw [hp] at hpl; cases hpl
  refine .of_run_eq (run_breakDownFully ho (Bool.eq_false_iff.2 hpl)) ?_
  cases hp : o.part with
  | player => rw [hp] at hpl; exact absurd rfl hpl
  | placeholder ph =>
    refine (ends_breakDown_placeholder h ho hp).mono (fun _ _ hw => hw) fun w' hw => ⟨hw.1, hw.2, ?_⟩
    rw [hg, ← hgist, hp]
    rfl
  | _ =>
    exact ends_breakDown_plain h ho (by rw [hp]; rfl) (by rw [hp]; rfl)

end

/-! ## Deleting an entity -/

lemma ends_breakDownAll (h : w.Sound rule (pre ++ (ids ++ post)))
    (ha : w.area? = some a) (hlive : ∀ q ∈ w.live, q ∈ pre ++ post)
    (hk : (∀ p ∈ ids, w.gist? p ≠ some .placeholder) ∨
      ∀ p ∈ ids, ∃ g, w.gist? p = some g ∧ g.register? = none) :
    Ends w (ids.forM breakDown) (fun _ w' => w'.Sound rule (pre ++ post) ∧ Fades w w')
      (fun w' => ¬ rule.tiled ∧ w'.Sound rule (pre ++ post) ∧ Fades w w') := by
  induction ids generalizing w with
  | nil => exact .pure ⟨h, .refl w⟩
  | cons p ids ih =>
    have hone := ends_breakDown (p := p) h ha fun q hq => by
      rcases List.mem_append.1 (hlive q hq) with hq | hq
      · exact List.mem_append_left _ hq
      · exact List.mem_append_right _ (List.mem_append_right _ hq)
    refine Ends.bind (hone.mono (fun _ _ hw => hw) fun w' hw => ?_) fun _ w' hw => ?_
    · obtain ⟨htiled, rfl, hhold⟩ := hw
      have hplain := hk.resolve_left fun hnone => hnone p (.head _) hhold
      exact ⟨htiled, h.drop htiled hplain, .refl w'⟩
    · obtain ⟨hsound, hfades⟩ := hw
      -- the parts that are left are what they were
      have hsame {q : PartId} (hq : q ∈ ids) : w'.gist? q = w.gist? q := by
        have hmem : q ∈ pre ++ (p :: ids ++ post) := by simp [hq]
        obtain ⟨g, hg, hrdy⟩ := h.ready q hmem
        refine (hfades.gist_eq hg fun items heq => ?_).trans hg.symm
        subst heq
        exact hrdy
      refine (ih hsound (hfades.area.trans ha) (hfades.live ▸ hlive) ?_).mono
        (fun _ u hu => ⟨hu.1, hfades.trans hu.2⟩) fun u hu => ⟨hu.1, hu.2.1, hfades.trans hu.2.2⟩
      refine hk.imp (fun hnone q hq => ?_) fun hplain q hq => ?_
      · rw [hsame hq]
        exact hnone q (.tail _ hq)
      · rw [hsame hq]
        exact hplain q (.tail _ hq)

lemma ends_clearEntity (h : w.Sound rule (pre ++ (w.partsOf e ++ post))) (ha : w.area? = some a)
    (hlive : w.live = pre ++ post) (he : e.index < w.entities.size) :
    Ends w (clearEntity breakDown e)
      (fun _ w' => w'.Sound rule w'.live ∧ Fades w w' ∧ w'.partsOf e = [])
      (fun w' => ¬ rule.tiled ∧ w'.Sound rule w'.live ∧ Fades w w') := by
  have hk : (∀ p ∈ w.partsOf e, w.gist? p ≠ some .placeholder) ∨
      ∀ p ∈ w.partsOf e, ∃ g, w.gist? p = some g ∧ g.register? = none := by
    by_cases hsome : ∃ p ∈ w.partsOf e, w.gist? p = some .placeholder
    · obtain ⟨p, hp, hg⟩ := hsome
      obtain ⟨g, hg', hrdy⟩ := h.ready p (by simp [hp])
      cases hg.symm.trans hg'
      obtain ⟨e', hown, -, hps⟩ := hrdy
      cases hown.symm.trans (h.owned e p hp)
      refine .inr fun q hq => ?_
      rcases hps q hq with ⟨isOverlay, himg⟩ | hoth
      · exact ⟨_, himg, rfl⟩
      · exact ⟨_, hoth, rfl⟩
    · exact .inl fun p hp hg => hsome ⟨p, hp, hg⟩
  have hps : w.entities[e.index].parts = w.partsOf e := by
    rw [partsOf, Array.getElem?_eq_getElem he]
    rfl
  refine .step (run_entity (Array.getElem?_eq_getElem he)) ?_
  rw [hps]
  refine Ends.bind ((ends_breakDownAll h ha (hlive ▸ fun _ hq => hq) hk).mono (fun _ _ hw => hw)
    fun w' hw => ?_) fun _ w' hw => ?_
  · obtain ⟨htiled, hsound, hfades⟩ := hw
    exact ⟨htiled, (hfades.live.trans hlive) ▸ hsound, hfades⟩
  · obtain ⟨hsound, hfades⟩ := hw
    have hlive' : w'.live = pre ++ post := hfades.live.trans hlive
    have hgone : ∀ p ∈ w'.partsOf e, p ∉ w'.live := fun p hp hmem => by
      have hold : p ∈ w.partsOf e := by
        rcases hfades.parts e with hsame | hnil
        · rwa [hsame] at hp
        · rw [hnil] at hp
          cases hp
      have hnd := h.nodup
      rw [hlive'] at hmem
      simp only [List.nodup_append, List.mem_append] at hnd hmem
      rcases hmem with hmem | hmem
      · exact hnd.2.2 p hmem p (.inl hold) rfl
      · exact hnd.2.1.2.2 p hold p hmem rfl
    have hclear : Fades w' (w'.cleared e) := .cleared hgone
    refine .of_ok rfl ⟨?_, hfades.trans hclear, partsOf_cleared_self w' e⟩
    change (w'.cleared e).Sound rule (w'.cleared e).live
    rw [hclear.live, hlive']
    exact hsound.clear e

lemma ends_deleteEntity (h : w.Sound rule (pre ++ (w.partsOf e ++ post))) (ha : w.area? = some a)
    (hlive : (w.departed a e).live = pre ++ post) (he : e.index < w.entities.size) :
    Ends w (deleteEntity e)
      (fun _ w' => w'.Sound rule w'.live ∧ Fades (w.departed a e) w' ∧ w'.partsOf e = [])
      (fun w' => ¬ rule.tiled ∧ w'.Sound rule w'.live ∧ Fades (w.departed a e) w') :=
  .step (run_leaveArea ha e) (ends_clearEntity (h.departed a e) ha hlive he)

section

variable (h : w.AtRest rule) (ha : w.area? = some a)
include h ha

lemma ends_deletePresent
    (he : e.index < w.entities.size) (hpres : e ∈ w.present ∨ w.partsOf e = []) :
    Ends w (deleteEntity e)
      (fun _ w' => w'.AtRest rule ∧ Fades (w.departed a e) w' ∧ w'.partsOf e = [])
      (fun w' => ¬ rule.tiled ∧ w'.AtRest rule) := by
  obtain ⟨pre, post, hlive, hrest⟩ :
      ∃ pre post, w.live = pre ++ (w.partsOf e ++ post) ∧ (w.departed a e).live = pre ++ post := by
    rcases hpres with hmem | hnil
    · exact exists_live_eq ha hmem
    · have hdep : Fades w (w.departed a e) := .departed ha (by rw [hnil]; nofun)
      exact ⟨w.live, [], by rw [hnil]; simp, by rw [hdep.live]; simp⟩
  have hshr {w' : World} (hfades : Fades (w.departed a e) w') : Shrinks w w' :=
    (Shrinks.departed ha e).trans hfades.toShrinks
  refine (ends_deleteEntity (hlive ▸ h.toSound) ha hrest he).mono (fun _ w' hw => ?_)
    fun w' hw => ?_
  · obtain ⟨hsound, hfades, hnil⟩ := hw
    exact ⟨h.of_shrinks (hshr hfades) hsound, hfades, hnil⟩
  · obtain ⟨htiled, hsound, hfades⟩ := hw
    exact ⟨htiled, h.of_shrinks (hshr hfades) hsound⟩

lemma ends_removeEntity (e : EntityId) :
    Ends w (removeEntity a e) (fun _ w' => w'.AtRest rule ∧ Shrinks w w') (AtRest rule) := by
  obtain ⟨area, harea, hpres⟩ := h.exists_area ha
  refine .step (run_area harea) ?_
  by_cases he : e ∈ area.entities
  · have hmem : e ∈ w.present := hpres ▸ he
    obtain ⟨pre, post, hlive, hrest⟩ := exists_live_eq ha hmem
    have hshr {w' : World} (hfades : Fades (w.departed a e) w') : Shrinks w w' :=
      (Shrinks.departed ha e).trans hfades.toShrinks
    have hclear := ends_clearEntity (w := w.departed a e) ((hlive ▸ h.toSound).departed a e) ha hrest
      (h.here e hmem)
    rw [if_neg (not_not_intro he)]
    refine Ends.mono (Ends.step (u := w.departed a e) rfl hclear) (fun _ w' hw => ?_) fun w' hw => ?_
    · exact ⟨h.of_shrinks (hshr hw.2.1) hw.1, hshr hw.2.1⟩
    · exact h.of_shrinks (hshr hw.2.2) hw.2.1
  · rw [if_pos he]
    exact .of_error rfl h

lemma ends_deleteAll {es : List EntityId} (hth : ∀ e ∈ es, e.index < w.entities.size)
    (hes : ∀ e ∈ es, e ∈ w.present ∨ w.partsOf e = []) (hpres : w.present.Sublist es) :
    Ends w (es.forM deleteEntity)
      (fun _ w' => w'.AtRest rule ∧ Shrinks w w' ∧ w'.present = [] ∧ ∀ e ∈ es, w'.partsOf e = [])
      (fun w' => ¬ rule.tiled ∧ w'.AtRest rule) := by
  induction es generalizing w with
  | nil => exact .pure ⟨h, .refl w, List.sublist_nil.1 hpres, nofun⟩
  | cons e es ih =>
    have hdel := ends_deletePresent h ha (hth e (.head _)) (hes e (.head _))
    refine hdel.bind fun _ w' hw => ?_
    obtain ⟨hrest, hfades, hnil⟩ := hw
    have hshr : Shrinks w w' := (Shrinks.departed ha e).trans hfades.toShrinks
    refine (ih hrest (hshr.area.trans ha) (fun e' he' => ?_) (fun e' he' => ?_) ?_).mono
      (fun _ u hu => ?_) fun _ hu => hu
    · rw [hshr.entities]
      exact hth e' (.tail _ he')
    · by_cases heq : e' = e
      · exact .inr (heq ▸ hnil)
      · rcases hes e' (.tail _ he') with hmem | hnil'
        · refine hfades.mem_present (h.departed a e).toTied ?_
          rw [present_departed ha]
          exact (List.mem_erase_of_ne heq).2 hmem
        · exact .inr ((hshr.parts e').elim (fun hsame => hsame.trans hnil') id)
    · have hsub := hfades.present
      rw [present_departed ha] at hsub
      have herase := hpres.erase e
      rw [List.erase_cons_head] at herase
      exact hsub.trans herase
    · obtain ⟨hrest', hshr', hemp, hnone⟩ := hu
      refine ⟨hrest', hshr.trans hshr', hemp, fun e' he' => ?_⟩
      rcases List.mem_cons.1 he' with rfl | he'
      · exact (hshr'.parts e').elim (fun hsame => hsame.trans hnil) id
      · exact hnone e' he'

end

lemma ends_reset (h : w.AtRest rule) : Ends w reset
      (fun _ w' => w'.AtRest rule ∧ Shrinks w w' ∧ w'.present = [] ∧
        ∀ e ∈ w.present, w'.partsOf e = []) (fun w' => ¬ rule.tiled ∧ w'.AtRest rule) := by
  rw [reset]
  refine .step rfl ?_
  rcases harea? : w.area? with _ | a
  · have hemp : w.present = [] := by
      rw [World.present, harea?]
      rfl
    refine .of_ok rfl ⟨h.of_empty hemp rfl fun r => by cases r <;> rfl, ?_, hemp, ?_⟩
    · exact (Fades.of_parts (by rfl)).toShrinks
    · rw [hemp]
      simp
  · obtain ⟨area, harea, hpres⟩ := h.exists_area harea?
    have hdel := ends_deleteAll h harea? h.here (fun e he => .inl he) (List.Sublist.refl _)
    rw [hpres] at hdel ⊢
    refine .step (run_area harea) (hdel.bind fun _ w' hw => ?_)
    obtain ⟨hrest, hshr, hemp, hnone⟩ := hw
    refine .of_ok rfl ⟨hrest.of_empty hemp rfl fun r => by cases r <;> rfl, ?_, hemp, hnone⟩
    exact hshr.trans (Fades.of_parts (by rfl)).toShrinks

end Game

end TileQuest
