import TileQuest.Proofs.Registers.Sound

/-!
# Taking things down

The parts of an entity are broken down one after the other, and as each of them is ready for it
(`World.Sound`), nothing is left behind: the registers hold what is still in the area. Only what
stands for an entity in the editor may fail to be broken down, once it was moved to where no place
has a key.
-/

namespace TileQuest

variable {rule : Rule} {ids : List PartId} {w : World} {a : AreaId} {e : EntityId}
variable {p q : PartId} {g : Gist} {o : Owned} {β : Type} {E : World → Prop}

namespace World

variable {w' w'' : World}
variable {v : PartId} {f : Part → Part} {qs items : List PartId} {view : InventoryView}

/-! ## What is in the area -/

def present (w : World) : List EntityId :=
  ((w.area?.bind fun a => w.areas[a.index]?).map Area.entities).getD []

def live (w : World) : List PartId := w.present.flatMap w.partsOf

def departed (w : World) (a : AreaId) (e : EntityId) : World :=
  { w with areas := w.areas.modify a.index fun a => { a with entities := a.entities.erase e } }

def cleared (w : World) (e : EntityId) : World :=
  { w with entities := w.entities.modify e.index ({ · with parts := [] }) }

lemma present_departed (ha : w.area? = some a) (e : EntityId) :
    (w.departed a e).present = w.present.erase e := by
  rw [present, departed, ha, Option.bind_some, Array.getElem?_modify, if_pos rfl, present, ha,
    Option.bind_some]
  cases w.areas[a.index]? <;> rfl

lemma partsOf_cleared_self (w : World) (e : EntityId) : (w.cleared e).partsOf e = [] := by
  rw [partsOf, cleared, Array.getElem?_modify, if_pos rfl, Option.map_map]
  cases w.entities[e.index]? <;> rfl

lemma partsOf_cleared_of_ne {e' : EntityId} (he : e' ≠ e) :
    (w.cleared e).partsOf e' = w.partsOf e' := by
  have hne : e.index ≠ e'.index := fun heq => he (EntityId.eq_of_index heq).symm
  rw [partsOf, cleared, Array.getElem?_modify, if_neg hne, partsOf]

lemma mem_live : p ∈ w.live ↔ ∃ e ∈ w.present, p ∈ w.partsOf e := List.mem_flatMap

/-- Entities may leave the area and lose their parts, and inventories may show something else;
nothing comes to be. -/
structure Shrinks (w w' : World) : Prop where
  present : w'.present.Sublist w.present
  area : w'.area? = w.area?
  areas : w'.areas.size = w.areas.size
  entities : w'.entities.size = w.entities.size
  parts : ∀ e, w'.partsOf e = w.partsOf e ∨ w'.partsOf e = []
  owner : ∀ p, w'.ownerOf? p = w.ownerOf? p
  gist : ∀ p, w'.gist? p = w.gist? p ∨ ∃ items, w.gist? p = some (.view items)

/-- All that is in the area stays there with its parts, except that entities without parts may leave
it. -/
structure Fades (w w' : World) : Prop extends Shrinks w w' where
  live : w'.live = w.live

lemma Shrinks.refl (w : World) : Shrinks w w where
  present := .refl _
  area := rfl
  areas := rfl
  entities := rfl
  parts _ := .inl rfl
  owner _ := rfl
  gist _ := .inl rfl

lemma Shrinks.trans (h : Shrinks w w') (h' : Shrinks w' w'') : Shrinks w w'' where
  present := h'.present.trans h.present
  area := h'.area.trans h.area
  areas := h'.areas.trans h.areas
  entities := h'.entities.trans h.entities
  parts e := by
    rcases h'.parts e with hsame | hnil
    · rw [hsame]
      exact h.parts e
    · exact .inr hnil
  owner p := (h'.owner p).trans (h.owner p)
  gist p := by
    rcases h.gist p with hsame | hv
    · rw [← hsame]
      exact h'.gist p
    · exact .inr hv

lemma Fades.refl (w : World) : Fades w w := { Shrinks.refl w with live := rfl }

lemma Fades.trans (h : Fades w w') (h' : Fades w' w'') : Fades w w'' :=
  { h.toShrinks.trans h'.toShrinks with live := h'.live.trans h.live }

lemma Shrinks.gist_eq (h : Shrinks w w') (hg : w.gist? p = some g)
    (hv : ∀ items, g ≠ .view items) : w'.gist? p = some g := by
  rcases h.gist p with hsame | ⟨items, hits⟩
  · exact hsame.trans hg
  · exact absurd (Option.some.inj (hg.symm.trans hits)) (hv items)

lemma Fades.of_same (hsame : (w'.entities, w'.areas, w'.area?) = (w.entities, w.areas, w.area?))
    (hown : ∀ p, w'.ownerOf? p = w.ownerOf? p)
    (hgist : ∀ p, w'.gist? p = w.gist? p ∨ ∃ items, w.gist? p = some (.view items)) :
    Fades w w' := by
  simp only [Prod.mk.injEq] at hsame
  obtain ⟨hents, has, harea⟩ := hsame
  have hpres : w'.present = w.present := by rw [World.present, has, harea, World.present]
  have hps (e : EntityId) : w'.partsOf e = w.partsOf e := by rw [partsOf, hents, partsOf]
  exact
    { live := by rw [World.live, hpres, funext hps, World.live]
      present := hpres ▸ List.Sublist.refl _
      area := harea
      areas := by rw [has]
      entities := by rw [hents]
      parts := fun e => .inl (hps e)
      owner := hown
      gist := hgist }

lemma Fades.of_parts (hsame : (w'.entities, w'.areas, w'.area?, w'.parts) =
    (w.entities, w.areas, w.area?, w.parts)) : Fades w w' := by
  simp only [Prod.mk.injEq] at hsame
  obtain ⟨hents, has, harea, hps⟩ := hsame
  exact .of_same (by rw [hents, has, harea]) (ownerOf?_of_parts hps)
    fun p => .inl (gist?_of_parts hps p)

lemma Fades.altered {k : PartId}
    (hf : ∀ o, w.parts[k.index]? = some o → (f o.part).gist = o.part.gist) :
    Fades w (w.altered k f) :=
  .of_same rfl (fun p => ownerOf?_altered w k p f) fun p =>
    .inl (map_getElem?_modify hf p.index)

lemma flatMap_erase_of_nil {α : Type} [BEq α] [LawfulBEq α] {f : α → List β} {a : α}
    (ha : f a = []) (as : List α) : (as.erase a).flatMap f = as.flatMap f := by
  induction as with
  | nil => rfl
  | cons b as ih =>
    by_cases hb : b = a
    · subst hb
      rw [List.erase_cons_head, List.flatMap_cons, ha, List.nil_append]
    · rw [List.erase_cons_tail (by simpa using hb), List.flatMap_cons, ih, List.flatMap_cons]

lemma Shrinks.departed (ha : w.area? = some a) (e : EntityId) : Shrinks w (w.departed a e) where
  present := by
    rw [present_departed ha e]
    exact List.erase_sublist
  area := rfl
  areas := by simp [World.departed]
  entities := rfl
  parts _ := .inl rfl
  owner _ := rfl
  gist _ := .inl rfl

lemma Fades.departed (ha : w.area? = some a)
    (he : ∀ p ∈ w.partsOf e, p ∉ w.live) : Fades w (w.departed a e) := by
  refine { Shrinks.departed ha e with live := ?_ }
  change (w.departed a e).present.flatMap w.partsOf = w.present.flatMap w.partsOf
  rw [present_departed ha e]
  by_cases hmem : e ∈ w.present
  · refine flatMap_erase_of_nil (List.eq_nil_iff_forall_not_mem.2 fun p hp => ?_) w.present
    exact he p hp (mem_live.2 ⟨e, hmem, hp⟩)
  · rw [List.erase_of_not_mem hmem]

lemma Shrinks.cleared (w : World) (e : EntityId) : Shrinks w (w.cleared e) where
  present := .refl _
  area := rfl
  areas := rfl
  entities := by simp [World.cleared]
  parts e' := by
    by_cases heq : e' = e
    · subst heq
      exact .inr (partsOf_cleared_self w e')
    · exact .inl (partsOf_cleared_of_ne heq)
  owner _ := rfl
  gist _ := .inl rfl

lemma Fades.cleared (he : ∀ p ∈ w.partsOf e, p ∉ w.live) : Fades w (w.cleared e) := by
  refine { Shrinks.cleared w e with live := List.flatMap_congr fun e' he' => ?_ }
  by_cases heq : e' = e
  · subst heq
    rw [partsOf_cleared_self]
    refine (List.eq_nil_iff_forall_not_mem.2 fun p hp => ?_).symm
    exact he p hp (mem_live.2 ⟨e', he', hp⟩)
  · exact partsOf_cleared_of_ne heq

/-! ## What relies on what -/

lemma Sound.departed (h : w.Sound rule ids) (a : AreaId) (e : EntityId) :
    (w.departed a e).Sound rule ids := h.of_same rfl fun r => by cases r <;> rfl

lemma Sound.notMem_of_gist (h : w.Sound rule ids)
    (hg : w.gist? p = some g) (hrdy : ¬ g.Ready w p) : p ∉ ids := fun hmem => by
  obtain ⟨g', hg', hrdy'⟩ := h.ready p hmem
  cases hg.symm.trans hg'
  exact hrdy hrdy'

lemma not_ready_of_isShown (hshn : g.isShown = true) (p : PartId) : ¬ g.Ready w p := by
  cases g with
  | image isOverlay =>
    rintro ⟨hrdy, -⟩
    cases hshn.symm.trans hrdy
  | inputBox | line => exact id
  | _ => cases hshn

section

variable (h : w.Sound rule ids) (hg : w.gist? p = some g)
include h hg

lemma Sound.not_relies
    (hp : p ∉ ids) (hv : ∀ items, g ≠ .view items) : ¬ w.Relies ids p := fun hrel => by
  rcases h.of_relies hrel with hmem | ⟨items, hits⟩
  · exact hp hmem
  · exact hv items (Option.some.inj (hg.symm.trans hits))

lemma Sound.notMem_kept (hq : q ∈ g.kept) (hp : ¬ w.Relies ids p) :
    ∀ k g', w.Relies ids k → w.gist? k = some g' → q ∉ g'.kept := fun k g' hk hg' hq' =>
  hp (h.keeper p k g g' q hg hg' hq hq' ▸ hk)

lemma Sound.not_relies_window (he : g.window? = some e) (hp : p ∉ ids) (hwin : w.Windowed e) :
    ∀ v ∈ w.partsOf e, ¬ w.Relies ids v := by
  rintro v hv (hmem | ⟨p', hp', g', e', hg', he', hv'⟩)
  · rcases hwin.2 with hnil | ⟨v', items, hone, hgist, -, -⟩
    · rw [hnil] at hv
      cases hv
    · rw [hone, List.mem_singleton] at hv
      subst hv
      exact h.notMem_of_gist hgist id hmem
  · cases h.eq_of_mem_partsOf hv hv'
    exact hp (h.window p p' g g' e hg hg' he he' ▸ hp')

end

lemma Sound.erase_overlays (h : w.Sound rule ids)
    (hqs : ∀ q ∈ qs, ∀ k g, w.Relies ids k → w.gist? k = some g → q ∉ g.kept) :
    Sound rule ids { w with overlay := qs.foldl List.erase w.overlay } := by
  induction qs generalizing w with
  | nil => exact h
  | cons q qs ih =>
    have hone := h.erase_overlay (hqs q (.head _))
    exact ih hone fun q' hq' => hqs q' (.tail _ hq')

lemma inventoryView_of_gist (hv : w.gist? v = some (.view items)) :
    ∃ o view, w.parts[v.index]? = some o ∧ o.part = .inventoryView view ∧ view.items = items := by
  obtain ⟨o, ho, hgist⟩ := gist?_eq_some.1 hv
  cases hp : o.part with
  | inventoryView view =>
    rw [hp] at hgist
    cases hgist
    exact ⟨o, view, ho, hp, rfl⟩
  | combat c => rw [hp, Part.gist_combat] at hgist; cases hgist
  | _ => rw [hp] at hgist; cases hgist

lemma Sound.setView (h : w.Sound rule ids)
    (ho : w.parts[v.index]? = some o) (hview : o.part = .inventoryView view)
    (hnd : items.Nodup) (hits : ∀ q ∈ items, q ∈ view.items ∨ w.Free q ∧ q ∈ w.overlay)
    (hf : f (.inventoryView view) = .inventoryView { view with items }) :
    (w.altered v f).Sound rule ids := by
  have hv : w.gist? v = some (.view view.items) := gist?_eq_some.2 ⟨o, ho, by rw [hview]; rfl⟩
  have htakes : w.Takes v (.view items) :=
    { unsettled := fun g hg => by
        cases hv.symm.trans hg
        rfl
      distinct := hnd
      kept := fun q hq => (hits q hq).imp (fun hold => ⟨_, hv, hold⟩) And.left
      window := nofun
      fighter := nofun
      player := nofun
      leaver := nofun
      aimed := nofun }
  have hch : Changes w (w.altered v f) v (.view items) := by
    have hch := changes_altered h.toTied ho (f := f) (by rw [hview, hf]; trivial)
    rwa [hview, hf] at hch
  refine h.change (h.notMem_of_gist hv id) htakes hch (fun items' hv' hshn => ?_)
    (fun e _ => not_hunts hv nofun e) rfl fun r => by cases r <;> rfl
  cases hv.symm.trans hv'
  refine ⟨items, rfl, fun q hq => ?_⟩
  rcases hits q hq with hold | ⟨-, hover⟩
  · exact hshn q hold
  · exact hover

/-- The part that shows nothing more, if it shows an inventory. -/
def blanked : Part → Part
  | .inventoryView v => .inventoryView { v with items := [] }
  | p => p

/-- The world after all that an inventory shows was taken down. -/
def unshown (w : World) (v : PartId) (items : List PartId) : World :=
  { w.altered v blanked with overlay := items.foldl List.erase w.overlay }

lemma Sound.unshown (h : w.Sound rule ids)
    (ho : w.parts[v.index]? = some o) (hview : o.part = .inventoryView view) :
    (w.unshown v view.items).Sound rule ids := by
  have hv : w.gist? v = some (.view view.items) := gist?_eq_some.2 ⟨o, ho, by rw [hview]; rfl⟩
  refine (h.setView ho hview List.nodup_nil nofun rfl).erase_overlays fun q hq k g _ hg hmem => ?_
  by_cases hk : k = v
  · subst hk
    rw [gist?_altered_self ho, hview] at hg
    cases hg
    cases hmem
  · rw [gist?_altered_of_ne hk] at hg
    exact hk (h.keeper k v g _ q hg hv hmem hq)

lemma mem_foldl_erase {overlay : List PartId} (hq : q ∈ overlay) (hqs : q ∉ qs) :
    q ∈ qs.foldl List.erase overlay := by
  induction qs generalizing overlay with
  | nil => exact hq
  | cons q' qs ih =>
    rw [List.mem_cons, not_or] at hqs
    exact ih ((List.mem_erase_of_ne hqs.1).2 hq) hqs.2

lemma Tagged.of_fades (h : w.Tagged q) (hfades : Fades w w')
    (hlay : q ∈ w.overlay → q ∈ w'.overlay) : w'.Tagged q := by
  obtain ⟨hmem, e, hown, he, hps⟩ := h
  refine ⟨hlay hmem, e, (hfades.owner q).trans hown, hfades.entities ▸ he, ?_⟩
  rcases hfades.parts e with hsame | hnil
  · rwa [hsame]
  · exact .inl hnil

lemma Windowed.of_fades (h : w.Windowed e) (hfades : Fades w w')
    (hsame : (w'.parts, w'.active) = (w.parts, w.active))
    (hlay : ∀ v ∈ w.partsOf e, ∀ items, w.gist? v = some (.view items) → ∀ q ∈ items,
      q ∈ w.overlay → q ∈ w'.overlay) : w'.Windowed e := by
  obtain ⟨hps, hact⟩ := Prod.mk.inj hsame
  obtain ⟨he, hwin⟩ := h
  refine ⟨hfades.entities ▸ he, ?_⟩
  rcases hfades.parts e with hsame | hnil
  · rw [hsame]
    refine hwin.imp id fun ⟨v, items, hone, hv, hmem, hits⟩ => ?_
    exact ⟨v, items, hone, (gist?_of_parts hps v).trans hv, hact ▸ hmem, fun q hq =>
      hlay v (hone ▸ List.mem_cons_self) items hv q hq (hits q hq)⟩
  · exact .inl hnil

end World

namespace Game

open World

variable {combat? : Option PartId} {health? : Option Json}

/-! ## Taking down what is on the screen -/

lemma run_leaveArea (ha : w.area? = some a) (e : EntityId) :
    (leaveArea e).runOn w = (.ok (), w.departed a e) := by
  rw [leaveArea, currentArea, bind_assoc, run_get_bind, ha]
  rfl

lemma run_erase {r : World → List PartId} {set : List PartId → World → World}
    (hp : p ∈ r w) :
    (do let left ← erase (r (← get)) p; modify (set left) : Game Unit).runOn w =
      (.ok (), set ((r w).erase p) w) := by
  rw [run_get_bind, erase, if_pos hp]
  rfl

lemma run_deactivate (hp : p ∈ w.active) :
    (deactivate p).runOn w = (.ok (), { w with active := w.active.erase p }) := run_erase hp

lemma run_delist_overlay (hp : p ∈ w.overlay) :
    (delist p true).runOn w = (.ok (), { w with overlay := w.overlay.erase p }) := run_erase hp

lemma run_delist_drawn (hp : p ∈ w.drawn) :
    (delist p false).runOn w = (.ok (), { w with drawn := w.drawn.erase p }) := run_erase hp

lemma run_delistAll {qs : List PartId} (hqs : ∀ q ∈ qs, q ∈ w.overlay) (hnd : qs.Nodup) :
    (qs.forM fun q => delist q true).runOn w =
      (.ok ⟨⟩, { w with overlay := qs.foldl List.erase w.overlay }) := by
  induction qs generalizing w with
  | nil => rfl
  | cons q qs ih =>
    obtain ⟨hnot, hnd⟩ := List.nodup_cons.1 hnd
    rw [run_forM_cons, bind_ok (run_delist_overlay (hqs q (.head _)))]
    refine ih (fun q' hq' => ?_) hnd
    have hne : q' ≠ q := fun heq => hnot (heq ▸ hq')
    exact (List.mem_erase_of_ne hne).2 (hqs q' (.tail _ hq'))

lemma run_breakDownPlain_shown (hg : w.gist? q = some g)
    (hshn : g.isShown = true) (hq : q ∈ w.overlay) :
    (breakDownPlain q).runOn w = (.ok (), { w with overlay := w.overlay.erase q }) := by
  obtain ⟨o, ho, rfl⟩ := gist?_eq_some.1 hg
  rw [breakDownPlain, bind_ok (run_part ho)]
  cases hp : o.part with
  | sprite s =>
    rw [hp] at hshn
    have hover : s.isOverlay = true := hshn
    change (delist q s.isOverlay).runOn w = _
    rw [hover]
    exact run_delist_overlay hq
  | inputBox => rfl
  | label | bar => exact run_delist_overlay hq
  | combat c => rw [hp, Part.gist_combat] at hshn; cases hshn
  | _ => rw [hp] at hshn; cases hshn

lemma run_deletePlain (ha : w.area? = some a) (he : e.index < w.entities.size) {u : World}
    (hps : ((w.partsOf e).forM breakDownPlain).runOn (w.departed a e) = (.ok ⟨⟩, u)) :
    (deletePlain e).runOn w = (.ok (), u.cleared e) := by
  have hen : (w.departed a e).entities[e.index]? = some w.entities[e.index] :=
    Array.getElem?_eq_getElem he
  have hps' : w.partsOf e = w.entities[e.index].parts := by
    rw [partsOf, Array.getElem?_eq_getElem he]
    rfl
  rw [deletePlain, bind_ok (run_leaveArea ha e), clearEntity,
    bind_ok (run_entity hen), ← hps', bind_ok hps]
  rfl

lemma ends_deleteTag
    (h : w.Sound rule ids) (ha : w.area? = some a) (hlive : ∀ p ∈ w.live, p ∈ ids)
    (hg : w.gist? q = some g) (hshn : g.isShown = true)
    (hfree : ∀ k g, w.Relies ids k → w.gist? k = some g → q ∉ g.kept) (hq : q ∈ w.overlay)
    (he : e.index < w.entities.size) (hps : w.partsOf e = [] ∨ w.partsOf e = [q]) :
    Ends w (deletePlain e) (fun _ w' => w'.Sound rule ids ∧ Fades w w' ∧
      (w'.parts, w'.active) = (w.parts, w.active) ∧ ∀ q' ≠ q, q' ∈ w.overlay → q' ∈ w'.overlay)
      E := by
  have hnot : ∀ p ∈ w.partsOf e, p ∉ w.live := fun p hp hmem => by
    rcases hps with hnil | hone
    · rw [hnil] at hp
      cases hp
    · rw [hone, List.mem_singleton] at hp
      subst hp
      exact h.notMem_of_gist hg (not_ready_of_isShown hshn p) (hlive p hmem)
  have hdep : Fades w (w.departed a e) := .departed ha hnot
  rcases hps with hnil | hone
  · refine .of_ok (run_deletePlain ha he (u := w.departed a e) (by rw [hnil]; rfl)) ?_
    exact ⟨(h.departed a e).clear e, hdep.trans (.cleared fun p hp => hdep.live ▸ hnot p hp),
      rfl, fun _ _ hmem => hmem⟩
  · have hrun : ((w.partsOf e).forM breakDownPlain).runOn (w.departed a e) =
        (.ok ⟨⟩, { w.departed a e with overlay := w.overlay.erase q }) := by
      have hbreak : (breakDownPlain q).runOn (w.departed a e) = _ :=
        run_breakDownPlain_shown hg hshn hq
      rw [hone, run_forM_cons, bind_ok hbreak]
      rfl
    have hfades : Fades w { w.departed a e with overlay := w.overlay.erase q } :=
      hdep.trans (.of_parts rfl)
    refine .of_ok (run_deletePlain ha he hrun) ⟨?_, ?_, rfl, fun q' hne hmem => ?_⟩
    · exact ((h.departed a e).erase_overlay hfree).clear e
    · exact hfades.trans (.cleared fun p hp => hfades.live ▸ hnot p hp)
    · exact (List.mem_erase_of_ne hne).2 hmem

lemma run_clearView {v : PartId} {view : InventoryView}
    (ho : w.parts[v.index]? = some o) (hv : o.part = .inventoryView view) (hlost : o.lost = [])
    (hits : ∀ q ∈ view.items, q ∈ w.overlay) (hnd : view.items.Nodup) :
    (clearView v).runOn w = (.ok (), w.unshown v view.items) := by
  have hbag : (bagView v).runOn w = (.ok view, w) := by
    rw [bagView, bind_ok (run_part ho), hv]
    rfl
  rw [clearView, bind_ok (run_requires ho hlost _), bind_ok hbag,
    bind_ok (run_delistAll hits hnd)]
  rfl

section

variable (h : w.Sound rule ids) (ha : w.area? = some a) (hlive : ∀ p ∈ w.live, p ∈ ids)
include h ha hlive

lemma ends_deleteWindow (he : w.Windowed e) (hfree : ∀ v ∈ w.partsOf e, ¬ w.Relies ids v) :
    Ends w (deletePlain e) (fun _ w' => w'.Sound rule ids ∧ Fades w w' ∧
      (∀ p g, w.gist? p = some g → (∀ items, g ≠ .view items) → p ∈ w.active → p ∈ w'.active) ∧
      ∀ q, (∀ v ∈ w.partsOf e, ∀ g, w.gist? v = some g → q ∉ g.kept) → q ∈ w.overlay →
        q ∈ w'.overlay) E := by
  obtain ⟨hlt, hnil | ⟨v, items, hone, hv, hact, hits⟩⟩ := he
  · have hnot : ∀ p ∈ w.partsOf e, p ∉ w.live := by
      rw [hnil]
      exact nofun
    have hdep : Fades w (w.departed a e) := .departed ha hnot
    refine .of_ok (run_deletePlain ha hlt (u := w.departed a e) (by rw [hnil]; rfl)) ?_
    exact ⟨(h.departed a e).clear e,
      hdep.trans (.cleared fun p hp => hdep.live ▸ hnot p hp),
      fun _ _ _ _ hmem => hmem, fun _ _ hmem => hmem⟩
  obtain ⟨o, view, ho, hview, rfl⟩ := inventoryView_of_gist hv
  have hmem : v ∈ w.partsOf e := hone ▸ List.mem_cons_self
  have hnot : ∀ p ∈ w.partsOf e, p ∉ w.live := fun p hp hlive' => by
    rw [hone, List.mem_singleton] at hp
    exact hfree v hmem (.inl (hp ▸ hlive p hlive'))
  have hdep : Fades w (w.departed a e) := .departed ha hnot
  -- the window stops acting before what it shows is taken down
  let stopped : World := { w.departed a e with active := w.active.erase v }
  have hbreak : (breakDownPlain v).runOn (w.departed a e) =
      (.ok (), stopped.unshown v view.items) := by
    have ho' : (w.departed a e).parts[v.index]? = some o := ho
    have hstop : (deactivate v).runOn (w.departed a e) = (.ok (), stopped) :=
      run_deactivate hact
    rw [breakDownPlain, bind_ok (run_part ho'), hview]
    change (deactivate v >>= fun _ => clearView v).runOn (w.departed a e) = _
    rw [bind_ok hstop]
    exact run_clearView ho hview (h.able _ o ho).lost hits (h.distinct v _ hv)
  have hfades : Fades w (stopped.unshown v view.items) := by
    refine hdep.trans (.of_same rfl (fun p => ownerOf?_altered w v p blanked) fun p => ?_)
    by_cases hp : p = v
    · exact .inr ⟨view.items, hp ▸ hv⟩
    · exact .inl (gist?_altered_of_ne hp blanked)
  have hrun : ((w.partsOf e).forM breakDownPlain).runOn (w.departed a e) =
      (.ok ⟨⟩, stopped.unshown v view.items) := by
    rw [hone, run_forM_cons, bind_ok hbreak]
    rfl
  refine .of_ok (run_deletePlain ha hlt hrun) ⟨?_, ?_, fun p g hg hoth hp => ?_, fun q hq hover => ?_⟩
  · have hstopped : stopped.Sound rule ids := (h.departed a e).erase_active (hfree v hmem)
    exact (hstopped.unshown ho hview).clear e
  · exact hfades.trans (.cleared fun p hp => hfades.live ▸ hnot p hp)
  · have hne : p ≠ v := fun heq => by
      rw [heq, hv] at hg
      exact hoth _ (Option.some.inj hg).symm
    exact (List.mem_erase_of_ne hne).2 hp
  · exact mem_foldl_erase hover (hq v hmem _ hv)

/-! ## Breaking a part down -/

lemma Ends.deleteKept {f : Unit → Game β} {Q : β → World → Prop} (hg : w.gist? p = some g) (hv : ∀ items, g ≠ .view items)
    (hp : p ∉ ids) (hq : q ∈ g.kept) (htag : w.Tagged q)
    (hf : ∀ w', w'.Sound rule ids → Fades w w' → (w'.parts, w'.active) = (w.parts, w.active) →
      (∀ q' ≠ q, q' ∈ w.overlay → q' ∈ w'.overlay) → Ends w' (f ()) Q E) :
    Ends w (owner q >>= fun e => deletePlain e >>= f) Q E := by
  obtain ⟨hover, e, hown, he, hps⟩ := htag
  obtain ⟨g', hg', hshn⟩ := h.shown p g hg q hq
  have hfree := h.notMem_kept hg hq (h.not_relies hg hp hv)
  refine .step (run_owner_eq_ok.2 ⟨hown, rfl⟩)
    ((ends_deleteTag h ha hlive hg' hshn hfree hover he hps).bind fun _ w' hw' => ?_)
  obtain ⟨hsound, hfades, hsame, hkept⟩ := hw'
  exact hf w' hsound hfades hsame hkept

end

lemma player_of_gist {hud? : Option (PartId × PartId × EntityId)} {bar? : Option PartId}
    (hg : w.gist? p = some (.player hud? bar? combat? health?)) :
    ∃ o pl, w.parts[p.index]? = some o ∧ o.part = .player pl ∧
      pl.hud?.map (fun h => (h.place, h.message, h.window)) = hud? ∧ pl.bar? = bar? ∧
      pl.combat? = combat? ∧ pl.health? = health? := by
  obtain ⟨o, ho, hgist⟩ := gist?_eq_some.1 hg
  cases hp : o.part with
  | player pl =>
    rw [hp] at hgist
    obtain ⟨hhud, hbar, hcomb, hhp⟩ := Gist.player.inj hgist
    exact ⟨o, pl, ho, hp, hhud, hbar, hcomb, hhp⟩
  | combat c => rw [hp, Part.gist_combat] at hgist; cases hgist
  | _ => rw [hp] at hgist; cases hgist

lemma ends_breakDown_player {bar : PartId} {hud : PartId × PartId × EntityId}
    (h : w.Sound rule ids) (ha : w.area? = some a) (hlive : ∀ p ∈ w.live, p ∈ ids)
    (hg : w.gist? p = some (.player (some hud) (some bar) combat? health?)) (hp : p ∉ ids)
    (hact : p ∈ w.active) (hscrn : w.Screened hud bar) :
    Ends w (breakDownFully p) (fun _ w' => w'.Sound rule ids ∧ Fades w w') E := by
  obtain ⟨o, pl, ho, hpl, hmap, hbar, -, -⟩ := player_of_gist hg
  obtain ⟨hd, hhud, rfl⟩ := Option.map_eq_some_iff.1 hmap
  have hdist := h.distinct p _ hg
  simp only [Gist.kept, Option.elim_some, Option.toList_some, List.cons_append, List.nil_append,
    List.nodup_cons, List.mem_cons, List.not_mem_nil, or_false, not_or] at hdist
  obtain ⟨⟨hplaceMessage, hplaceBar⟩, hmessageBar, -⟩ := hdist
  rw [breakDownFully]
  refine .step (run_part ho) ?_
  rw [hpl]
  refine .step (by rw [hhud]; rfl) ?_
  -- the label of the place
  refine .deleteKept h ha hlive hg (by simp) hp (by simp [Gist.kept]) hscrn.place
    fun w1 hsound1 hfades1 hsame1 hover1 => ?_
  have hg1 := hfades1.gist_eq hg (by simp)
  -- the label of the message
  refine .deleteKept hsound1 (hfades1.area.trans ha) (hfades1.live ▸ hlive) hg1 (by simp) hp
    (by simp [Gist.kept]) (hscrn.message.of_fades hfades1 (hover1 _ (Ne.symm hplaceMessage)))
    fun w2 hsound2 hfades2 hsame2 hover2 => ?_
  have hfades := hfades1.trans hfades2
  have hg2 := hfades2.gist_eq hg1 (by simp)
  -- the window, of which nothing was taken down so far
  have hoth {v q : PartId} {items : List PartId} (hv : w.gist? v = some (.view items))
      (hq : q ∈ items) : q ≠ hd.place ∧ q ≠ hd.message := by
    have hkeeper {q' : PartId} (hq' : q' ∈ [hd.place, hd.message]) : q ≠ q' := fun heq => by
      have hkept : q ∈ (Gist.player (some (hd.place, hd.message, hd.window)) (some bar) combat?
          health?).kept := List.mem_append_left _ (heq ▸ hq')
      cases h.keeper v p _ _ q hv hg hq hkept
      cases hv.symm.trans hg
    exact ⟨hkeeper (by simp), hkeeper (by simp)⟩
  have hwin : w2.Windowed hd.window := by
    refine hscrn.window.of_fades hfades (hsame2.trans hsame1) fun v _ items hv q hq hover => ?_
    obtain ⟨hplace, hmsg⟩ := hoth hv hq
    exact hover2 q hmsg (hover1 q hplace hover)
  have hfree := hsound2.not_relies_window hg2 rfl hp hwin
  refine (ends_deleteWindow hsound2 (hfades.area.trans ha) (hfades.live ▸ hlive) hwin hfree).bind
    fun _ w3 hw3 => ?_
  obtain ⟨hsound3, hfades3, hactive3, hover3⟩ := hw3
  have hfades := hfades.trans hfades3
  have hg3 := hfades3.gist_eq hg2 (by simp)
  -- the bar
  have htag : w3.Tagged bar := by
    refine hscrn.bar.of_fades hfades fun hover => hover3 bar (fun v hv g hg' hmem => ?_)
      (hover2 bar (Ne.symm hmessageBar) (hover1 bar (Ne.symm hplaceBar) hover))
    cases hsound2.keeper v p g _ bar hg' hg2 hmem (by simp [Gist.kept])
    rcases hwin.2 with hnil | ⟨v', items, hone, hv', -, -⟩
    · rw [hnil] at hv
      cases hv
    · rw [hone, List.mem_singleton] at hv
      subst hv
      cases hv'.symm.trans hg2
  refine .step (by rw [hbar]; rfl) ?_
  refine .deleteKept hsound3 (hfades.area.trans ha) (hfades.live ▸ hlive) hg3 (by simp) hp
    (by simp [Gist.kept]) htag fun w4 hsound4 hfades4 hsame4 _ => ?_
  have hact : p ∈ w4.active := by
    rw [(Prod.mk.inj hsame4).2]
    refine hactive3 p _ hg2 (by simp) ?_
    rwa [(Prod.mk.inj (hsame2.trans hsame1)).2]
  -- and the player itself
  refine .step (run_deactivate hact) (.of_ok rfl ⟨?_, ?_⟩)
  · have hstop := hsound4.erase_active (hsound4.not_relies (hfades4.gist_eq hg3 (by simp)) hp (by simp))
    exact hstop.of_same rfl fun r => by cases r <;> rfl
  · exact (hfades.trans hfades4).trans (.of_parts rfl)

end Game

end TileQuest
