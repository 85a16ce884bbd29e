import TileQuest.Proofs.Bodies.Talking
import TileQuest.Proofs.Registers.Deletion

/-!
# Showing things, and taking them down

Inventories and dialogues put things on the screen and take them down again, and so do the tools of
the editor. Whatever they do, and even if they break off halfway, those in the area do not lose
what they rely on (`World.Guards`): what a dialogue or a tool shows is no business of theirs, and an
inventory that is shown anew was complete before, so that taking it down completes.
-/

namespace TileQuest

variable {d : Dialogue} {u w w' w0 : World} {q v : PartId} {qs ids : List PartId} {rule : Rule}
variable {o : Owned}

namespace World

variable {w'' : World} {k : PartId}

/-- The parts of the list stay ready to be broken down, and the registers hold them. -/
def Guards (rule : Rule) (ids : List PartId) (w w' : World) : Prop :=
  w.Sound rule ids → w'.Sound rule ids ∧ Stays w w'

instance : IsPreorder World (Guards rule ids) where
  refl w h := ⟨h, .refl w⟩
  trans _ _ _ h h' hsound :=
    have ⟨hsound, hstays⟩ := h hsound
    have ⟨hsound', hstays'⟩ := h' hsound
    ⟨hsound', hstays.trans hstays'⟩

instance : Game.Allows Steady (Guards rule ids) :=
  ⟨fun _ _ hst h => ⟨h.of_steady hst, hst.stays⟩⟩

/-- Where nothing is half made or half taken down, nothing is so afterwards. -/
def Kept (rule : Rule) (w w' : World) : Prop := w.AtRest rule → w'.AtRest rule

instance : IsPreorder World (Kept rule) where
  refl _ h := h
  trans _ _ _ h h' hrest := h' (h hrest)

lemma Kept.of_guards (h : ∀ ids, Guards rule ids w w') : Kept rule w w' := fun hrest =>
  have ⟨hsound, hstays⟩ := h w.live hrest.toSound
  hrest.of_stays hsound hstays

lemma Kept.of_same (hsame : (w'.parts, w'.entities, w'.screen, w'.tools, w'.taken) =
      (w.parts, w.entities, w.screen, w.tools, w.taken))
    (hregs : ∀ r : Register, r.list w' = r.list w)
    (ha : (w'.areas, w'.area?) = (w.areas, w.area?)) : Kept rule w w' := by
  refine .of_guards fun ids h => ⟨h.of_same hsame hregs, .of_same ?_⟩
  simp only [Prod.mk.injEq] at hsame ha ⊢
  exact ⟨ha.1, ha.2, hsame.2.2.2.1, hsame.2.1, hsame.1⟩

instance : Game.Allows Steady (Kept rule) :=
  ⟨fun _ _ hst => .of_guards fun _ h => ⟨h.of_steady hst, hst.stays⟩⟩

/-- Those in the area do not lose what they rely on, and all parts are what they were. -/
structure Loosens (rule : Rule) (ids : List PartId) (w w' : World) : Prop where
  sound : w'.Sound rule ids
  stays : Stays w w'
  gist : ∀ p, w'.gist? p = w.gist? p

lemma Loosens.refl (h : w.Sound rule ids) : Loosens rule ids w w := ⟨h, .refl w, fun _ => rfl⟩

lemma Loosens.trans (h : Loosens rule ids w w') (h' : Loosens rule ids w' w'') :
    Loosens rule ids w w'' :=
  ⟨h'.sound, h.stays.trans h'.stays, fun p => (h'.gist p).trans (h.gist p)⟩

lemma Loosens.unkept (h : Loosens rule ids w w') (hsound : w.Sound rule ids)
    (hq : ∀ k g, w.Relies ids k → w.gist? k = some g → q ∉ g.kept) :
    ∀ k g, w'.Relies ids k → w'.gist? k = some g → q ∉ g.kept := by
  intro k g hk hg
  rw [h.gist] at hg
  refine hq k g (hk.imp id fun ⟨p, hp, g', e, hg', he, hmem⟩ => ?_) hg
  rw [h.gist] at hg'
  rw [h.stays.parts e (hsound.housed p g' e hg' he)] at hmem
  exact ⟨p, hp, g', e, hg', he, hmem⟩

lemma Loosens.altered (h : w.Sound rule ids)
    (ho : w.parts[k.index]? = some o) {f : Part → Part} (hgist : (f o.part).gist = o.part.gist)
    (hfit : (f o.part).Fit) : Loosens rule ids w (w.altered k f) := by
  have hst : Steady w (w.altered k f) := by
    refine .modifyOwned (fun o' ho' => ?_) fun o' ho' hable => ?_
    · cases ho.symm.trans ho'
      exact Prod.ext hgist rfl
    · cases ho.symm.trans ho'
      exact ⟨hable.lost, hfit⟩
  refine ⟨h.of_steady hst, hst.stays, fun p => ?_⟩
  by_cases hp : p = k
  · subst hp
    rw [gist?_altered_self ho, hgist, gist?, ho]
    rfl
  · exact gist?_altered_of_ne hp f

lemma Stays.withPart (w : World) (p : Part) : Stays w (w.withPart p) where
  areas := rfl
  area := rfl
  tools := rfl
  parts_le := by simp [World.withPart]
  entities_le := le_rfl
  parts _ _ := rfl
  settled q g _ hg := by
    rw [gist?, getElem?_withPart_of_ne p (lt_of_gist? hg).ne]
    exact hg

/-- Some parts were put on the screen since an earlier world, and nothing was disturbed. -/
structure Gathered (w0 : World) (qs : List PartId) (w : World) : Prop where
  steady : Steady w0 w
  shown : ∀ q ∈ qs, w0.parts.size ≤ q.index ∧ ∃ g, w.gist? q = some g ∧ g.isShown = true
  nodup : qs.Nodup

lemma Gathered.of_steady (h : Gathered w0 qs w) (hst : Steady w w') : Gathered w0 qs w' where
  steady := h.steady.trans hst
  shown q hq := by
    obtain ⟨hnew, g, hg, hshown⟩ := h.shown q hq
    exact ⟨hnew, g, hst.gist?_some hg, hshown⟩
  nodup := h.nodup

lemma Gathered.add (h : Gathered w0 qs w) (hst : Steady w w')
    (hq : w.parts.size ≤ q.index) {g : Gist} (hg : w'.gist? q = some g)
    (hshown : g.isShown = true) : Gathered w0 (q :: qs) w' where
  steady := h.steady.trans hst
  shown q' hq' := by
    rcases List.mem_cons.1 hq' with rfl | hq'
    · exact ⟨h.steady.parts_le.trans hq, g, hg, hshown⟩
    · exact (h.of_steady hst).shown q' hq'
  nodup := by
    refine List.nodup_cons.2 ⟨fun hmem => ?_, h.nodup⟩
    obtain ⟨-, g', hg', -⟩ := h.shown q hmem
    exact hq.not_gt (lt_of_gist? hg')

lemma Gathered.withPart (h : Gathered w0 qs w)
    (hsound : w0.Sound rule ids) (hd : d.shown.Nodup) (hqs : ∀ q ∈ d.shown, q ∈ qs) :
    (w.withPart (.dialogue d)).Sound rule ids ∧ Stays w0 (w.withPart (.dialogue d)) := by
  have hsound' := hsound.of_steady h.steady
  refine ⟨hsound'.withPart trivial (hsound'.toTied.takes_new hd (fun q hq => ?_) rfl nofun nofun),
    h.steady.stays.trans (.withPart w _)⟩
  obtain ⟨hnew, g, hg, hshown⟩ := h.shown q (hqs q hq)
  exact hsound.toTied.free_of_new h.steady hnew hg hshown

/-- An inventory is shown, and all of it is on the screen. -/
def Rendered (w : World) (v : PartId) : Prop :=
  ∃ items, w.gist? v = some (.view items) ∧ ∀ q ∈ items, q ∈ w.overlay

lemma Rendered.of_lasting (h : w.Rendered v) (htied : w.Tied)
    (hlast : Lasting w w') : w'.Rendered v := by
  obtain ⟨items, hv, hits⟩ := h
  exact ⟨items, hlast.gist?_some hv, fun q hq =>
    hlast.overlay q (hits q hq) (htied.lt_of_mem_kept hv hq)⟩

lemma Lasting.altered_new (h : Lasting w w') (hk : w.parts.size ≤ k.index)
    (f : Part → Part) : Lasting w (w'.altered k f) where
  parts_le := by
    rw [World.altered, Array.size_modify]
    exact h.parts_le
  entities_le := h.entities_le
  essence i hi := by
    rw [World.altered, getElem?_modify_of_lt hk hi]
    exact h.essence i hi
  entity := h.entity
  active := h.active
  drawn := h.drawn
  overlay := h.overlay

lemma Sound.overlay_of_relies (h : w.Sound rule ids) {items : List PartId}
    (hv : w.gist? v = some (.view items)) (hrel : w.Relies ids v) :
    ∀ q ∈ items, q ∈ w.overlay := by
  rcases hrel with hmem | ⟨p, hp, g, e, hg, he, hmem⟩
  · exact absurd hmem (h.notMem_of_gist hv id)
  · rcases (h.windowed hp hg he).2 with hnil | ⟨v', items', hps, hv', -, hits⟩
    · rw [hnil] at hmem
      cases hmem
    · rw [hps, List.mem_singleton] at hmem
      subst hmem
      cases hv.symm.trans hv'
      exact hits

/-- The part that shows one more, if it shows an inventory. -/
def added (q : PartId) : Part → Part
  | .inventoryView v => .inventoryView { v with items := v.items ++ [q] }
  | p => p

lemma Rendered.adopt (hv : w.Rendered v) (h : w.Sound rule ids) (hfree : w.Free q)
    (hq : q ∈ w.overlay) :
    (w.altered v (added q)).Sound rule ids ∧ Stays w (w.altered v (added q)) ∧
      (w.altered v (added q)).Rendered v := by
  obtain ⟨items, hits, hover⟩ := hv
  obtain ⟨o, view, ho, hview, rfl⟩ := inventoryView_of_gist hits
  have hnot : q ∉ view.items := hfree.unkept v _ hits
  have hnd : (view.items ++ [q]).Nodup := by
    have hdist : view.items.Nodup := h.distinct v _ hits
    refine List.nodup_append.2 ⟨hdist, List.nodup_singleton q, ?_⟩
    rintro q' hq' _ hq rfl
    exact hnot (List.mem_singleton.1 hq ▸ hq')
  refine ⟨h.setView ho hview hnd (fun q' hq' => ?_) rfl, .altered fun g hg => ?_,
    view.items ++ [q], ?_, fun q' hq' => ?_⟩
  · rcases List.mem_append.1 hq' with hq' | hq'
    · exact .inl hq'
    · rw [List.mem_singleton.1 hq']
      exact .inr ⟨hfree, hq⟩
  · cases hits.symm.trans hg
    rfl
  · rw [gist?_altered_self ho, hview]
    rfl
  · rcases List.mem_append.1 hq' with hq' | hq'
    · exact hover q' hq'
    · rw [List.mem_singleton.1 hq']
      exact hq

lemma Free.altered {q' : PartId} (hfree : w.Free q) (hv : w.Rendered v) (hne : q ≠ q') :
    (w.altered v (added q')).Free q := by
  obtain ⟨items, hits, -⟩ := hv
  obtain ⟨o, view, ho, hview, rfl⟩ := inventoryView_of_gist hits
  obtain ⟨g, hg, hshown⟩ := hfree.shown
  have hoth : q ≠ v := fun heq => by
    rw [heq, hits] at hg
    cases hg
    cases hshown
  refine ⟨⟨g, (gist?_altered_of_ne hoth _).trans hg, hshown⟩, fun k g' hg' hmem => ?_,
    hfree.untooled⟩
  by_cases hk : k = v
  · subst hk
    rw [gist?_altered_self ho, hview] at hg'
    cases hg'
    rcases List.mem_append.1 hmem with hmem | hmem
    · exact hfree.unkept k _ hits hmem
    · exact hne (List.mem_singleton.1 hmem)
  · rw [gist?_altered_of_ne hk] at hg'
    exact hfree.unkept k g' hg' hmem

end World

namespace Game

open World

lemma Ends.kept {α : Type} {g : Game α} (hg : Obeys (Kept rule) g) (h : w.AtRest rule) :
    Ends w g (fun _ => AtRest rule) (AtRest rule) :=
  .of_obeys hg (fun _ _ hu => hu h) fun _ hu => hu h

/-! ## What nobody in the area relies on -/

lemma ends_erase {p : PartId} {register : World → List PartId}
    {set : List PartId → World → World} :
    Ends w (do let left ← erase (register (← get)) p; modify (set left) : Game Unit)
      (fun _ w' => w' = set ((register w).erase p) w) (fun w' => w' = w) := by
  by_cases hp : p ∈ register w
  · exact .of_ok (run_erase hp) rfl
  · refine .step rfl (.lift (fun _ _ => rfl) fun left hleft => ?_)
    rw [erase, if_neg hp] at hleft
    cases hleft

section

variable (h : w.Sound rule ids)
include h

lemma loosens_deactivate (hq : ¬ w.Relies ids q) :
    Ends w (deactivate q) (fun _ => Loosens rule ids w) (Loosens rule ids w) := by
  refine ends_erase.mono (fun _ w' hw => ?_) fun w' hw => ?_
  · subst hw
    exact ⟨h.erase_active hq, .of_same rfl, fun _ => rfl⟩
  · subst hw
    exact .refl h

lemma loosens_delist (hq : ∀ k g, w.Relies ids k → w.gist? k = some g → q ∉ g.kept) :
    Ends w (delist q true) (fun _ => Loosens rule ids w) (Loosens rule ids w) := by
  have hrun : Ends w (delist q true) (fun _ w' => w' = { w with overlay := w.overlay.erase q })
      (fun w' => w' = w) := ends_erase
  refine hrun.mono (fun _ w' hw => ?_) fun w' hw => ?_
  · subst hw
    exact ⟨h.erase_overlay hq, .of_same rfl, fun _ => rfl⟩
  · subst hw
    exact .refl h

lemma loosens_breakDownList {s : ScrollView}
    (ho : w.parts[q.index]? = some o) (hs : o.part = .scrollView s)
    (hfree : ∀ k g, w.Relies ids k → w.gist? k = some g → q ∉ g.kept) :
    Ends w (breakDownPlain q) (fun _ => Loosens rule ids w) (Loosens rule ids w) := by
  have hlost := (h.able _ o ho).lost
  -- first what it shows is forgotten, then it is taken off the registers
  let hollow : World := w.altered q fun _ => .scrollView { s with children := [] }
  let bare : World := hollow.altered q fun _ => .scrollView { s with children := [], drawn := [] }
  have ho' : hollow.parts[q.index]? =
      some { o with part := .scrollView { s with children := [] } } := getElem?_altered_self ho _
  have hhollow : Loosens rule ids w hollow := .altered h ho (by rw [hs]; rfl) trivial
  have hbare : Loosens rule ids w bare :=
    hhollow.trans (.altered hhollow.sound ho' rfl trivial)
  have hgist : bare.gist? q = some .list := by
    rw [hbare.gist, gist?, ho, Option.map_some, hs]
    rfl
  have hnot : ¬ bare.Relies ids q :=
    hbare.sound.not_relies hgist (hbare.sound.notMem_of_gist hgist id) (by simp)
  rw [breakDownPlain]
  refine .step (run_part ho) ?_
  rw [hs]
  refine .step (run_requires ho hlost _) (.step (u := hollow) rfl
    (.step (run_requires ho' hlost _) (.step (u := bare) rfl ?_)))
  refine Ends.bind ((loosens_deactivate hbare.sound hnot).mono (fun _ _ hw => hbare.trans hw)
    fun _ hw => hbare.trans hw) fun _ w' hw => ?_
  exact (loosens_delist hw.sound (hw.unkept h hfree)).mono (fun _ _ hu => hw.trans hu)
    fun _ hu => hw.trans hu

lemma loosens_breakDown {g : Gist} (hg : w.gist? q = some g)
    (hk : g.isShown = true ∨ g.isWidget = true)
    (hfree : ∀ k g, w.Relies ids k → w.gist? k = some g → q ∉ g.kept) :
    Ends w (breakDown q) (fun _ => Loosens rule ids w) (Loosens rule ids w) := by
  obtain ⟨o, ho, hgist⟩ := gist?_eq_some.1 hg
  have hpl : o.part.isPlayer = false := by
    rw [← hgist] at hk
    cases hp : o.part with
    | player => rw [hp] at hk; rcases hk with hk | hk <;> cases hk
    | _ => rfl
  refine .of_run_eq ((run_breakDown ho (h.able _ o ho).lost).trans
    (run_breakDownFully ho hpl)) ?_
  have hdelist := loosens_delist h hfree
  by_cases hlist : ∃ s, o.part = .scrollView s
  · obtain ⟨s, hs⟩ := hlist
    exact loosens_breakDownList h ho hs hfree
  rw [breakDownPlain]
  refine .step (run_part ho) ?_
  subst hgist
  cases hp : o.part with
  | sprite s =>
    rw [hp] at hk
    have hover : s.isOverlay = true := hk.resolve_right (by rintro ⟨⟩)
    change Ends w (delist q s.isOverlay) _ _
    rw [hover]
    exact hdelist
  | inputBox => exact .of_ok rfl ⟨h.erase_overlay hfree, .of_same rfl, fun _ => rfl⟩
  | label | bar => exact hdelist
  | textField =>
    have hlisten : Ends w (delistListener q)
        (fun _ w' => w' = { w with listeners := w.listeners.erase q }) (fun w' => w' = w) := ends_erase
    refine Ends.bind (hlisten.mono (fun _ _ hw => hw) fun w' hw => ?_) fun _ w' hw => ?_
    · subst hw
      exact .refl h
    have hloos : Loosens rule ids w w' := by
      subst hw
      exact ⟨h.of_same rfl fun r => by cases r <;> rfl, .of_same rfl, fun _ => rfl⟩
    exact (loosens_delist hloos.sound (hloos.unkept h hfree)).mono
      (fun _ _ hu => hloos.trans hu) fun _ hu => hloos.trans hu
  | scrollView s => exact absurd ⟨s, hp⟩ hlist
  | button | window | editorHelper => exact .of_ok rfl (.refl h)
  | combat c =>
    rw [hp, Part.gist_combat] at hk
    rcases hk with hk | hk <;> cases hk
  | _ =>
    rw [hp] at hk
    rcases hk with hk | hk <;> cases hk

lemma loosens_breakDownAll
    (hqs : ∀ q ∈ qs, (∃ g, w.gist? q = some g ∧ (g.isShown = true ∨ g.isWidget = true)) ∧
      ∀ k g, w.Relies ids k → w.gist? k = some g → q ∉ g.kept) :
    Ends w (qs.forM breakDown) (fun _ => Loosens rule ids w) (Loosens rule ids w) := by
  induction qs generalizing w with
  | nil => exact .pure (.refl h)
  | cons q qs ih =>
    obtain ⟨⟨g, hg, hk⟩, hfree⟩ := hqs q (.head _)
    refine Ends.bind (loosens_breakDown h hg hk hfree) fun _ w' hw => ?_
    refine (ih hw.sound fun q' hq' => ?_).mono (fun _ _ hu => hw.trans hu) fun _ hu => hw.trans hu
    obtain ⟨hgist, hfree'⟩ := hqs q' (.tail _ hq')
    exact ⟨(hw.gist q').symm ▸ hgist, hw.unkept h hfree'⟩

end

/-! ## Dialogues -/

lemma guards_closeDialogue (id : PartId) : Obeys (Guards rule ids) (closeDialogue id) := by
  intro w h
  suffices hends : Ends w (closeDialogue id) (fun _ => Loosens rule ids w) (Loosens rule ids w) from
    ⟨hends.snd.sound, hends.snd.stays⟩
  refine .look (obeys_dialogue id) (.refl h) fun d hrun => ?_
  obtain ⟨⟨o, ho, hd⟩, -⟩ := run_dialogue_eq_ok.1 hrun
  have hk : w.gist? id = some (.talk d.shown) := gist?_eq_some.2 ⟨o, ho, by rw [hd]; rfl⟩
  have hrest (w' : World) (hw : Loosens rule ids w w') :
      Ends w' (do deactivate id; d.shown.forM breakDown) (fun _ => Loosens rule ids w)
        (Loosens rule ids w) := by
    have hk' := (hw.gist id).trans hk
    have hnot : ¬ w'.Relies ids id :=
      hw.sound.not_relies hk' (hw.sound.notMem_of_gist hk' (fun h => h)) nofun
    refine Ends.bind ((loosens_deactivate hw.sound hnot).mono (fun _ _ hu => hw.trans hu)
      fun _ hu => hw.trans hu) fun _ u hu => ?_
    have hku := (hu.gist id).trans hk
    have hnotu : ¬ u.Relies ids id :=
      hu.sound.not_relies hku (hu.sound.notMem_of_gist hku (fun h => h)) nofun
    refine (loosens_breakDownAll hu.sound fun q hq => ?_).mono (fun _ _ hv => hu.trans hv)
      fun _ hv => hu.trans hv
    obtain ⟨g, hg, hshown⟩ := hu.sound.shown id _ hku q hq
    exact ⟨⟨g, hg, .inl hshown⟩, hu.sound.notMem_kept hku hq hnotu⟩
  split
  · refine .step rfl (hrest _ ⟨h.of_same (by rfl) fun r => by cases r <;> rfl, ?_, fun _ => rfl⟩)
    exact .of_same (by rfl)
  · exact hrest w (.refl h)

def Gathers {α : Type} (rule : Rule) (ids : List PartId) (w0 : World) (qs : List PartId)
    (g : Game α) : Prop :=
  ∀ w, Gathered w0 qs w → (g.runOn w).2.Sound rule ids ∧ Stays w0 (g.runOn w).2

section Gathers

variable {α β : Type}

lemma Obeys.of_gathers {g : Game α} (h : ∀ w0, w0.Sound rule ids → Gathers rule ids w0 [] g) :
    Obeys (Guards rule ids) g :=
  fun w hsound => h w hsound w ⟨.refl w, nofun, List.nodup_nil⟩

lemma Gathers.place (h : w0.Sound rule ids) {gist : Gist} {g : Game PartId}
    {f : PartId → Game β} (hg : Places gist g) (hshown : gist.isShown = true)
    (hf : ∀ q, Gathers rule ids w0 (q :: qs) (f q)) : Gathers rule ids w0 qs (g >>= f) := by
  intro w hw
  refine snd_run_bind (Q := fun u => u.Sound rule ids ∧ Stays w0 u) (hg.steady w) (fun u hu => ?_)
    fun q u hrun hu => ?_
  · have hst := hw.steady.trans hu
    exact ⟨h.of_steady hst, hst.stays⟩
  · obtain ⟨hnew, hlists, -⟩ := hg.made w u q hrun
    exact hf q u (hw.add hu hnew hlists.gist hshown)

lemma Gathers.open {f : PartId → Game β} (h : w0.Sound rule ids)
    (hd : qs.Nodup → d.shown.Nodup) (hqs : ∀ q ∈ d.shown, q ∈ qs) (hf : ∀ id, Obeys Steady (f id)) :
    Gathers rule ids w0 qs (newPart (.dialogue d) >>= f) := by
  intro w hw
  obtain ⟨hsound, hstays⟩ := hw.withPart h (hd hw.nodup) hqs
  have hst := hf ⟨w.parts.size⟩ (w.withPart (.dialogue d))
  exact ⟨hsound.of_steady hst, hstays.trans hst.stays⟩

end Gathers

lemma places_placeSprite (file : String) (x y : Scalar) :
    Places (.image true) (placeSprite file x y) := (crafts_newSprite file true).places x y

lemma crafts_newInputBox : Crafts .inputBox newInputBox := by
  refine (crafts_unlisted (by rfl) (by rfl) (by trivial) fun _ _ => ?_).before fun id => ?_
  · trivial
  · exact .bind (obeys_paint _) fun _ => .bind (obeys_enlist id true) fun _ => .pure id

lemma guards_buildTyped (script : Script) (npcName : Json) (left top : Scalar) :
    Obeys (Guards rule ids) (buildTyped script npcName left top) := by
  refine .of_gathers fun w0 h => .place h (places_placeSprite _ _ _) rfl fun background =>
    .place h (places_placeLabel _ _ _ _ _) rfl fun speaker =>
    .place h (places_placeLabel _ _ _ _ _) rfl fun content => ?_
  -- the box to type into is put where it belongs as the labels are
  have hbox (x y : Json) (rest : PartId → Game PartId) :
      (newInputBox >>= fun q => (placeParts [q] x y >>= fun _ => pure ()) >>= fun _ => rest q) =
        (newInputBox >>= fun q => placeParts [q] x y >>= fun _ => pure q) >>= rest := by
    simp only [bind_assoc, pure_bind]
  simp only [placePart]
  rw [hbox]
  refine .place h (crafts_newInputBox.places _ _) rfl fun inputBox =>
    .place h (places_placeLabel _ _ _ _ _) rfl fun inputLabel =>
    .place h (places_placeLabel _ _ _ _ _) rfl fun helper =>
    .open h (fun hnd => ?_) (by simp [Dialogue.shown]) fun id =>
      (obeys_same fun _ => by rfl).bind fun _ => (obeys_setTyping id false).bind fun _ =>
      .pure _
  simp only [Dialogue.shown]
  grind

lemma guards_buildStepped (script : Script) (npcName : Json) (left top : Scalar) :
    Obeys (Guards rule ids) (buildStepped script npcName left top) := by
  refine .of_gathers fun w0 h => .place h (places_placeSprite _ _ _) rfl fun background =>
    .place h (places_placeLabel _ _ _ _ _) rfl fun speaker =>
    .place h (places_placeLabel _ _ _ _ _) rfl fun content =>
    .place h (places_placeLabel _ _ _ _ _) rfl fun helper =>
    .open h (fun hnd => ?_) (by simp [Dialogue.shown]) fun id =>
      (obeys_same fun _ => by rfl).bind fun _ => .pure _
  simp only [Dialogue.shown]
  grind

/-! ## Inventories -/

/-- An inventory is still completely shown, and more of it perhaps. Nothing else changed that was
there, and what nobody keeps is still kept by nobody. -/
structure Displays (rule : Rule) (ids : List PartId) (v : PartId) (w w' : World) : Prop where
  sound : w'.Sound rule ids
  stays : Stays w w'
  rendered : w'.Rendered v
  free : ∀ q, w.Free q → w'.Free q
  overlay : ∀ q ∈ w.overlay, q.index < w.parts.size → q ∈ w'.overlay
  lasting : ∀ w0 : World, w0.parts.size ≤ v.index → Lasting w0 w → Lasting w0 w'

/-- Those in the area do not lose what they rely on, and an inventory stays completely shown. -/
def Renders (rule : Rule) (ids : List PartId) (v : PartId) (w w' : World) : Prop :=
  w.Sound rule ids → w.Rendered v → Displays rule ids v w w'

section Renders

variable {gist : Gist} {g : Game PartId}

lemma Displays.trans {w'' : World} (h : Displays rule ids v w w') (h' : Displays rule ids v w' w'') :
    Displays rule ids v w w'' where
  sound := h'.sound
  stays := h.stays.trans h'.stays
  rendered := h'.rendered
  free q hq := h'.free q (h.free q hq)
  overlay q hq hlt := h'.overlay q (h.overlay q hq hlt) (hlt.trans_le h.stays.parts_le)
  lasting w0 hv hw := h'.lasting w0 hv (h.lasting w0 hv hw)

instance : IsPreorder World (Renders rule ids v) where
  refl w h hv := ⟨h, .refl w, hv, fun _ hq => hq, fun _ hq _ => hq, fun _ _ hw => hw⟩
  trans _ _ _ h h' hsound hv :=
    have hdisp := h hsound hv
    hdisp.trans (h' hdisp.sound hdisp.rendered)

lemma Renders.of_steady {w : World} (hst : Steady w w') : Renders rule ids v w w' :=
  fun h hv => ⟨h.of_steady hst, hst.stays, hv.of_lasting h.toTied hst.toLasting,
    fun _ hq => hq.of_steady h.toTied hst, hst.overlay,
    fun _ _ hw => hw.trans hst.toLasting⟩

instance : Allows Steady (Renders rule ids v) := ⟨fun _ _ => .of_steady⟩

lemma Places.free (hg : Places gist g)
    (hshown : gist.isShown = true) (hlisted : ∀ w q, gist.Listed w q → q ∈ w.overlay)
    (hrun : g.runOn w = (.ok q, w')) (h : w.Tied) : w'.Free q ∧ q ∈ w'.overlay := by
  obtain ⟨hnew, hlists, -⟩ := hg.made w w' q hrun
  exact ⟨h.free_of_new (hg.steady.of_run hrun) hnew hlists.gist hshown, hlisted w' q hlists.listed⟩

lemma Displays.show (h : Displays rule ids v w u)
    (hnew : w.parts.size ≤ q.index) (hfree : u.Free q) (hover : q ∈ u.overlay) :
    Displays rule ids v w ((showInView v q).runOn u).2 := by
  obtain ⟨hsound, hstays, hrendered⟩ := h.rendered.adopt h.sound hfree hover
  refine ⟨hsound, h.stays.trans hstays, hrendered, fun q' hq' => ?_, h.overlay,
    fun w0 hw0 hw => (h.lasting w0 hw0 hw).altered_new hw0 (added q)⟩
  obtain ⟨g, hg, -⟩ := hq'.shown
  have hne : q' ≠ q := fun heq => hnew.not_gt (heq ▸ lt_of_gist? hg)
  exact (h.free q' hq').altered h.rendered hne

section

variable (hg : Places gist g) (hshown : gist.isShown = true)
  (hlisted : ∀ w q, gist.Listed w q → q ∈ w.overlay)
include hg hshown hlisted

lemma renders_showNew : Obeys (Renders rule ids v) (g >>= showInView v) := by
  intro w h hv
  refine snd_run_bind (Renders.of_steady (hg.steady w) h hv) (fun _ hu => hu)
    fun q u hrun hu => ?_
  obtain ⟨hfree, hover⟩ := hg.free hshown hlisted hrun h.toTied
  exact hu.show (hg.made w u q hrun).1 hfree hover

lemma renders_showBoth {gist' : Gist} {g' : Game PartId} {c : Except Fault Bool} (hg' : Places gist' g')
    (hshown' : gist'.isShown = true) (hlisted' : ∀ w q, gist'.Listed w q → q ∈ w.overlay) :
    Obeys (Renders rule ids v) (do
      let q ← g
      if ← c then showInView v (← g')
      showInView v q) := by
  rcases c with fault | _ | _
  · exact hg.steady.allow.bind fun q => .throw fault
  · exact renders_showNew hg hshown hlisted
  intro w h hv
  refine snd_run_bind (Renders.of_steady (hg.steady w) h hv) (fun _ hu => hu)
    fun q u hrun hu => ?_
  obtain ⟨hfree, hover⟩ := hg.free hshown hlisted hrun h.toTied
  change Displays rule ids v w
    ((g' >>= fun q' => showInView v q' >>= fun _ => showInView v q).runOn u).2
  rw [← bind_assoc]
  have hbetween : Obeys (Renders rule ids v) (g' >>= showInView v) :=
    renders_showNew hg' hshown' hlisted'
  refine snd_run_bind (hbetween u hu.sound hu.rendered) (fun _ hu' => hu.trans hu')
    fun _ u' _ hu' => ?_
  obtain ⟨g, hq, -⟩ := hfree.shown
  exact (hu.trans hu').show (hg.made w u q hrun).1 (hu'.free q hfree)
    (hu'.overlay q hover (lt_of_gist? hq))

end

end Renders

lemma renders_renderSlot (v : PartId) (view : InventoryView) (equipped? : Option Json)
    (slot : Slot) (index : Nat) :
    Obeys (Renders rule ids v) (renderSlot v view equipped? slot index) := by
  refine .lifts fun file => ?_
  rw [← bind_assoc]
  refine (renders_showNew (places_placeSprite _ _ _) rfl fun _ _ h => h).bind fun _ => ?_
  cases slot.item? with
  | none => exact .pure _
  | some t =>
    exact renders_showBoth (places_placeSprite _ _ _) rfl (fun _ _ h => h)
      (places_placeLabel _ _ _ _ _) rfl fun _ _ h => h

lemma renders_renderView (v : PartId) : Obeys (Renders rule ids v) (renderView v) := by
  exact (obeys_requires v _).bind fun _ => (obeys_bagView v).bind fun view =>
    (obeys_bag _).bind fun _ => .forM (fun (slot, index) => renders_renderSlot v view _ slot index) _

lemma run_bagView_eq_ok {v : PartId} {view : InventoryView} :
    (bagView v).runOn w = (.ok view, u) ↔
      (∃ o, w.parts[v.index]? = some o ∧ o.part = .inventoryView view) ∧ u = w :=
  run_part_bind_eq_ok fun p view w u => by cases p <;> simp [eq_comm]

lemma loosens_delistAll (h : w.Sound rule ids)
    (hqs : ∀ q ∈ qs, ∀ k g, w.Relies ids k → w.gist? k = some g → q ∉ g.kept) :
    Ends w (qs.forM fun q => delist q true) (fun _ => Loosens rule ids w) (Loosens rule ids w) := by
  induction qs generalizing w with
  | nil => exact .pure (.refl h)
  | cons q qs ih =>
    refine Ends.bind (loosens_delist h (hqs q (.head _))) fun _ w' hw => ?_
    exact (ih hw.sound fun q' hq' => hw.unkept h (hqs q' (.tail _ hq'))).mono
      (fun _ _ hu => hw.trans hu) fun _ hu => hw.trans hu

lemma ends_clearView (h : w.Sound rule ids) (v : PartId) :
    Ends w (clearView v) (fun _ w' => w'.Sound rule ids ∧ Stays w w' ∧ w'.Rendered v)
      (fun w' => w'.Sound rule ids ∧ Stays w w') := by
  by_cases hview : ∃ o view, w.parts[v.index]? = some o ∧ o.part = .inventoryView view
  swap
  · refine .look (obeys_requires v _) ⟨h, .refl w⟩ fun _ _ => .look (obeys_bagView v) ⟨h, .refl w⟩
      fun view hrun => ?_
    obtain ⟨⟨o, ho, hp⟩, -⟩ := run_bagView_eq_ok.1 hrun
    exact absurd ⟨o, view, ho, hp⟩ hview
  obtain ⟨o, view, ho, hview⟩ := hview
  have hv : w.gist? v = some (.view view.items) := gist?_eq_some.2 ⟨o, ho, by rw [hview]; rfl⟩
  have hlost := (h.able _ o ho).lost
  have hunset (u : World) (hu : u.gist? v = w.gist? v) (g : Gist) (hg : u.gist? v = some g) :
      g.isSettled = false := by
    cases (hu.trans hv).symm.trans hg
    rfl
  by_cases hrel : w.Relies ids v
  · have hits := h.overlay_of_relies hv hrel
    refine .of_ok (run_clearView ho hview hlost hits (h.distinct v _ hv))
      ⟨h.unshown ho hview, .trans (.altered (hunset w rfl)) (.of_same rfl), [], ?_, nofun⟩
    exact (gist?_altered_self ho blanked).trans (by rw [hview]; rfl)
  · refine .step (run_requires ho hlost _) (.step (run_bagView_eq_ok.2 ⟨⟨o, ho, hview⟩, rfl⟩) ?_)
    refine Ends.bind ((loosens_delistAll h fun q hq => h.notMem_kept hv hq hrel).mono
      (fun _ _ hw => hw) fun _ hw => ⟨hw.sound, hw.stays⟩) fun _ w' hw => ?_
    obtain ⟨o', view', ho', hview', -⟩ := inventoryView_of_gist ((hw.gist v).trans hv)
    refine .of_ok (u := w'.altered v blanked) rfl ⟨hw.sound.setView ho' hview' List.nodup_nil nofun rfl,
      hw.stays.trans (.altered (hunset w' (hw.gist v))), [], ?_, nofun⟩
    exact (gist?_altered_self ho' blanked).trans (by rw [hview']; rfl)

lemma guards_refreshView (v : PartId) : Obeys (Guards rule ids) (refreshView v) := by
  intro w h
  suffices hends : Ends w (refreshView v) (fun _ w' => w'.Sound rule ids ∧ Stays w w')
      (fun w' => w'.Sound rule ids ∧ Stays w w') from hends.snd
  refine .look (obeys_requires v _) ⟨h, .refl w⟩ fun _ _ =>
    Ends.bind (ends_clearView h v) fun _ w' hw => ?_
  obtain ⟨hsound, hstays, hv⟩ := hw
  refine .of_obeys (R := Renders rule ids v) (renders_renderView v) (fun _ u hu => ?_) fun u hu => ?_
  all_goals
    have hdisp := hu hsound hv
    exact ⟨hdisp.sound, hstays.trans hdisp.stays⟩

lemma ends_newBagView (h : w.Sound rule ids) (b : BagId) : Ends w (newBagView b)
      (fun v w' => w'.Sound rule ids ∧ Stays w w' ∧ Lasting w w' ∧ (∀ q, w.Free q → w'.Free q) ∧
        w'.Rendered v ∧ v ∈ w'.active) (fun w' => w'.Sound rule ids ∧ Stays w w') := by
  refine .look (obeys_bag b) ⟨h, .refl w⟩ fun bag _ => .step (run_get w) ?_
  let v : PartId := ⟨w.parts.size⟩
  let view : Part := .inventoryView
    { bag := b, window := bagWindow w.camera bag.inventory.capacity }
  have hpush : Steady w (w.withPart view) := .push_part rfl trivial
  have hsound : (w.withPart view).Sound rule ids := h.of_steady hpush
  have hv : (w.withPart view).Rendered v := ⟨[], gist?_withPart_self w view, nofun⟩
  refine .step (u := w.withPart view) rfl ?_
  -- whatever of the rest is done, the inventory stays complete
  have hf (u : World) (hu : Renders rule ids v (w.withPart view) u) :
      u.Sound rule ids ∧ Stays w u :=
    ⟨(hu hsound hv).sound, hpush.stays.trans (hu hsound hv).stays⟩
  have hshown : Obeys (Renders rule ids v) (do
      modifyBag b ({ · with viewer? := some v })
      renderView v) := (obeys_modifyBag b _).bind fun _ => renders_renderView v
  rw [← bind_assoc]
  refine Ends.bind (.of_obeys hshown (fun _ _ hu => hu) hf) fun _ u hu => ?_
  have hdisp := (hu hsound hv).trans
    (Renders.of_steady (obeys_activate v u) (hu hsound hv).sound (hu hsound hv).rendered)
  exact .of_ok rfl ⟨hdisp.sound, hpush.stays.trans hdisp.stays,
    hdisp.lasting w le_rfl hpush.toLasting,
    fun q hq => hdisp.free q (hq.of_steady h.toTied hpush), hdisp.rendered, by simp⟩

end Game

end TileQuest
