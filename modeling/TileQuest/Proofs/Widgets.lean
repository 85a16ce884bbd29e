import TileQuest.Proofs.Bodies.Lifecycle
import TileQuest.Stage.Scenes

/-!
# Making what is on the screen

Labels, buttons, lists and text fields are made of parts that are tied to nothing, in entities of
their own. So making them disturbs nothing (`World.Steady`), and neither does building the menu,
the choice of a map or the demonstration.
-/

namespace TileQuest

variable {w w' w0 : World} {gist : Gist} {α β : Type} {ids : List PartId}

namespace World

variable {p : PartId} {e : EntityId}

/-! ## Parts and entities that were not there before -/

lemma Steady.erase_overlay (h : Steady w w') (hp : w.parts.size ≤ p.index) :
    Steady w { w' with overlay := w'.overlay.erase p } :=
  { h with
    overlay := fun q hq hlt => by
      have hne : q ≠ p := fun heq => hp.not_gt (heq ▸ hlt)
      exact (List.mem_erase_of_ne hne).2 (h.overlay q hq hlt) }

/-- The part belongs to an entity that was not there before. -/
def IsNewcomers (w0 w : World) (p : PartId) : Prop :=
  ∃ e : EntityId, w0.entities.size ≤ e.index ∧ w.ownerOf? p = some e

lemma IsNewcomers.of_steady (h : IsNewcomers w0 w p) (hst : Steady w w') :
    IsNewcomers w0 w' p := by
  obtain ⟨e, he, hown⟩ := h
  exact ⟨e, he, hst.ownerOf?_some hown⟩

lemma Lasting.modifyNew (h : Lasting w w') (he : w.entities.size ≤ e.index)
    (f : Entity → Entity) : Lasting w { w' with entities := w'.entities.modify e.index f } :=
  { h with
    entities_le := by simpa using h.entities_le
    entity := fun i hi => (getElem?_modify_of_lt he hi).trans (h.entity i hi) }

lemma Steady.moveNew (h : Steady w w') (he : w.entities.size ≤ e.index)
    {f : Entity → Entity} (hf : ∀ en, (f en).parts = en.parts) :
    Steady w { w' with entities := w'.entities.modify e.index f } :=
  { h.toLasting.modifyNew he f with
    able := h.able
    plain := h.plain
    newEntity := fun i en hi hen p hp => by
      obtain ⟨en0, hen0, rfl | rfl⟩ := exists_of_getElem?_modify hen
      · exact h.newEntity i en hi hen0 p hp
      · exact h.newEntity i en0 hi hen0 p (hf en0 ▸ hp)
    frame := h.frame }

def attached (w : World) (e : EntityId) (p : PartId) : World :=
  { w.withOwner p (some e) with
    entities := w.entities.modify e.index fun en => { en with parts := en.parts ++ [p] } }

lemma Lasting.attached (h : Lasting w w') (he : w.entities.size ≤ e.index)
    (hp : w.parts.size ≤ p.index) : Lasting w (w'.attached e p) :=
  { h with
    parts_le := by simpa [World.attached, World.withOwner] using h.parts_le
    entities_le := by simpa [World.attached] using h.entities_le
    essence := fun i hi =>
      (congrArg (Option.map _) (getElem?_modify_of_lt hp hi)).trans (h.essence i hi)
    entity := fun i hi => (getElem?_modify_of_lt he hi).trans (h.entity i hi) }

lemma Steady.attached (h : Steady w w') (he : w.entities.size ≤ e.index)
    (hloose : Loose w w' [p]) : Steady w (w'.attached e p) := by
  obtain ⟨⟨hnew, hth⟩, hnob⟩ := hloose p (.head _)
  refine { h.toLasting.attached he hnew with
    able := fun i o' ho' hable => ?_
    plain := fun i o' hi ho' => ?_
    newEntity := fun i en hi hen q hq => ?_
    frame := h.frame }
  · obtain ⟨o, ho, rfl | rfl⟩ := exists_of_getElem?_modify ho'
    · exact h.able i o' ho hable
    · exact ⟨(h.able i o ho hable).lost, (h.able i o ho hable).fit⟩
  · obtain ⟨o, ho, rfl | rfl⟩ := exists_of_getElem?_modify ho'
    · exact h.plain i o' hi ho
    · exact h.plain i o hi ho
  · -- whoever was in the entity before is somebody else
    have hold (en0 : Entity) (hen0 : w'.entities[i]? = some en0) (hq : q ∈ en0.parts) :
        w.parts.size ≤ q.index ∧ (w'.attached e p).ownerOf? q = some ⟨i⟩ := by
      obtain ⟨hq', hown⟩ := h.newEntity i en0 hi hen0 q hq
      have hne : q ≠ p := fun heq => by
        rw [heq, hnob] at hown
        cases hown
      exact ⟨hq', (ownerOf?_withOwner_of_ne hne _).trans hown⟩
    change (w'.entities.modify e.index _)[i]? = some en at hen
    rw [Array.getElem?_modify] at hen
    split at hen
    · rename_i hei
      obtain ⟨en0, hen0, rfl⟩ := Option.map_eq_some_iff.1 hen
      rcases List.mem_append.1 hq with hq | hq
      · exact hold en0 hen0 hq
      · rw [List.mem_singleton] at hq
        subst hq
        subst hei
        exact ⟨hnew, ownerOf?_withOwner_self hth _⟩
    · exact hold en hen hq

end World

/-! ## Registers -/

/-- The part is in the register of the screen, or of what acts, in which parts of its sort are. -/
def Gist.Listed (w : World) (p : PartId) : Gist → Prop
  | .image isOverlay => p ∈ if isOverlay then w.overlay else w.drawn
  | .line => p ∈ w.overlay
  | .view _ => p ∈ w.active
  | .fighter .. => p ∈ w.active
  | .player .. => p ∈ w.active
  | .enemy .. => p ∈ w.active
  | _ => True

/-- The part is of a sort, and registered as such. -/
structure World.Lists (w : World) (p : PartId) (g : Gist) : Prop where
  gist : w.gist? p = some g
  listed : g.Listed w p

lemma World.Lists.of_screen {p : PartId} {g : Gist} (hg : w'.gist? p = some g)
    (hlist : g.Listed w p) (hscrn : w'.screen = w.screen) : w'.Lists p g := by
  simp only [screen, Prod.mk.injEq] at hscrn
  obtain ⟨hact, hdrawn, hlay⟩ := hscrn
  refine ⟨hg, ?_⟩
  cases g <;> simpa only [Gist.Listed, hact, hdrawn, hlay] using hlist

lemma World.Lists.of_lasting {p : PartId} {g : Gist} (h : w.Lists p g)
    (hlast : w.Lasting w') : w'.Lists p g := by
  have hlt := lt_of_gist? h.gist
  refine ⟨hlast.gist?_some h.gist, ?_⟩
  have hlist := h.listed
  cases g with
  | image isOverlay =>
    cases isOverlay with
    | true => exact hlast.overlay p hlist hlt
    | false => exact hlast.drawn p hlist hlt
  | line => exact hlast.overlay p hlist hlt
  | view | fighter | player | enemy => exact hlast.active p hlist hlt
  | _ => trivial

namespace Game

open World

/-! ## Making parts -/

/-- The step disturbs nothing, and the part that it gives is new, belongs to nobody, and is
registered as a part of its sort. -/
structure Crafts (gist : Gist) (g : Game PartId) : Prop where
  steady : Obeys Steady g
  made : ∀ w w' id, g.runOn w = (.ok id, w') → Loose w w' [id] ∧ w'.Lists id gist

/-- The step disturbs nothing and gives nothing but one part. -/
structure Passes (id : PartId) (g : Game PartId) : Prop where
  steady : Obeys Steady g
  gives : ∀ w w' id', g.runOn w = (.ok id', w') → id' = id

lemma Passes.pure (id : PartId) : Passes id (pure id) :=
  ⟨.pure _, fun _ _ _ hrun => by cases hrun; rfl⟩

lemma Passes.bind {α : Type} {id : PartId} {x : Game α} {f : α → Game PartId}
    (hx : Obeys Steady x) (hf : ∀ a, Passes id (f a)) : Passes id (x >>= f) where
  steady := hx.bind fun a => (hf a).steady
  gives w w' id' hrun := by
    obtain ⟨a, u, -, hrun⟩ := run_bind_eq_ok.1 hrun
    exact (hf a).gives u w' id' hrun

section Crafts

variable {g : Game PartId}

lemma Crafts.after {x : Game α} {f : α → Game PartId} (hx : Obeys Steady x)
    (hf : ∀ a, Crafts gist (f a)) : Crafts gist (x >>= f) where
  steady := hx.bind fun a => (hf a).steady
  made w w' id hrun := by
    obtain ⟨a, u, hrun', hrun⟩ := run_bind_eq_ok.1 hrun
    obtain ⟨hloose, hlists⟩ := (hf a).made u w' id hrun
    refine ⟨fun p hp => ?_, hlists⟩
    obtain ⟨⟨hnew, hth⟩, hnob⟩ := hloose p hp
    exact ⟨⟨(hx.of_run hrun').parts_le.trans hnew, hth⟩, hnob⟩

lemma Crafts.before {f : PartId → Game PartId} (hg : Crafts gist g)
    (hf : ∀ id, Passes id (f id)) : Crafts gist (g >>= f) where
  steady := hg.steady.bind fun id => (hf id).steady
  made w w' id' hrun := by
    obtain ⟨id, u, hrun', hrun⟩ := run_bind_eq_ok.1 hrun
    obtain ⟨hloose, hlists⟩ := hg.made w u id hrun'
    have hid : id' = id := (hf id).gives u w' id' hrun
    subst hid
    have hst := (hf id').steady.of_run hrun
    exact ⟨hloose.of_lasting hst.toLasting, hlists.of_lasting hst.toLasting⟩

lemma Crafts.bind {f : PartId → Game α} (hg : Crafts gist g)
    (hf : ∀ w u id, Steady w u → Loose w u [id] → u.Lists id gist →
      Steady w ((f id).runOn u).2) : Obeys Steady (g >>= f) := by
  intro w
  refine snd_run_bind (hg.steady w) (fun _ hu => hu) fun id u hrun hu => ?_
  obtain ⟨hloose, hlists⟩ := hg.made w u id hrun
  exact hf w u id hu hloose hlists

lemma Crafts.fresh (hg : Crafts gist g) : Fresh g := by
  intro w w' id hrun
  have h := (hg.made w w' id hrun).1
  exact ⟨fun p hp => (h p hp).1, (h id (.head _)).2⟩

lemma crafts_throw (fault : Fault) : Crafts gist (throw fault) :=
  ⟨.throw _, fun _ _ _ hrun => nomatch hrun⟩

lemma crafts_unlisted {p : Part} (hg : p.gist = gist) (hp : gist.isPlain = true)
    (hfit : p.Fit) (hlist : ∀ w id, gist.Listed w id) : Crafts gist (newPart p) where
  steady := obeys_newPart (hg ▸ hp) hfit
  made w w' id hrun := by
    refine ⟨(fresh_newPart p).loose hrun, ?_, hlist _ _⟩
    cases hrun
    simp [gist?, hg]

lemma crafts_newPart {p : Part} (hg : p.gist = gist) (hp : gist.isPlain = true) (hfit : p.Fit)
    {f : PartId → Game PUnit} (hf : ∀ id, Obeys Steady (f id))
    (hlist : ∀ w w' id, (f id).runOn w = (.ok ⟨⟩, w') → gist.Listed w' id) :
    Crafts gist (newPart p >>= fun id => f id >>= fun _ => pure id) where
  steady := (obeys_newPart (hg ▸ hp) hfit).bind fun id => (hf id).bind fun _ => .pure _
  made w w' id hrun := by
    obtain ⟨id', u, hrun', hrun⟩ := run_bind_eq_ok.1 hrun
    obtain ⟨_, v, hrest, hrun⟩ := run_bind_eq_ok.1 hrun
    cases hrun
    have hst : Steady u w' := (hf id).of_run hrest
    have hid : u.gist? id = some gist := by
      cases hrun'
      simp [gist?, hg]
    exact ⟨((fresh_newPart p).loose hrun').of_lasting hst.toLasting, hst.gist?_some hid,
      hlist u w' id hrest⟩

end Crafts

variable {id : PartId} {g : Gist}

lemma listed_enlist {isOverlay : Bool}
    (hrun : (enlist id isOverlay).runOn w = (.ok ⟨⟩, w')) :
    id ∈ if isOverlay then w'.overlay else w'.drawn := by
  cases isOverlay with
  | true | false =>
    cases hrun
    exact List.mem_append_right _ (.head _)

lemma crafts_newSprite (file : String) (isOverlay : Bool) :
    Crafts (.image isOverlay) (newSprite file isOverlay) := by
  refine .after (obeys_loadImage file) fun image => ?_
  refine crafts_newPart (by rfl) (by rfl) (by trivial) (fun id => obeys_enlist id isOverlay) ?_
  exact fun _ _ _ hrun => listed_enlist hrun

lemma crafts_newLabel (font : String) (text size : Json) :
    Crafts .line (newLabel font text size) := by
  refine .after (obeys_firstLabel font text size) fun label => ?_
  refine crafts_newPart (by rfl) (by rfl) (by trivial) (fun id => obeys_enlist id true) ?_
  exact fun _ _ _ hrun => listed_enlist hrun

lemma crafts_newBar (max width height : Json) : Crafts .line (newBar max width height) := by
  refine crafts_newPart (by rfl) (by rfl) (by trivial) (fun id => obeys_enlist id true) ?_
  exact fun _ _ _ hrun => listed_enlist hrun

lemma crafts_newButton (action : Action) (area : Rect) :
    Crafts .other (newButton action area) := by
  refine (crafts_unlisted (by rfl) (by rfl) (by trivial) fun _ _ => ?_).before fun id => ?_
  · trivial
  · exact .bind (obeys_activate id) fun _ => .pure id

lemma crafts_newEditorHelper (onClick : Action) : Crafts .other (newEditorHelper onClick) := by
  refine (crafts_unlisted (by rfl) (by rfl) (by trivial) fun _ _ => ?_).before fun id => ?_
  · trivial
  · exact .bind (obeys_activate id) fun _ => .pure id

lemma crafts_newList (s : ScrollView) : Crafts .list (newList s) := by
  refine .after (obeys_paint _) fun _ =>
    (crafts_unlisted (by rfl) (by rfl) (by trivial) fun _ _ => ?_).before fun id => ?_
  · trivial
  · exact .bind (obeys_activate id) fun _ => .bind (obeys_enlist id true) fun _ => .pure id

lemma crafts_newTextField (spec : FieldSpec) : Crafts .field (newTextField spec) := by
  refine .after (obeys_firstLabel _ _ _) fun label =>
    (crafts_unlisted (by rfl) (by rfl) (by trivial) fun _ _ => ?_).before fun id => ?_
  · trivial
  · exact .bind (obeys_enlist id true) fun _ => .bind (obeys_enlistListener id) fun _ =>
      .bind (obeys_activate id) fun _ => .bind (.lift _) fun _ => .bind (.lift _) fun _ => .bind (.lift _) fun _ =>
      .bind (obeys_modifyField id _) fun _ => .bind (.lift _) fun _ => .bind (.lift _) fun _ =>
      .bind (obeys_paint _) fun _ => .bind (.lift _) fun _ => .bind (.lift _) fun _ => .bind (.lift _) fun _ =>
      .bind (obeys_paint _) fun _ => .pure id

lemma crafts_newSheet (file cellWidth cellHeight column row : Json) (isOverlay : Bool)
    (animation? : Option Animation) : Crafts (.image isOverlay)
      (newSheet file cellWidth cellHeight column row isOverlay animation?) :=
  .after (.lift _) fun name => (crafts_newSprite name isOverlay).before fun id =>
    .bind (obeys_sprite id) fun _ => .bind (.lift _) fun _ =>
    .bind (obeys_modifySprite id fun _ => by rfl) fun _ =>
    .bind (obeys_showCell id column row) fun _ => .pure id

lemma crafts_newAnimation (file cellWidth cellHeight frames framesPerImage : Json)
    (isOverlay : Bool) : Crafts (.image isOverlay)
      (newAnimation file cellWidth cellHeight frames framesPerImage isOverlay) := by
  refine .after (.lift _) fun count => ?_
  split
  · exact crafts_throw _
  · exact .after (.lift _) fun cell => (crafts_newSheet file _ _ _ _ isOverlay _).before fun id =>
      .bind (obeys_activate id) fun _ => .pure id

/-! ## Entities of parts that need no setting up, or of lists -/

lemma steady_setUpItem (id : PartId) (s : ScrollView) (item : Json) (index : Nat) :
    Obeys Steady (do
      let child ← newListItem s item
      let e ← placeParts [child] (.ofInt ScrollView.padding) (← s.itemSize.times index)
      takeIntoList id child e) := by
  have hcraft : ∃ gist, Crafts gist (newListItem s item) := by
    rw [newListItem]
    split
    · exact ⟨_, .after (.lift _) fun name => (crafts_newSprite name true).before fun id =>
        .bind (obeys_modifySprite id fun _ => by rfl) fun _ => .pure id⟩
    · exact ⟨_, crafts_newLabel _ _ _⟩
  obtain ⟨gist, hcraft⟩ := hcraft
  refine hcraft.bind fun w u child hu hloose _ => ?_
  rcases hy : s.itemSize.times index with fault | y
  · exact hu
  have hnew := (hloose child (.head _)).1.1
  have htaken (v : World) (e : EntityId) :
      Steady { v with overlay := v.overlay.erase child } ((takeIntoList id child e).runOn v).2 := by
    rw [takeIntoList, run_modify_bind]
    exact obeys_modifyPart_of_gist id (fun p => by cases p <;> exact ⟨rfl, fun h => h⟩) _
  rw [run_lift_bind rfl, bind_ok (run_placeParts u [child] _ y)]
  exact ((hu.placed hloose _ y).erase_overlay hnew).trans (htaken _ _)

lemma steady_setUpList (id : PartId) (s : ScrollView) : Obeys Steady (setUpList id s) :=
  .lifts fun _ => .forM (fun (item, index) => steady_setUpItem id s item index) _

lemma steady_setUp (hid : w.gist? id = some g)
    (hg : g.isQuiet = true) : Steady w ((setUp id).runOn w).2 := by
  obtain ⟨o, ho, rfl⟩ := gist?_eq_some.1 hid
  rw [setUp, bind_ok (run_part ho)]
  cases hp : o.part with
  | scrollView s => exact steady_setUpList id s w
  | player | enemy | placeholder | probe => rw [hp] at hg; cases hg
  | _ => exact Steady.refl w

lemma steady_setUpAll (hquiet : ∀ p ∈ ids, ∃ g, w.gist? p = some g ∧ g.isQuiet = true) :
    Steady w ((ids.forM setUp).runOn w).2 := by
  induction ids generalizing w with
  | nil => exact Steady.refl w
  | cons p ids ih =>
    obtain ⟨g, hp, hg⟩ := hquiet p (.head _)
    rw [run_forM_cons]
    refine snd_run_bind (steady_setUp hp hg) (fun _ hu => hu) fun _ u _ hu => hu.trans (ih ?_)
    intro q hq
    obtain ⟨g, hq, hg⟩ := hquiet q (.tail _ hq)
    exact ⟨g, hu.gist?_some hq, hg⟩

/-- Nothing was disturbed since an earlier world, and some parts were made that belong to nobody yet
and will be easy to set up. -/
structure Hand (w0 : World) (ids : List PartId) (w : World) : Prop where
  steady : Steady w0 w
  loose : Loose w0 w ids
  quiet : ∀ p ∈ ids, ∃ g, w.gist? p = some g ∧ g.isQuiet = true

lemma Hand.of_steady (h : Hand w0 ids w) (hst : Steady w w') : Hand w0 ids w' where
  steady := h.steady.trans hst
  loose := h.loose.of_lasting hst.toLasting
  quiet p hp := by
    obtain ⟨g, hgist, hg⟩ := h.quiet p hp
    exact ⟨g, hst.gist?_some hgist, hg⟩

lemma Hand.add (h : Hand w0 ids w) (hst : Steady w w') (hloose : Loose w w' [id])
    (hlists : w'.Lists id g) (hg : g.isQuiet = true) : Hand w0 (id :: ids) w' := by
  have hids := h.of_steady hst
  refine ⟨hids.steady, fun p hp => ?_, fun p hp => ?_⟩
  · rcases List.mem_cons.1 hp with rfl | hp
    · obtain ⟨⟨hnew, hth⟩, hnob⟩ := hloose p (.head _)
      exact ⟨⟨h.steady.parts_le.trans hnew, hth⟩, hnob⟩
    · exact hids.loose p hp
  · rcases List.mem_cons.1 hp with rfl | hp
    · exact ⟨g, hlists.gist, hg⟩
    · exact hids.quiet p hp

/-- With the parts made so far, the step disturbs nothing. -/
def Handles {α : Type} (w0 : World) (ids : List PartId) (g : Game α) : Prop :=
  ∀ w, Hand w0 ids w → Steady w0 (g.runOn w).2

section Handles

variable {ids' : List PartId}

lemma Obeys.of_handles {g : Game α} (h : ∀ w0, Handles w0 [] g) : Obeys Steady g :=
  fun w => h w w ⟨.refl w, nofun, nofun⟩

lemma Handles.bind {g : Game α} {f : α → Game β} (hg : Obeys Steady g)
    (hf : ∀ a, Handles w0 ids (f a)) : Handles w0 ids (g >>= f) := by
  intro w h
  exact snd_run_bind (h.of_steady (hg w)) (fun _ hu => hu.steady) fun a u _ hu => hf a u hu

lemma Handles.part {g : Game PartId} {f : PartId → Game β} (hg : Crafts gist g)
    (hquiet : gist.isQuiet = true) (hf : ∀ id, Handles w0 (id :: ids) (f id)) :
    Handles w0 ids (g >>= f) := by
  intro w h
  refine snd_run_bind (hg.steady w) (fun _ hu => h.steady.trans hu) fun id u hrun hu => ?_
  obtain ⟨hloose, hlists⟩ := hg.made w u id hrun
  exact hf id u (h.add hu hloose hlists hquiet)

lemma Handles.then {g : Game α} {f : α → Game β} (hg : Handles w0 ids g)
    (hf : ∀ a, Obeys Steady (f a)) : Handles w0 ids (g >>= f) :=
  fun w h => snd_run_bind (hg w h) (fun _ hu => hu) fun a u _ hu => hu.trans (hf a u)

lemma Handles.place {x y : Json} (hids : ∀ p ∈ ids', p ∈ ids) :
    Handles w0 ids (placeParts ids' x y) := by
  intro w h
  rw [run_placeParts]
  exact h.steady.placed (fun p hp => h.loose p (hids p hp)) x y

lemma Handles.spawn {x y : Json} (hids : ∀ p ∈ ids', p ∈ ids) :
    Handles w0 ids (spawn ids' x y) := by
  intro w h
  rw [Game.spawn, bind_ok (run_placeParts w ids' x y), snd_run_bind_pure]
  refine (h.steady.placed (fun p hp => h.loose p (hids p hp)) x y).trans
    (steady_setUpAll fun p hp => ?_)
  obtain ⟨g, hgist, hg⟩ := h.quiet p (hids p hp)
  exact ⟨g, (gist?_given _ _ _ p).trans hgist, hg⟩

end Handles

/-! ## Parts in entities of their own -/

lemma Lists.placed {w : World} {g : Gist} {p : PartId} (h : w.Lists p g) (ids : List PartId)
    (x y : Json) : (w.placed ids x y).Lists p g :=
  .of_screen ((gist?_given _ ids _ p).trans h.gist) h.listed rfl

/-- The step disturbs nothing, and the part that it gives is new, the only one of a new entity, and
registered as a part of its sort. -/
structure Places (gist : Gist) (g : Game PartId) : Prop where
  steady : Obeys Steady g
  made : ∀ w w' id, g.runOn w = (.ok id, w') → w.parts.size ≤ id.index ∧ w'.Lists id gist ∧
    ∃ e : EntityId, w.entities.size ≤ e.index ∧ e.index < w'.entities.size ∧
      w'.ownerOf? id = some e ∧ w'.partsOf e = [id]

lemma Crafts.places {g : Game PartId} (hg : Crafts gist g) (x y : Json) :
    Places gist (g >>= fun id => placeParts [id] x y >>= fun _ => pure id) where
  steady := steady_placeNew hg.steady hg.fresh fun _ _ => .pure _
  made w w' id hrun := by
    obtain ⟨id', u, hrun', hrun⟩ := run_bind_eq_ok.1 hrun
    rw [bind_ok (run_placeParts u [id'] x y)] at hrun
    cases hrun
    obtain ⟨hloose, hlists⟩ := hg.made w u id hrun'
    obtain ⟨⟨hnew, hth⟩, -⟩ := hloose id (.head _)
    refine ⟨hnew, Lists.placed hlists _ x y, ⟨u.entities.size⟩,
      (hg.steady.of_run hrun').entities_le, ?_, ?_, partsOf_placed u [id] x y⟩
    · simp [placed, given]
    · exact ownerOf?_given _ _ (.head _) hth

lemma places_placeLabel (font text : String) (size : Nat) (x y : Scalar) :
    Places .line (placeLabel font text size x y) := (crafts_newLabel font _ _).places x y

/-! ## Widgets -/

section Widgets

variable {R : World → World → Prop} [Allows Steady R]

lemma obeys_placeLabelButton (action : Action) (font : String) (text size x y : Json) :
    Obeys R (placeLabelButton action font text size x y) :=
  .allow (.of_handles fun _ => .part (crafts_newLabel font text size) rfl fun label =>
    .bind (obeys_bounds label) fun _ => .part (crafts_newButton action _) rfl fun _ =>
    .spawn (by simp))

lemma obeys_placeList (s : ScrollView) (x y : Scalar) : Obeys R (placeList s x y) :=
  .allow (.of_handles fun _ => .part (crafts_newList s) rfl fun _ => .spawn (by simp))

lemma obeys_placeTextField (spec : FieldSpec) (x y : Scalar) :
    Obeys R (placeTextField spec x y) :=
  .allow (.of_handles fun _ => .part (crafts_newTextField spec) rfl fun _ =>
    .then (.place (by simp)) fun _ => .pure _)

lemma obeys_placeToolButton (action : Action) (icon : String) (position : Nat) :
    Obeys R (placeToolButton action icon position) :=
  .allow (.of_handles fun _ => .part (crafts_newButton action _) rfl fun _ =>
    .part (crafts_newSprite _ true) rfl fun _ => .part (crafts_newSprite icon true) rfl fun _ =>
    .then (.spawn (by simp)) fun _ => .pure _)

end Widgets

/-! ## Scenes without an area -/

/-- However the world came from an earlier one without disturbing anything, with some lines of text
in entities made since, after the step it still did, and they still are. -/
def Minds {α : Type} (w0 : World) (lines : List PartId) (g : Game α) : Prop :=
  ∀ w, Steady w0 w → (∀ l ∈ lines, IsNewcomers w0 w l) →
    Steady w0 (g.runOn w).2 ∧ ∀ l ∈ lines, IsNewcomers w0 (g.runOn w).2 l

section Minds

variable {lines : List PartId}

lemma Obeys.of_minds {g : Game α} (h : ∀ w0, Minds w0 [] g) : Obeys Steady g :=
  fun w => (h w w (.refl w) nofun).1

lemma Obeys.minds {g : Game α} (hg : Obeys Steady g) : Minds w0 lines g :=
  fun w h hls => ⟨h.trans (hg w), fun l hl => (hls l hl).of_steady (hg w)⟩

lemma Minds.bind {g : Game α} {f : α → Game β} (hg : Minds w0 lines g)
    (hf : ∀ a, Minds w0 lines (f a)) : Minds w0 lines (g >>= f) := by
  intro w h hls
  refine snd_run_bind (Q := fun u => Steady w0 u ∧ ∀ l ∈ lines, IsNewcomers w0 u l)
    (hg w h hls) (fun _ hu => hu) fun a u _ hu => hf a u hu.1 hu.2

lemma Minds.line {gist : Gist} {g : Game PartId} {f : PartId → Game β} (hg : Places gist g)
    (hf : ∀ line, Minds w0 (line :: lines) (f line)) : Minds w0 lines (g >>= f) := by
  intro w h hls
  rw [run_bind]
  rcases hrun : g.runOn w with ⟨_ | line, u⟩
  · have hu : Steady w u := hg.steady.of_run hrun
    exact ⟨h.trans hu, fun l hl => (hls l hl).of_steady hu⟩
  · have hu : Steady w u := hg.steady.of_run hrun
    obtain ⟨-, -, e, he, -, hown, -⟩ := hg.made w u line hrun
    have hline : IsNewcomers w0 u line := ⟨e, h.entities_le.trans he, hown⟩
    have hall : ∀ l ∈ line :: lines, IsNewcomers w0 u l := fun l hl => by
      rcases List.mem_cons.1 hl with rfl | hl
      · exact hline
      · exact (hls l hl).of_steady hu
    obtain ⟨hst, hmine⟩ := hf line u (h.trans hu) hall
    exact ⟨hst, fun l hl => hmine l (.tail _ hl)⟩

lemma Minds.owner {line : PartId} (hl : line ∈ lines) {f : EntityId → Game β}
    (hf : ∀ e, w0.entities.size ≤ e.index → Minds w0 lines (f e)) :
    Minds w0 lines (owner line >>= f) := by
  intro w h hls
  obtain ⟨e, he, hown⟩ := hls line hl
  rw [bind_ok (run_owner_eq_ok.2 ⟨hown, rfl⟩)]
  exact hf e he w h hls

lemma Minds.moveEntity {e : EntityId} (he : w0.entities.size ≤ e.index) (x y : Json) :
    Minds w0 lines (moveEntity e x y) :=
  fun _ h hls => ⟨h.moveNew he fun _ => rfl, hls⟩

lemma Minds.addButton {line : PartId} (hline : line ∈ lines) (action : Action) :
    Minds w0 lines (addButton line action) := by
  refine (obeys_bounds line).minds.bind fun area => .owner hline fun e he w h hls => ?_
  have hcraft := crafts_newButton action area
  have hminds : Minds w0 lines (newButton action area) := hcraft.steady.minds
  refine snd_run_bind (Q := fun u => Steady w0 u ∧ ∀ l ∈ lines, IsNewcomers w0 u l)
    (hminds w h hls) (fun _ hu => hu) fun id u hrun hu => ?_
  obtain ⟨hloose, hlists⟩ := hcraft.made w u id hrun
  obtain ⟨⟨hnew, -⟩, hnob⟩ := hloose id (.head _)
  have hloose0 : Loose w0 u [id] := fun p hp =>
    ⟨⟨h.parts_le.trans (hloose p hp).1.1, (hloose p hp).1.2⟩, (hloose p hp).2⟩
  have hattached : Steady w0 (u.attached e id) := hu.1.attached he hloose0
  have hmine (l : PartId) (hl : l ∈ lines) : IsNewcomers w0 (u.attached e id) l := by
    obtain ⟨e', he', hown⟩ := hu.2 l hl
    have hne : l ≠ id := fun heq => by
      rw [heq, hnob] at hown
      cases hown
    exact ⟨e', he', (ownerOf?_withOwner_of_ne hne _).trans hown⟩
  have hset : Steady (u.attached e id) ((setUp id).runOn (u.attached e id)).2 := by
    refine steady_setUp (g := .other) ?_ rfl
    exact (congrArg (Option.map _) (Array.getElem?_modify ..)).trans (by
      rw [if_pos rfl, Option.map_map]
      exact hlists.gist)
  exact ⟨hattached.trans hset, fun l hl => (hmine l hl).of_steady hset⟩

end Minds

lemma steady_buildMenu : Obeys Steady buildMenu :=
  .of_minds fun _ => (obeys_placeSprite _ _ _).minds.bind fun _ =>
    .line (places_placeLabel _ _ _ _ _) fun newGame =>
    .line (places_placeLabel _ _ _ _ _) fun editor =>
    .line (places_placeLabel _ _ _ _ _) fun quit => (Minds.addButton (by simp) _).bind fun _ =>
    (Minds.addButton (by simp) _).bind fun _ => (Minds.addButton (by simp) _).bind fun _ =>
    Obeys.get.minds.bind fun _ =>
    (obeys_bounds newGame).minds.bind fun _ => (obeys_bounds quit).minds.bind fun _ =>
    (Obeys.lift _).minds.bind fun _ =>
    .owner (by simp) fun _ he => (Minds.moveEntity he _ _).bind fun _ =>
    .owner (by simp) fun _ he => (Minds.moveEntity he _ _).bind fun _ =>
    .owner (by simp) fun _ he => (Obeys.lift _).minds.bind fun _ => Minds.moveEntity he _ _

lemma obeys_mapNames {R : World → World → Prop} [IsPreorder World R] : Obeys R mapNames :=
  .bind .get fun _ => .lifts fun _ => .pure _

lemma steady_buildChooser : Obeys Steady buildChooser :=
  (obeys_placeSprite _ _ _).bind fun _ => obeys_mapNames.bind fun _ => .bind .get fun _ =>
    .lifts fun _ => (obeys_placeLabelButton _ _ _ _ _ _).bind fun _ =>
    (obeys_placeLabel _ _ _ _ _).bind fun _ => (obeys_placeTextField _ _ _).bind fun field =>
    (obeys_modifyEditor_of_tools fun _ => by rfl).bind fun _ => (obeys_bounds field).bind fun area =>
    .of_handles fun _ => .part (crafts_newButton _ _) rfl fun _ =>
    .part (crafts_newLabel _ _ _) rfl fun _ => .then (.spawn (by simp)) fun _ =>
    (obeys_placeLabel _ _ _ _ _).bind fun _ => .lifts fun _ => (obeys_placeList _ _ _).bind fun _ =>
    .pure _

lemma steady_buildDemo : Obeys Steady buildDemo :=
  (obeys_placeTextField _ _ _).bind fun _ => .lifts fun _ => (obeys_placeList _ _ _).bind fun _ =>
    .pure _

end Game

end TileQuest
