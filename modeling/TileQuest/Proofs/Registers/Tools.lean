import TileQuest.Proofs.Registers.Showing
import TileQuest.Stage.Editing

/-!
# The tools of the editor

A tool of the editor has lists, labels and text fields on the screen, each in an entity of its own,
and these are deleted when another tool is taken or another entity is selected. They are no
business of anybody in the area (`World.Toolable`), so however that ends, nothing in the area is
half made or half taken down afterwards (`World.Kept`).
-/

namespace TileQuest

variable {q : PartId} {e : EntityId} {qs : List PartId} {R : World → World → Prop} {rule : Rule}
variable {w u : World}

namespace World

variable {w' w'' : World} {g : Gist}

/-- An entity that may belong to a tool: nobody keeps any part of it, and none stands in an area. -/
def Toolable (w : World) (e : EntityId) : Prop :=
  e.index < w.entities.size ∧ ∀ p ∈ w.partsOf e,
    (∃ g, w.gist? p = some g ∧ g.isWidget = true) ∧ ∀ k g, w.gist? k = some g → p ∉ g.kept

lemma Toolable.of_steady (h : w.Toolable e) (hst : Steady w w') : w'.Toolable e := by
  obtain ⟨he, hps⟩ := h
  refine ⟨he.trans_le hst.entities_le, fun p hp => ?_⟩
  rw [hst.partsOf_eq he] at hp
  obtain ⟨⟨g, hg, hwid⟩, hfree⟩ := hps p hp
  exact ⟨⟨g, hst.gist?_some hg, hwid⟩, fun k g hk hmem =>
    hfree k g (hst.gist?_of_mem_kept hk hmem) hmem⟩

lemma not_ready_of_isWidget (hwid : g.isWidget = true) (p : PartId) : ¬ g.Ready w p := by
  cases g with
  | line | field | list | other => exact id
  | _ => cases hwid

lemma Toolable.notMem_live (h : w.Toolable e) (hrest : w.AtRest rule) :
    ∀ p ∈ w.partsOf e, p ∉ w.live := by
  intro p hp
  obtain ⟨⟨g, hg, hwid⟩, -⟩ := h.2 p hp
  exact hrest.notMem_of_gist hg (not_ready_of_isWidget hwid p)

def Tooled (w : World) (q : PartId) : Prop := ∃ e, w.ownerOf? q = some e ∧ w.Toolable e

/-- Something was put on the screen, and what may belong to a tool still may. -/
structure Equips (rule : Rule) (w w' : World) : Prop where
  rest : w'.AtRest rule
  tooled : ∀ q, w.Tooled q → w'.Tooled q

lemma Equips.trans (h : Equips rule w w') (h' : Equips rule w' w'') : Equips rule w w'' :=
  ⟨h'.rest, fun q hq => h'.tooled q (h.tooled q hq)⟩

lemma Equips.of_steady (h : w.AtRest rule) (hst : Steady w w') : Equips rule w w' :=
  ⟨h.of_steady hst, fun _ ⟨e, hown, he⟩ =>
    ⟨e, hst.ownerOf?_some hown, he.of_steady hst⟩⟩

lemma Tied.tooled_of_new (h : w.Tied) (hst : Steady w w')
    (hq : w.parts.size ≤ q.index) (hg : w'.gist? q = some g)
    (hwid : g.isWidget = true) (he : e.index < w'.entities.size)
    (hps : w'.partsOf e = [q]) : w'.Toolable e := by
  refine ⟨he, fun p hp => ?_⟩
  rw [hps, List.mem_singleton] at hp
  subst hp
  exact ⟨⟨g, hg, hwid⟩, fun k g' hk hmem =>
    hq.not_gt (h.lt_of_mem_kept (hst.gist?_of_mem_kept hk hmem) hmem)⟩

/-- Entities on the screen were deleted, and all parts are what they were. -/
structure Dismantles (rule : Rule) (w w' : World) : Prop where
  rest : w'.AtRest rule
  tools : w'.tools = w.tools
  gist : ∀ p, w'.gist? p = w.gist? p
  entities_le : w.entities.size ≤ w'.entities.size
  parts : ∀ e : EntityId, e.index < w.entities.size → w'.partsOf e = w.partsOf e ∨ w'.partsOf e = []

lemma Dismantles.refl (h : w.AtRest rule) : Dismantles rule w w :=
  ⟨h, rfl, fun _ => rfl, le_rfl, fun _ _ => .inl rfl⟩

lemma Dismantles.trans (h : Dismantles rule w w') (h' : Dismantles rule w' w'') :
    Dismantles rule w w'' where
  rest := h'.rest
  tools := h'.tools.trans h.tools
  gist p := (h'.gist p).trans (h.gist p)
  entities_le := h.entities_le.trans h'.entities_le
  parts e he := by
    rcases h'.parts e (he.trans_le h.entities_le) with hsame | hnil
    · exact (h.parts e he).imp hsame.trans hsame.trans
    · exact .inr hnil

lemma Dismantles.toolable (h : Dismantles rule w w') (he : w.Toolable e) : w'.Toolable e := by
  obtain ⟨hlt, hps⟩ := he
  refine ⟨hlt.trans_le h.entities_le, fun p hp => ?_⟩
  simp only [h.gist]
  rcases h.parts e hlt with hsame | hnil
  · exact hps p (hsame ▸ hp)
  · rw [hnil] at hp
    cases hp

lemma Dismantles.of_loosens (h : w.AtRest rule) (hloos : Loosens rule w.live w w') :
    Dismantles rule w w' where
  rest := h.of_stays hloos.sound hloos.stays
  tools := hloos.stays.tools
  gist := hloos.gist
  entities_le := hloos.stays.entities_le
  parts e he := .inl (hloos.stays.parts e he)

lemma Dismantles.departed (h : w.AtRest rule) {a : AreaId} (ha : w.area? = some a)
    (he : w.Toolable e) : Dismantles rule w (w.departed a e) := by
  have hfades : Fades w (w.departed a e) := .departed ha (he.notMem_live h)
  refine ⟨h.of_shrinks hfades.toShrinks ?_, rfl, fun _ => rfl, le_rfl, fun _ _ => .inl rfl⟩
  rw [hfades.live]
  exact h.toSound.departed a e

lemma Dismantles.cleared (h : w.AtRest rule) (he : w.Toolable e) :
    Dismantles rule w (w.cleared e) := by
  have hfades : Fades w (w.cleared e) := .cleared (he.notMem_live h)
  refine ⟨h.of_shrinks hfades.toShrinks ?_, rfl, fun _ => rfl, hfades.entities.ge,
    fun e _ => hfades.parts e⟩
  rw [hfades.live]
  exact h.toSound.clear e

lemma AtRest.withEditor (h : w.AtRest rule) {ed : Editor}
    (htools : ∀ e ∈ ed.toolEntities?.getD [], e ∈ w.tools ∨ w.Toolable e) :
    AtRest rule { w with editor := ed } := by
  refine ⟨?_, h.here, h.area⟩
  refine h.toSound.of_spares (h.toTied.of_thins (.of_same rfl rfl) htools) (.of_same rfl) (fun r => ?_) rfl
  cases r <;> rfl

end World

namespace Game

open World

/-! ## Looking at what is edited -/

section Looking

variable [IsPreorder World R]

lemma obeys_argValues (args : Args) : Obeys R (argValues args) := by
  cases args with
  | own values => exact .pure _
  | defaults k => exact Obeys.get.bind fun _ => .pure _

lemma obeys_placeholder (id : PartId) : Obeys R (placeholder id) :=
  (obeys_part id).bind fun p => by cases p <;> first | exact .pure _ | exact .throw _

lemma obeys_recordOf (e : EntityId) : Obeys R (recordOf e) :=
  (obeys_find e _).bind fun p => (obeys_placeholder p).bind fun _ => (obeys_entityPlace e).bind
    fun _ => .lifts fun _ => .lifts fun _ => (obeys_argValues _).bind
    fun _ => .pure _

lemma obeys_worldPoint (mouseX mouseY : Json) : Obeys R (worldPoint mouseX mouseY) :=
  Obeys.get.bind fun _ => .lifts fun _ => .lifts fun _ => .lifts fun _ => .lifts fun _ => .pure _

lemma obeys_lookSize? (e : EntityId) : Obeys R (lookSize? e) :=
  (obeys_find? e _).bind fun look? => by
    cases look? with
    | none => exact .pure _
    | some look => exact (obeys_sprite look).bind fun _ => .pure _

lemma obeys_entityAt? (x y : Scalar) (es : List EntityId) : Obeys R (entityAt? x y es) := by
  induction es with
  | nil => exact .pure _
  | cons e es ih =>
    refine (obeys_lookSize? e).bind fun image? => ?_
    cases image? with
    | none => exact ih
    | some image =>
      exact (obeys_entityPoint e).bind fun _ => .lifts fun _ => .ite (.pure _) ih

lemma obeys_entityUnder? (mouseX mouseY : Json) : Obeys R (entityUnder? mouseX mouseY) :=
  (obeys_worldPoint mouseX mouseY).bind fun _ => obeys_currentArea.bind fun a =>
    (obeys_area a).bind fun _ => obeys_entityAt? _ _ _

end Looking

variable {body : EntityId → Game Unit} {es : List EntityId}

/-! ## Taking tools down -/

lemma dismantles_deleteEntity (h : w.AtRest rule) (he : w.Toolable e) :
    Ends w (deleteEntity e) (fun _ => Dismantles rule w) (Dismantles rule w) := by
  refine Ends.bind (P := fun _ => Dismantles rule w) ?_ fun _ d hd => ?_
  · refine .look obeys_currentArea (.refl h) fun a hrun => ?_
    obtain ⟨ha, -⟩ := run_orAbsent_eq_ok.1 hrun
    exact .of_ok (u := w.departed a e) rfl (.departed h ha he)
  · refine .look (obeys_entity e) hd fun en hrun => ?_
    obtain ⟨hen, -⟩ := run_entity_eq_ok.1 hrun
    have hloos : Ends d (en.parts.forM breakDown) (fun _ => Loosens rule d.live d)
        (Loosens rule d.live d) := by
      refine loosens_breakDownAll hd.rest.toSound fun q hq => ?_
      have hmem : q ∈ d.partsOf e := by
        rw [partsOf, hen]
        exact hq
      obtain ⟨⟨g, hg, hwid⟩, hfree⟩ := (hd.toolable he).2 q hmem
      exact ⟨⟨g, hg, .inr hwid⟩, fun k g _ hk => hfree k g hk⟩
    refine Ends.bind (hloos.mono (fun _ _ hu => hd.trans (.of_loosens hd.rest hu))
      fun _ hu => hd.trans (.of_loosens hd.rest hu)) fun _ u hu => ?_
    exact .of_ok (u := u.cleared e) rfl (hu.trans (.cleared hu.rest (hu.toolable he)))

section

variable (hbody : ∀ w e, w.AtRest rule → w.Toolable e →
  Ends w (body e) (fun _ => Dismantles rule w) (Dismantles rule w)) (h : w.AtRest rule)
include hbody h

lemma dismantles_forM (hes : ∀ e ∈ es, w.Toolable e) :
    Ends w (es.forM body) (fun _ => Dismantles rule w) (Dismantles rule w) := by
  induction es generalizing w with
  | nil => exact .pure (.refl h)
  | cons e es ih =>
    refine Ends.bind (hbody w e h (hes e (.head _))) fun _ u hu => ?_
    exact (ih hu.rest fun e' he' => hu.toolable (hes e' (.tail _ he'))).mono
      (fun _ _ hv => hu.trans hv) fun _ hv => hu.trans hv

lemma ends_forgetTools (hes : w.editor.toolEntities? = some es) :
    Ends w (do es.forM body; modifyEditor ({ · with toolEntities? := some [] }))
      (fun _ => AtRest rule) (AtRest rule) := by
  have hall : ∀ e ∈ es, w.Toolable e := fun e he => h.tools e (by rwa [World.tools, hes])
  refine Ends.bind ((dismantles_forM hbody h hall).mono (fun _ _ hu => hu.rest)
    fun _ hu => hu.rest) fun _ u hu => .of_ok rfl ?_
  exact hu.withEditor (by simp)

end

lemma kept_clearToolEntities : Obeys (Kept rule) clearToolEntities := by
  intro w h
  refine Ends.snd (.step (run_get w) ?_)
  cases hes : w.editor.toolEntities? with
  | none => exact .throw h
  | some es => exact ends_forgetTools (fun _ _ h he => dismantles_deleteEntity h he) h hes

/-! ## Putting tools up -/

/-- When some parts are there that may belong to a tool, the step puts things on the screen. -/
def Outfits {α : Type} (rule : Rule) (qs : List PartId) (g : Game α) : Prop :=
  ∀ w, w.AtRest rule → (∀ q ∈ qs, w.Tooled q) → Equips rule w (g.runOn w).2

section Outfits

variable {α β : Type}

lemma Obeys.of_outfits {g : Game α} (hg : Outfits rule [] g) : Obeys (Kept rule) g :=
  fun w h => (hg w h nofun).rest

lemma Obeys.outfits {g : Game α} (hg : Obeys Steady g) : Outfits rule qs g :=
  fun w h _ => .of_steady h (hg w)

lemma Outfits.bind {g : Game α} {f : α → Game β} (hg : Outfits rule qs g)
    (hf : ∀ a, Outfits rule qs (f a)) : Outfits rule qs (g >>= f) := by
  intro w h hqs
  refine snd_run_bind (hg w h hqs) (fun _ hu => hu) fun a u _ hu => ?_
  exact hu.trans (hf a u hu.rest fun q hq => hu.tooled q (hqs q hq))

lemma Outfits.forM {γ : Type} {k : γ → Game PUnit} (hk : ∀ c, Outfits rule qs (k c))
    (cs : List γ) : Outfits rule qs (cs.forM k) := by
  induction cs with
  | nil => exact Obeys.outfits (.pure _)
  | cons c cs ih => exact (hk c).bind fun _ => ih

lemma Outfits.place {gist : Gist} {g : Game PartId} {f : PartId → Game β} (hg : Places gist g)
    (hwid : gist.isWidget = true) (hf : ∀ q, Outfits rule (q :: qs) (f q)) :
    Outfits rule qs (g >>= f) := by
  intro w h hqs
  refine snd_run_bind (hg.steady w) (fun _ hu => .of_steady h hu) fun q u hrun hu => ?_
  have hequip : Equips rule w u := .of_steady h hu
  obtain ⟨hnew, hlists, e, -, he, hown, hps⟩ := hg.made w u q hrun
  refine hequip.trans (hf q u hequip.rest fun q' hq' => ?_)
  rcases List.mem_cons.1 hq' with rfl | hq'
  · exact ⟨e, hown, h.toTied.tooled_of_new hu hnew hlists.gist hwid he hps⟩
  · exact hequip.tooled q' (hqs q' hq')

lemma equips_addToolEntity (h : w.AtRest rule) (he : w.Toolable e) :
    Equips rule w ((addToolEntity e).runOn w).2 := by
  refine ⟨h.withEditor fun e' he' => ?_, fun q hq => hq⟩
  change e' ∈ (w.editor.toolEntities?.map (· ++ [e])).getD [] at he'
  rw [World.tools]
  cases htools : w.editor.toolEntities? with
  | none =>
    rw [htools] at he'
    cases he'
  | some es =>
    rw [htools] at he'
    rcases List.mem_append.1 he' with he' | he'
    · exact .inl he'
    · rw [List.mem_singleton.1 he']
      exact .inr he

lemma Outfits.add (hq : q ∈ qs) : Outfits rule qs (owner q >>= fun e => addToolEntity e) := by
  intro w h hqs
  obtain ⟨e, hown, he⟩ := hqs q hq
  rw [bind_ok (run_owner_eq_ok.2 ⟨hown, rfl⟩)]
  exact equips_addToolEntity h he

end Outfits

lemma places_placeTextField (spec : FieldSpec) (x y : Scalar) :
    Places .field (placeTextField spec x y) := (crafts_newTextField spec).places x y

lemma outfits_addList (s : ScrollView) (x y : Scalar) :
    Outfits rule qs (placeList s x y >>= fun e => addToolEntity e) := by
  intro w h hqs
  refine snd_run_bind (obeys_placeList (R := Steady) s x y w) (fun _ hu => .of_steady h hu)
    fun e u hrun hu => ?_
  have hequip : Equips rule w u := .of_steady h hu
  refine hequip.trans (equips_addToolEntity hequip.rest ?_)
  obtain ⟨id, v, hlist, hspawn⟩ := run_bind_eq_ok.1 hrun
  obtain ⟨hloose, hlists⟩ := (crafts_newList s).made w v id hlist
  rw [spawn, bind_ok (run_placeParts v [id] x y)] at hspawn
  obtain ⟨_, _, hsetUp, hpure⟩ := run_bind_eq_ok.1 hspawn
  cases hpure
  have hg : (v.placed [id] x y).gist? id = some .list := (gist?_given _ _ _ id).trans hlists.gist
  have hst : Steady w (v.placed [id] x y) :=
    ((crafts_newList s).steady.of_run hlist).placed hloose x y
  have htoolable : (v.placed [id] x y).Toolable ⟨v.entities.size⟩ :=
    h.toTied.tooled_of_new hst (hloose id (.head _)).1.1 hg rfl
      (by simp [placed, given]) (partsOf_placed v [id] x y)
  have hquiet : Steady (v.placed [id] x y) u := by
    have hall : Steady (v.placed [id] x y) (([id].forM setUp).runOn (v.placed [id] x y)).2 :=
      steady_setUpAll fun p hp => ⟨.list, by rwa [List.mem_singleton.1 hp], rfl⟩
    rwa [hsetUp] at hall
  exact htoolable.of_steady hquiet

lemma kept_showEntityList : Obeys (Kept rule) showEntityList :=
  .of_outfits ((Obeys.get.outfits).bind fun _ => (Obeys.lift _).outfits.bind fun _ =>
    outfits_addList _ _ _)

lemma kept_showTileList : Obeys (Kept rule) showTileList := by
  refine .of_outfits ((Obeys.get.outfits).bind fun _ => obeys_currentMap.outfits.bind fun _ =>
    (Obeys.lift _).outfits.bind fun _ => ?_)
  rw [← bind_assoc]
  refine (outfits_addList _ _ _).bind fun _ => .place (places_placeLabel _ _ _ _ _) rfl fun label =>
    (obeys_bounds label).outfits.bind fun _ => .place (places_placeTextField _ _ _) rfl fun brush =>
    (obeys_modifyEditor_of_tools fun _ => by rfl).outfits.bind fun _ => ?_
  rw [← bind_assoc]
  exact (Outfits.add (by simp)).bind fun _ => .add (by simp)

lemma outfits_showArgument (p : PartId) (name : String) (index : Nat)
    (x : Int) : Outfits rule qs (showArgument p name index x) := by
  refine Obeys.get.outfits.bind fun _ => .place (places_placeLabel _ _ _ _ _) rfl fun label =>
    (obeys_placeholder p).outfits.bind fun _ => (obeys_argValues _).outfits.bind fun _ =>
    (Obeys.lift _).outfits.bind fun _ => .place (places_placeTextField _ _ _) rfl fun field =>
    (obeys_modifyEditor_of_tools fun _ => by rfl).outfits.bind fun _ => ?_
  rw [← bind_assoc]
  exact (Outfits.add (by simp)).bind fun _ => .add (by simp)

lemma kept_selectEntity (e : EntityId) : Obeys (Kept rule) (selectEntity e) := by
  refine (obeys_modifyEditor_of_tools fun _ => by rfl).bind fun _ => (obeys_find e _).bind fun p =>
    (obeys_placeholder p).bind fun _ => .lifts fun _ => .lifts fun factory =>
    kept_clearToolEntities.bind fun _ => .of_outfits (Obeys.get.outfits.bind fun _ =>
    .place (places_placeLabel _ _ _ _ _) rfl fun title => ?_)
  rw [← bind_assoc]
  exact (Outfits.add (by simp)).bind fun _ => (obeys_bounds title).outfits.bind fun _ =>
    .forM (fun (name, index) => outfits_showArgument p name index _) _

lemma kept_selectAt (mouseX mouseY : Json) : Obeys (Kept rule) (selectAt mouseX mouseY) :=
  (obeys_entityUnder? mouseX mouseY).bind fun e? => by
    cases e? with
    | none => exact .pure _
    | some e => exact kept_selectEntity e

/-! ## Saving -/

lemma kept_write (disk : Disk) : Obeys (Kept rule) (modify fun w => { w with disk }) :=
  fun _ => .of_same rfl (fun r => by cases r <;> rfl) rfl

/-- The relation allows that files are written and that grounds are painted. -/
class Writes (R : World → World → Prop) : Prop where
  write : ∀ disk : Disk, Obeys R (modify fun w => { w with disk })
  paint : ∀ g map, Obeys R (setGround g map)

instance : Writes (Kept rule) where
  write := kept_write
  paint _ _ _ := .of_same rfl (fun r => by cases r <;> rfl) rfl

section Writing

variable [IsPreorder World R] [Allows (Orderly Steady) R] [Writes R]

lemma obeys_saveFile (a : AreaId) (file : Json) : Obeys R (saveFile a file) := by
  have happ (spot : Spot) (bytes : List UInt8) : Obeys R (appendBytes spot bytes) :=
    fun w => Writes.write _ w
  have hstart (name : String) : Obeys R (startMap name) :=
    .bind .get fun _ => .lifts fun _ => .bind (fun w => Writes.write _ w) fun _ => .pure _
  refine .bind (obeys_area a) fun _ => .when (.throw _) fun _ => .lifts fun name =>
    .bind (hstart name) fun spot => ?_
  have hrecs : Obeys R (do
      (← area a).entities.forM fun e => do
        appendBytes spot (← recordOf e).write) :=
    .bind (obeys_area a) fun _ => .forM (fun e => .bind (obeys_recordOf e) fun _ => happ _ _) _
  refine .bind (happ _ _) fun _ => .bind (obeys_groundOf a) fun g => .bind (obeys_ground g) fun _ =>
    .lifts fun _ => .bind (happ _ _) fun _ => .bind (.forM (fun _ => obeys_print _) _)
    fun _ => .bind (happ _ _) fun _ => ?_
  split
  · exact .bind (.throw _) fun _ => hrecs
  · exact hrecs

lemma obeys_saveMap : Obeys R saveMap :=
  .bind obeys_currentArea fun a => .bind .get fun _ => obeys_saveFile a _

lemma obeys_placeTile (mouseX mouseY : Json) : Obeys R (placeTile mouseX mouseY) := by
  have hbrush (x y : Json) : Obeys R (brushTiles x y) :=
    .bind .get fun _ => .bind (.orAbsent _) fun field => .bind (obeys_label field) fun _ =>
      .lifts fun _ => .ite (.bind (.bind obeys_currentArea obeys_groundOf) fun g =>
        .bind (obeys_ground g) fun _ => .lifts fun _ => Writes.paint g _) (.pure _)
  exact .bind (obeys_worldPoint mouseX mouseY) fun _ => .tryCatch (hbrush _ _) fun _ => obeys_note _

end Writing

/-- What comes after the tool before was taken down. -/
def openTool (tool : Json) : Game Unit := do
  if tool = .str "Save" then saveMap
  if tool = .str "Entity" then showEntityList
  if tool = .str "Tile" then showTileList

lemma kept_setTool (tool : Json) : Obeys (Kept rule) (setTool tool) := by
  have hrest : Obeys (Kept rule) (openTool tool) :=
    .when obeys_saveMap fun _ => .when kept_showEntityList fun _ => .ite kept_showTileList (.pure _)
  have hbody (w : World) (e : EntityId) (h : w.AtRest rule) (he : w.Toolable e) :
      Ends w (do deleteEntity e; modifyEditor ({ · with brush? := none }))
        (fun _ => Dismantles rule w) (Dismantles rule w) := by
    refine Ends.bind (dismantles_deleteEntity h he) fun _ u hu => .of_ok rfl (hu.trans ?_)
    exact ⟨hu.rest.withEditor fun _ he' => .inl he', rfl, fun _ => rfl, le_rfl,
      fun _ _ => .inl rfl⟩
  refine (obeys_modifyEditor_of_tools fun _ => by rfl).bind fun _ => (obeys_print _).bind fun _ => ?_
  intro w h
  refine Ends.snd (.step (run_get w) ?_)
  cases hes : w.editor.toolEntities? with
  | none => exact .throw h
  | some es =>
    change Ends w ((es.forM fun e => do deleteEntity e; modifyEditor ({ · with brush? := none })) >>=
      fun _ => modifyEditor ({ · with toolEntities? := some [] }) >>= fun _ => openTool tool) _ _
    rw [← bind_assoc]
    exact (ends_forgetTools hbody h hes).bind fun _ u hu => .kept hrest hu

/-! ## Changing what is edited -/

lemma obeys_setArgument [IsPreorder World R] [Allows (Orderly Steady) R]
    (p : PartId) (index : Nat) (value : String) : Obeys R (setArgument p index value) := by
  refine (obeys_placeholder p).bind fun ph => (obeys_argValues _).bind fun values =>
    .when (.throw _) fun _ => ?_
  split
  · exact obeys_modifyPart_of_gist p fun part => by cases part <;> exact ⟨rfl, fun h => h⟩
  · exact obeys_same fun _ => by rfl

lemma obeys_saveArgs [IsPreorder World R] [Allows (Orderly Steady) R] : Obeys R saveArgs := by
  refine Obeys.get.bind fun _ => (Obeys.orAbsent _).bind fun e => (obeys_find e _).bind fun p =>
    Obeys.get.bind fun _ => .forM (fun (field, index) => (obeys_label field).bind fun _ => ?_) _
  split
  · exact obeys_setArgument p index _
  · exact .throw _

lemma mem_of_entityAt? {x y : Scalar} {es : List EntityId}
    (hrun : (entityAt? x y es).runOn w = (.ok (some e), u)) : e ∈ es := by
  induction es with
  | nil => cases hrun
  | cons e' es ih =>
    obtain ⟨image?, -, hrest⟩ := (obeys_lookSize? e').seen hrun
    cases image? with
    | none => exact .tail _ (ih hrest)
    | some image =>
      obtain ⟨_, -, hrest⟩ := (obeys_entityPoint e').seen hrest
      obtain ⟨isIn, -, hrest⟩ := (Obeys.lift _).seen hrest
      cases isIn with
      | true =>
        cases hrest
        exact (.head _)
      | false => exact .tail _ (ih hrest)

lemma mem_of_entityUnder? (h : w.AtRest rule) {mouseX mouseY : Json}
    (hrun : (entityUnder? mouseX mouseY).runOn w = (.ok (some e), u)) :
    ∃ a, w.area? = some a ∧ e ∈ w.present := by
  obtain ⟨_, -, hrest⟩ := (obeys_worldPoint mouseX mouseY).seen hrun
  obtain ⟨a, hcur, hrest⟩ := obeys_currentArea.seen hrest
  obtain ⟨ha, -⟩ := run_orAbsent_eq_ok.1 hcur
  obtain ⟨area, harea, hpres⟩ := h.exists_area ha
  rw [bind_ok (run_area harea)] at hrest
  exact ⟨a, ha, hpres ▸ mem_of_entityAt? hrest⟩

lemma kept_deleteAt (mouseX mouseY : Json) : Obeys (Kept rule) (deleteAt mouseX mouseY) := by
  intro w h
  refine Ends.snd (.look (obeys_entityUnder? mouseX mouseY) h fun e? hrun => ?_)
  cases e? with
  | none => exact .pure h
  | some e =>
    obtain ⟨a, ha, he⟩ := mem_of_entityUnder? h hrun
    exact (ends_deletePresent h ha (h.here e he) (.inl he)).mono (fun _ _ hu => hu.1)
      fun _ hu => hu.2

end Game

end TileQuest
