import TileQuest.Proofs.Registers.Frames

/-!
# Frames keep the registers in order

Whatever happens in a game, be it in play, in the menu or in the editor, registers lose parts and
get new ones at their end (`World.Drafts`), whether or not it completes.
-/

namespace TileQuest

variable {w : World} {id : PartId}

namespace Game

open World

/-! ## Entities of any parts -/

lemma drafts_spawn (ids : List PartId) (x y : Json) : Obeys Drafts (spawn ids x y) :=
  .bind (drafts_placeParts ids x y) fun _ => .bind (.forM obeys_setUp ids) fun _ => .pure _

lemma drafts_addPart (e : EntityId) (id : PartId) : Obeys Drafts (addPart e id) :=
  .bind (drafts_attach e id) fun _ => obeys_setUp id

lemma drafts_newButton (action : Action) (area : Rect) : Obeys Drafts (newButton action area) :=
  Drafting.allow (R := Steady) (.bind (.make (obeys_newPart rfl (by trivial)) rfl) fun _ _ =>
    .activate (by decide) .pure)

lemma drafts_newEditorHelper (onClick : Action) : Obeys Drafts (newEditorHelper onClick) :=
  Drafting.allow (R := Steady) (.bind (.make (obeys_newPart rfl (by trivial)) rfl) fun _ _ =>
    .activate (by decide) .pure)

lemma drafts_newList (s : ScrollView) : Obeys Drafts (newList s) :=
  Drafting.allow (R := Steady) (.after (obeys_paint _) fun _ =>
    .bind (.make (obeys_newPart rfl (by trivial)) rfl) fun _ _ => .activate (by decide)
      (.enlist true (by decide) .pure))

lemma drafts_placeList (s : ScrollView) (x y : Scalar) : Obeys Drafts (placeList s x y) :=
  .bind (drafts_newList s) fun _ => drafts_spawn _ _ _

lemma drafts_placeTextField (spec : FieldSpec) (x y : Scalar) :
    Obeys Drafts (placeTextField spec x y) :=
  .bind (obeys_newTextField spec) fun _ => .bind (drafts_placeParts _ _ _) fun _ => .pure _

/-! ## Stages -/

lemma drafts_buildMenu : Obeys Drafts buildMenu := by
  have hbtn (line : PartId) (action : Action) : Obeys Drafts (addButton line action) :=
    .bind (obeys_bounds line) fun area => .bind (obeys_owner line) fun e =>
      .bind (drafts_newButton action area) fun _ => drafts_addPart e _
  exact .bind (obeys_placeSprite _ _ _) fun _ => .bind (obeys_placeLabel _ _ _ _ _) fun newGame =>
    .bind (obeys_placeLabel _ _ _ _ _) fun editor => .bind (obeys_placeLabel _ _ _ _ _) fun quit =>
    .bind (hbtn _ _) fun _ => .bind (hbtn _ _) fun _ => .bind (hbtn _ _) fun _ =>
    .bind .get fun _ => .bind (obeys_bounds newGame) fun _ => .bind (obeys_bounds quit) fun _ =>
    .lifts fun _ => .bind (obeys_owner newGame) fun _ => .bind (obeys_moveEntity _ _ _) fun _ =>
    .bind (obeys_owner editor) fun _ => .bind (obeys_moveEntity _ _ _) fun _ =>
    .bind (obeys_owner quit) fun _ => .lifts fun _ => obeys_moveEntity _ _ _

lemma drafts_buildChooser : Obeys Drafts buildChooser :=
  have hback : Obeys Drafts (placeLabelButton .backToMenu boldFont (.str "Back") 32 10 10) :=
    .bind (obeys_newLabel _ _ _) fun label => .bind (obeys_bounds label) fun _ =>
      .bind (drafts_newButton _ _) fun _ => drafts_spawn _ _ _
  .bind (obeys_placeSprite _ _ _) fun _ => .bind obeys_mapNames fun _ => .bind .get fun _ =>
    .lifts fun _ => .bind hback fun _ => .bind (obeys_placeLabel _ _ _ _ _) fun _ =>
    .bind (drafts_placeTextField _ _ _) fun field => .bind (obeys_modifyEditor _) fun _ =>
    .bind (obeys_bounds field) fun _ => .bind (drafts_newButton _ _) fun _ =>
    .bind (obeys_newLabel _ _ _) fun _ => .bind (drafts_spawn _ _ _) fun _ =>
    .bind (obeys_placeLabel _ _ _ _ _) fun _ => .lifts fun _ =>
    .bind (drafts_placeList _ _ _) fun _ => .pure _

lemma drafts_buildDemo : Obeys Drafts buildDemo :=
  .bind (drafts_placeTextField _ _ _) fun _ => .lifts fun _ =>
    .bind (drafts_placeList _ _ _) fun _ => .pure _

instance : Landed Drafts :=
  ⟨fun a map _ hf => .bind (tame_layGround a map).allow fun u => (hf u).allow⟩

lemma drafts_openArea (file : Json) (isEdited : Bool) : Obeys Drafts (openArea file isEdited) :=
  .bind .get fun _ => .bind (fun _ => .of_same rfl) fun _ => .bind (obeys_loadNamed _ file) fun _ =>
    .pure _

lemma drafts_buildEditor : Obeys Drafts buildEditor :=
  have hbtn (action : Action) (icon : String) (position : Nat) :
      Obeys Drafts (placeToolButton action icon position) :=
    .bind (drafts_newButton _ _) fun _ => .bind (obeys_newSprite _ true) fun _ =>
      .bind (obeys_newSprite _ true) fun _ => .bind (drafts_spawn _ _ _) fun _ => .pure _
  .bind (obeys_modifyEditor _) fun _ => .bind .get fun _ => .bind (drafts_openArea _ true) fun _ =>
    .bind (drafts_newEditorHelper _) fun _ => .bind (drafts_spawn _ _ _) fun _ =>
    .bind (hbtn _ _ _) fun _ => .bind (hbtn _ _ _) fun _ => .bind (hbtn _ _ _) fun _ =>
    .bind (hbtn _ _ _) fun _ => .bind (hbtn _ _ _) fun _ => hbtn _ _ _

lemma drafts_build (scene : Scene) : Obeys Drafts (build scene) := by
  cases scene with
  | menu => exact drafts_buildMenu
  | play => exact .bind (drafts_openArea _ false) fun _ => .pure _
  | chooser => exact drafts_buildChooser
  | editor => exact drafts_buildEditor
  | demo => exact drafts_buildDemo
  | blank => exact .pure _

lemma drafts_switchTo (stage : String) : Obeys Drafts (switchTo stage) :=
  .bind obeys_reset fun _ => .bind (obeys_same fun _ => by rfl) fun _ => .bind .get fun _ =>
    .lifts fun _ => .bind (obeys_print _) fun _ => drafts_build _

instance : Playful Drafts where
  switch := drafts_switchTo
  teleport file column row := .bind obeys_currentArea fun a => .bind (obeys_loadNamed a file) fun _ =>
    (grows_arrive a column row).allow
  pickUp _ _ _ _ _ item quantity other ho hp := (keeps_pickUp ho hp item quantity other).self.drafts

/-! ## The editor at work -/

/-- The relation allows that the tools of the editor are set up and taken down. -/
class Tinkers (R : World → World → Prop) : Prop extends Writes R where
  editor : ∀ f, Obeys R (modifyEditor f)
  delete : ∀ e, Obeys R (deleteEntity e)
  list : ∀ s x y, Obeys R (placeList s x y)
  field : ∀ spec x y, Obeys R (placeTextField spec x y)

section Tools

variable {R : World → World → Prop} [IsPreorder World R] [Tinkers R]

lemma obeys_clearToolEntities : Obeys R clearToolEntities := by
  refine .bind .get fun w => ?_
  cases w.editor.toolEntities? with
  | none => exact .throw _
  | some es => exact .bind (.forM Tinkers.delete es) fun _ => Tinkers.editor _

lemma obeys_showEntityList : Obeys R showEntityList :=
  .bind .get fun _ => .lifts fun _ => .bind (Tinkers.list _ _ _) fun _ => Tinkers.editor _

variable [Allows (Orderly Steady) R]

lemma obeys_showTileList : Obeys R showTileList :=
  .bind .get fun _ => .bind obeys_currentMap fun _ => .lifts fun _ =>
    .bind (Tinkers.list _ _ _) fun _ => .bind (Tinkers.editor _) fun _ =>
    .bind (obeys_placeLabel _ _ _ _ _) fun label => .bind (obeys_bounds label) fun _ =>
    .bind (Tinkers.field _ _ _) fun brush => .bind (Tinkers.editor _) fun _ =>
    .bind (obeys_owner label) fun _ => .bind (Tinkers.editor _) fun _ =>
    .bind (obeys_owner brush) fun _ => Tinkers.editor _

lemma obeys_setTool (tool : Json) : Obeys R (setTool tool) := by
  refine .bind (Tinkers.editor _) fun _ => .bind (obeys_print _) fun _ => .bind .get fun w => ?_
  have hshow : Obeys R (openTool tool) :=
    .when obeys_saveMap fun _ => .when obeys_showEntityList fun _ => .ite obeys_showTileList (.pure _)
  cases w.editor.toolEntities? with
  | none => exact .bind (.throw _) fun _ => hshow
  | some es =>
    exact .bind (.forM (fun e => .bind (Tinkers.delete e) fun _ => Tinkers.editor _) es)
      fun _ => .bind (Tinkers.editor _) fun _ => hshow

lemma obeys_showArgument (p : PartId) (name : String) (index : Nat) (x : Int) :
    Obeys R (showArgument p name index x) :=
  .bind .get fun _ => .bind (obeys_placeLabel _ _ _ _ _) fun label =>
    .bind (obeys_placeholder p) fun _ => .bind (obeys_argValues _) fun _ => .lifts fun _ =>
    .bind (Tinkers.field _ _ _) fun field => .bind (Tinkers.editor _) fun _ =>
    .bind (obeys_owner label) fun _ => .bind (Tinkers.editor _) fun _ =>
    .bind (obeys_owner field) fun _ => Tinkers.editor _

lemma obeys_selectEntity (e : EntityId) : Obeys R (selectEntity e) :=
  .bind (Tinkers.editor _) fun _ => .bind (obeys_find e _) fun p =>
    .bind (obeys_placeholder p) fun _ => .lifts fun _ => .lifts fun _ =>
    .bind obeys_clearToolEntities fun _ => .bind .get fun _ =>
    .bind (obeys_placeLabel _ _ _ _ _) fun title => .bind (obeys_owner title) fun _ =>
    .bind (Tinkers.editor _) fun _ => .bind (obeys_bounds title) fun _ =>
    .forM (fun (name, index) => obeys_showArgument p name index _) _

lemma obeys_selectAt (mouseX mouseY : Json) : Obeys R (selectAt mouseX mouseY) := by
  refine .bind (obeys_entityUnder? mouseX mouseY) fun e? => ?_
  cases e? with
  | none => exact .pure _
  | some e => exact obeys_selectEntity e

end Tools

instance : Tinkers Drafts where
  write _ _ := .of_same rfl
  paint _ _ _ := .of_same rfl
  editor := obeys_modifyEditor
  delete := obeys_deleteEntity
  list := drafts_placeList
  field := drafts_placeTextField

lemma drafts_placeEntity (mouseX mouseY : Json) : Obeys Drafts (placeEntity mouseX mouseY) :=
  .bind (obeys_worldPoint mouseX mouseY) fun _ => .bind obeys_currentMap fun _ => .lifts fun _ =>
    .lifts fun _ => .bind .get fun _ => .lifts fun _ => .lifts fun _ =>
    .bind obeys_currentArea fun a => (grows_placePlaceholder a _ _ _ _).allow

lemma drafts_deleteAt (mouseX mouseY : Json) : Obeys Drafts (deleteAt mouseX mouseY) := by
  refine .bind (obeys_entityUnder? mouseX mouseY) fun e? => ?_
  cases e? with
  | none => exact .pure _
  | some e => exact obeys_deleteEntity e

instance : Edits Drafts where
  switch := drafts_switchTo
  setTool := obeys_setTool
  leave := .bind obeys_clearToolEntities fun _ => .bind (obeys_modifyEditor _) fun _ => drafts_switchTo _
  select := obeys_selectAt
  place := drafts_placeEntity
  delete := drafts_deleteAt

/-! ## Acting -/

lemma drafts_setPart {p : Part} (h : w.rollsOf id = p.rolls) :
    Drafts w ((setPart id p).runOn w).2 :=
  .modifyOwned fun o ho => by rw [← h, rollsOf_of ho]

lemma drafts_scroll {s : ScrollView} (h : w.rollsOf id = [.active, .overlay]) (amount : Scalar) :
    Drafts w ((scroll id s amount).runOn w).2 := by
  have hid : id.index < w.parts.size :=
    lt_of_mem_rollsOf (r := .active) (by rw [h]; exact (.head _))
  have hset (s' : ScrollView) {u : World} (hu : Drafts w u) :
      Ends u (setPart id (.scrollView s')) (fun _ => Drafts w) (Drafts w) :=
    .of_ok rfl (hu.trans (drafts_setPart ((hu.rolls id hid).trans h)))
  refine Ends.snd (.lift (fun _ _ => .refl w) fun _ _ => .lift (fun _ _ => .refl w) fun _ _ =>
    .lift (fun _ _ => .refl w) fun _ _ => (hset _ (.refl w)).bind fun _ u hu => ?_)
  refine .lift (fun _ _ => hu) fun _ _ => (hset _ hu).bind fun _ v hv => ?_
  refine .of_obeys (R := Drafts) (.forM (fun (child, index) => ?_) _) (fun _ _ => hv.trans) fun _ =>
    hv.trans
  exact .lifts fun _ => .lifts fun _ => drafts_modifyEntity child _

lemma drafts_updateCombat (id : PartId) (c : Combat) : Obeys Drafts (updateCombat id c) := by
  refine .lifts fun _ => .bind (obeys_modifyCombat id _) fun _ => .lifts fun _ =>
    .bind (obeys_modifyCombat id _) fun _ => .lifts fun _ =>
    .bind (obeys_modifyCombat id _) fun _ => ?_
  split
  · exact .pure _
  · exact .bind (obeys_owner _) fun held => .bind (obeys_owner id) fun e => .bind (obeys_entity e)
      fun _ => .bind (drafts_modifyEntity held _) fun _ => .lifts fun _ =>
      drafts_modifyEntity held _

instance : Roving Drafts where
  move e f _ := drafts_modifyEntity e f
  look := obeys_lookAround
  arm id me := .bind (obeys_player id) fun _ => .bind (.orAbsent _) fun combat =>
    .bind (obeys_followInventory combat) fun _ => obeys_handleClick me combat

instance : Lively Drafts where
  scroll _ _ _ _ amount ho hs := drafts_scroll (by rw [rollsOf_of ho, hs]; rfl) amount
  combat w id _ c _ _ := drafts_updateCombat id c w

end Game

end TileQuest
