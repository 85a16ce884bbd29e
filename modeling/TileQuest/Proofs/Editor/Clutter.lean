import Mathlib.Data.List.Perm.Subperm
import TileQuest.Proofs.Editor.Places
import TileQuest.Proofs.Rolls.Leftovers

/-!
# Active parts that pile up in the editor

A text field that is deleted stays active. The tool for tiles comes with a field for the size of the
brush, and it is deleted when another tool is taken or an entity is selected. So however somebody
takes tools and selects entities, there is one more active part for every time the tool for tiles was
taken (`World.Filed.leftovers_pile_up`).
-/

namespace TileQuest

variable {w v : World} {edit : Edit}

namespace World

def clutter (w : World) : List PartId := w.active.filter w.lingers

lemma mem_clutter {p : PartId} : p ∈ w.clutter ↔ p ∈ w.active ∧ w.lingers p = true := List.mem_filter

lemma length_clutter_le (w : World) : w.clutter.length ≤ w.active.length := List.length_filter_le ..

lemma Filed.nodup_clutter (hw : w.Filed) : w.clutter.Nodup := (hw.nodup .active).filter _

lemma Lingers.clutter_subset (h : Lingers w v) : w.clutter ⊆ v.clutter := fun p hp => by
  obtain ⟨hact, hling⟩ := mem_clutter.1 hp
  exact mem_clutter.2 ⟨h.active p hact hling,
    (h.lingers p (lt_of_lingers hling)).trans hling⟩

lemma Lingers.length_clutter_le (h : Lingers w v) (hw : w.Filed) :
    w.clutter.length ≤ v.clutter.length :=
  (List.subperm_of_subset hw.nodup_clutter h.clutter_subset).length_le

/-- Some part that was not there before is active and lingers. -/
def Litters (w v : World) : Prop := ∃ p ∈ v.clutter, w.parts.size ≤ p.index

lemma Lingers.length_clutter_lt (h : Lingers w v) (hw : w.Filed) (hnew : Litters w v) :
    w.clutter.length < v.clutter.length := by
  obtain ⟨p, hp, hle⟩ := hnew
  have hnotMem : p ∉ w.clutter := fun hmem =>
    Nat.not_lt.2 hle (lt_of_lingers (mem_clutter.1 hmem).2)
  exact (List.subperm_of_subset (List.nodup_cons.2 ⟨hnotMem, hw.nodup_clutter⟩)
    (List.cons_subset.2 ⟨hp, h.clutter_subset⟩)).length_le

end World

namespace Game

open World

/-! ## Taking tools and selecting entities -/

lemma lingers_same {f : World → World} (hf : ∀ w, ((f w).parts, (f w).active) = (w.parts, w.active)) :
    Obeys Lingers (modify f) := (dismisses_same hf).allow

lemma lingers_modifyEditor (f : Editor → Editor) : Obeys Lingers (modifyEditor f) :=
  lingers_same fun _ => rfl

instance : Tinkers Lingers where
  write _ := lingers_same fun _ => rfl
  paint _ _ := lingers_same fun _ => rfl
  editor := lingers_modifyEditor
  delete e := (dismisses_deleteEntity e).allow
  list := obeys_placeList
  field := obeys_placeTextField

/-! ## Text fields -/

/-- When the step completes, some new part is active and lingers. -/
def Adds {α : Type} (g : Game α) : Prop := ∀ w a v, g.runOn w = (.ok a, v) → Litters w v

section Adds

variable {β : Type} {g : Game α} {f : α → Game β}

lemma Adds.before (hg : Adds g) (hf : ∀ a, Obeys Lingers (f a)) : Adds (g >>= f) := by
  intro w b v hrun
  obtain ⟨a, u, hrun, hrest⟩ := run_bind_eq_ok.1 hrun
  obtain ⟨p, hp, hnew⟩ := hg w a u hrun
  exact ⟨p, ((hf a).of_run hrest).clutter_subset hp, hnew⟩

lemma Adds.after (hg : Obeys Lingers g) (hf : ∀ a, Adds (f a)) : Adds (g >>= f) := by
  intro w b v hrun
  obtain ⟨a, u, hrun, hrest⟩ := run_bind_eq_ok.1 hrun
  obtain ⟨p, hp, hnew⟩ := hf a u b v hrest
  exact ⟨p, hp, (hg.of_run hrun).parts_le.trans hnew⟩

lemma Adds.of_activate {p : Part} (hp : p.lingers = true) (f : PartId → Game β)
    (hf : ∀ id, Obeys Lingers (f id)) : Adds (do
      let id ← newPart p
      enlist id true
      enlistListener id
      activate id
      f id) := by
  intro w b v hrun
  have hmade : Litters w ((do
      let id ← newPart p
      enlist id true
      enlistListener id
      activate id).runOn w).2 := by
    refine ⟨⟨w.parts.size⟩, mem_clutter.2 ⟨List.mem_concat_self, ?_⟩, le_rfl⟩
    exact (lingers_of Array.getElem?_push_size).trans hp
  obtain ⟨id, hid, hnew⟩ := hmade
  exact ⟨id, ((hf _).of_run hrun).clutter_subset hid, hnew⟩

lemma adds_newTextField (spec : FieldSpec) : Adds (newTextField spec) :=
  .after (obeys_firstLabel _ _ _) fun _ => .of_activate rfl _ fun id => .lifts fun _ =>
    .lifts fun _ => .lifts fun _ => .bind (obeys_modifyField id _) fun _ => .lifts fun _ =>
    .lifts fun _ => .bind (obeys_paint _) fun _ => .lifts fun _ => .lifts fun _ => .lifts fun _ =>
    .bind (obeys_paint _) fun _ => .pure id

lemma lingers_placeParts (ids : List PartId) (x y : Json) : Obeys Lingers (placeParts ids x y) := by
  intro w
  rw [run_placeParts]
  exact ⟨(size_given _ ids _).symm.le, fun p _ => lingers_of_gist (gist?_given _ ids _ p),
    fun _ hp _ => hp⟩

lemma adds_placeTextField (spec : FieldSpec) (x y : Scalar) : Adds (placeTextField spec x y) :=
  (adds_newTextField spec).before fun _ => .bind (lingers_placeParts _ _ _) fun _ => .pure _

lemma adds_showTileList : Adds showTileList :=
  .after .get fun _ => .after obeys_currentMap fun _ => .after (.lift _) fun _ =>
    .after (obeys_placeList _ _ _) fun _ => .after (lingers_modifyEditor _) fun _ =>
    .after (obeys_placeLabel _ _ _ _ _) fun label => .after (obeys_bounds label) fun _ =>
    (adds_placeTextField _ _ _).before fun brush => .bind (lingers_modifyEditor _) fun _ =>
    .bind (obeys_owner label) fun _ => .bind (lingers_modifyEditor _) fun _ =>
    .bind (obeys_owner brush) fun _ => lingers_modifyEditor _

lemma adds_setTool_tile : Adds (setTool (.str "Tile")) := by
  have hshow : Adds (do
      if Json.str "Tile" = .str "Save" then saveMap
      if Json.str "Tile" = .str "Entity" then showEntityList
      if Json.str "Tile" = .str "Tile" then showTileList) := by
    rw [if_neg (by decide), if_neg (by decide), if_pos rfl]
    exact adds_showTileList
  refine .after (lingers_modifyEditor _) fun _ => .after (obeys_print _) fun _ => .after .get fun w => ?_
  cases w.editor.toolEntities? with
  | none => exact .after (.throw _) fun _ => hshow
  | some es =>
    exact .after (.forM (fun e => .bind (Tinkers.delete e) fun _ => lingers_modifyEditor _) es)
      fun _ => .after (lingers_modifyEditor _) fun _ => hshow

end Adds

end Game

namespace Edit

/-- A tool is taken or an entity is selected. -/
def isPick : Edit → Bool
  | select _ _ => true
  | setTool _ => true
  | _ => false

def takesTiles : Edit → Bool
  | setTool tool => tool = .str "Tile"
  | _ => false

end Edit

namespace World

open Game

section

variable (hw : w.Filed) (hpick : edit.isPick = true) (hrun : edit.run.runOn w = (.ok (), v))
include hw hpick hrun

lemma Filed.pick : v.Filed ∧ Lingers w v := by
  cases edit with
  | select mouseX mouseY =>
    exact ⟨hw.of_drafts ((obeys_selectAt mouseX mouseY).of_run hrun),
      (obeys_selectAt mouseX mouseY).of_run hrun⟩
  | setTool tool =>
    exact ⟨hw.of_drafts ((obeys_setTool tool).of_run hrun), (obeys_setTool tool).of_run hrun⟩
  | _ => cases hpick

lemma Filed.length_clutter_pick :
    w.clutter.length + (if edit.takesTiles then 1 else 0) ≤ v.clutter.length := by
  have hling := (hw.pick hpick hrun).2
  split
  · rename_i hts
    cases edit with
    | setTool tool =>
      cases of_decide_eq_true hts
      exact hling.length_clutter_lt hw (adds_setTool_tile w () v hrun)
    | _ => cases hts
  · exact hling.length_clutter_le hw

end

lemma Filed.length_clutter_picks (hw : w.Filed) {edits : List Edit}
    (hpicks : ∀ edit ∈ edits, edit.isPick = true)
    (hrun : (edits.forM Edit.run).runOn w = (.ok (), v)) :
    w.clutter.length + edits.countP Edit.takesTiles ≤ v.clutter.length := by
  induction edits generalizing w with
  | nil =>
    cases hrun
    exact le_rfl
  | cons edit edits ih =>
    obtain ⟨_, u, hfst, hrest⟩ := run_bind_eq_ok.1 hrun
    obtain ⟨hpick, hpicks⟩ := List.forall_mem_cons.1 hpicks
    have hstep := hw.length_clutter_pick hpick hfst
    have hrun := ih (hw.pick hpick hfst).1 hpicks hrest
    rw [List.countP_cons]
    omega

/-- **Deleted parts stay active and pile up.**  Of an entity that was deleted, exactly the parts that
linger are left: those that were active still are, and no other register has any of its parts. So
there is an active part more for every time the tool for tiles is taken, whatever tools are taken and
entities selected before and after. -/
theorem Filed.leftovers_pile_up (hw : w.Filed) :
    (∀ e v, (deleteEntity e).runOn w = (.ok (), v) → ∀ p ∈ w.partsOf e, w.CanBreakDown p →
      ∀ r : Roll, p ∈ r.list v ↔ p ∈ r.list w ∧ r = .active ∧ w.lingers p = true) ∧
    ∀ (edits : List Edit) v, (∀ edit ∈ edits, edit.isPick = true) →
      (edits.forM Edit.run).runOn w = (.ok (), v) →
      w.clutter.length + edits.countP Edit.takesTiles ≤ v.active.length := by
  refine ⟨fun e v hrun p hp hable r => hw.mem_deleteEntity_iff hrun hp hable r,
    fun edits v hpicks hrun => ?_⟩
  exact (hw.length_clutter_picks hpicks hrun).trans v.length_clutter_le

/-! The tool for tiles is taken in the editor, and another one, and so on. -/

def tiledPlot : World := ((setTool (.str "Tile")).runOn plot).2

/-- The tool for tiles is put away, taken again and put away. -/
def toAndFro : List Edit := [.setTool (.str "Click"), .setTool (.str "Tile"), .setTool (.str "Click")]

lemma filed_tiledPlot : tiledPlot.Filed := by
  have hemp : beforePlot.Filed :=
    ⟨fun r => by cases r <;> exact List.nodup_nil, fun r p hp => by cases r <;> cases hp⟩
  have hplot : plot.Filed := by
    rw [← switchTo_plot]
    exact hemp.of_drafts (drafts_switchTo "EditorEditMap" beforePlot)
  exact hplot.of_drafts (obeys_setTool _ plot)

lemma tiledPlot_facts : plot.active.length = 7 ∧
    tiledPlot.clutter.length = 8 ∧ tiledPlot.editor.brush? = some ⟨29⟩ ∧
    tiledPlot.partsOf ⟨17⟩ = [⟨29⟩] ∧ ⟨29⟩ ∈ tiledPlot.clutter ∧
    (tiledPlot.parts[29]?.map Owned.lost) = some [] ∧
    ((deleteEntity ⟨17⟩).runOn tiledPlot).1.isOk = true ∧
    ((deleteEntity ⟨17⟩).runOn tiledPlot).2.active.contains ⟨29⟩ = true ∧
    ((toAndFro.forM Edit.run).runOn tiledPlot).1.isOk = true ∧
    ((toAndFro.forM Edit.run).runOn tiledPlot).2.active.length = 9 := by
  decide +kernel

lemma canBreakDown_brush : tiledPlot.CanBreakDown ⟨29⟩ := by
  obtain ⟨-, -, -, -, -, hlost, -⟩ := tiledPlot_facts
  intro o ho
  rw [ho] at hlost
  rw [Option.some.inj hlost]
  exact List.not_mem_nil

/-- The field for the size of the brush stays active, and there is another one after some time. -/
theorem leftovers_pile_up_plot : tiledPlot.Filed ∧
    (∃ v, (deleteEntity ⟨17⟩).runOn tiledPlot = (.ok (), v) ∧ ⟨29⟩ ∈ tiledPlot.partsOf ⟨17⟩ ∧
      tiledPlot.CanBreakDown ⟨29⟩ ∧ ∀ r : Roll, ⟨29⟩ ∈ r.list v ↔ r = .active) ∧
    ∃ v, (toAndFro.forM Edit.run).runOn tiledPlot = (.ok (), v) ∧
      (∀ edit ∈ toAndFro, edit.isPick = true) ∧ 8 + 1 ≤ v.active.length := by
  obtain ⟨-, hclutter, -, hparts, hmem, -, hdelete, -, hpicks, -⟩ := tiledPlot_facts
  have hbrush : ⟨29⟩ ∈ tiledPlot.partsOf ⟨17⟩ := hparts ▸ List.mem_cons_self
  have hall : ∀ edit ∈ toAndFro, edit.isPick = true := by decide
  obtain ⟨hleft, hgrow⟩ := filed_tiledPlot.leftovers_pile_up
  refine ⟨filed_tiledPlot, ⟨_, run_of_isOk hdelete, hbrush, canBreakDown_brush, fun r => ?_⟩,
    _, run_of_isOk hpicks, hall, ?_⟩
  · rw [hleft _ _ (run_of_isOk hdelete) _ hbrush canBreakDown_brush r]
    obtain ⟨hactive, hlingers⟩ := mem_clutter.1 hmem
    exact ⟨fun h => h.2.1, fun h => ⟨h ▸ hactive, h, hlingers⟩⟩
  · have hle := hgrow toAndFro _ hall (run_of_isOk hpicks)
    rwa [hclutter] at hle

/-- The field for the size of the brush is active after its entity was deleted. There are more active
parts when the tool for tiles was taken and put away twice than before it was taken at all. -/
theorem tiledPlot_brush_stays : tiledPlot.editor.brush? = some ⟨29⟩ ∧
    (∃ v, (deleteEntity ⟨17⟩).runOn tiledPlot = (.ok (), v) ∧ ⟨29⟩ ∈ tiledPlot.partsOf ⟨17⟩ ∧
      ⟨29⟩ ∈ v.active) ∧ ∃ v, (toAndFro.forM Edit.run).runOn tiledPlot = (.ok (), v) ∧
      v.active.length = plot.active.length + 2 := by
  obtain ⟨hbefore, -, hbrush, hparts, -, -, hdelete, hstays, hpicks, hafter⟩ := tiledPlot_facts
  refine ⟨hbrush, ⟨_, run_of_isOk hdelete, hparts ▸ List.mem_cons_self, ?_⟩,
    _, run_of_isOk hpicks, ?_⟩
  · exact List.contains_iff_mem.1 hstays
  · rw [hafter, hbefore]

end World

end TileQuest
