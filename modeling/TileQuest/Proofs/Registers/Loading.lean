import TileQuest.Proofs.Registers.Placing

/-!
# Loading areas and building scenes

Whatever a record of a map file makes comes to the area complete, or is reported while nothing of it
is registered. An area is loaded into an empty world, and so is a scene built. So the registers
hold what is in the area however far loading gets, and what stands for entities in the editor follows
a rule if it does so after the records of a file were loaded (`World.Rule.Loads`).

In play nothing stands for something else, so that taking everything down cannot fail. Whoever was
there is an entity without parts from then on, whatever comes after, and an enemy is still after
whom it was after (`World.aftermath`).
-/

namespace TileQuest

variable {rule : Rule} {w : World} {a : AreaId} {d : Disk} {β : Type}

/-! ## The records of a file -/

/-- The tile on which the editor puts the entity of a record. -/
def MapFile.tileOf (line : String) : Except Fault (Int × Int) := do
  let r ← Record.ofLine line
  let _ ← entry Factory.all (← r.factory.toIndex)
  return (r.column, r.row)

inductive MapFile.Lists (bytes : List UInt8) (lines : List String) : Prop where
  | binary {tail rest : List UInt8} {map : TileMap} (first : bytes = 0 :: tail)
    (tiles : MapFile.readTiles tail = .ok (map, rest)) (records : MapFile.readRecords rest = .ok lines)
  | text {text : String} {halves : MapFile.Parts} (decoded : MapFile.readText bytes = .ok text)
    (divided : MapFile.halves text = .ok halves) (records : halves.records = lines)

def Disk.Lists (d : Disk) (lines : List String) : Prop :=
  ∃ path data, d.read path = .ok data ∧ MapFile.Lists data.content lines

namespace World

variable {w' : World}

/-! ## An empty area -/

/-- Nothing is in the area that the game is in, and all is in order. -/
structure Bare (rule : Rule) (d : Disk) (a : AreaId) (w : World) : Prop
    extends w.Settled rule a where
  empty : w.present = []
  disk : w.disk = d

/-- Where there was nothing in the area, there is nothing afterwards. -/
def Bares (rule : Rule) (d : Disk) (a : AreaId) (w w' : World) : Prop :=
  w.Bare rule d a → w'.Bare rule d a

instance : Game.Allows Steady (Bares rule d a) :=
  ⟨fun _ _ hst h => ⟨⟨h.rest.of_steady hst, hst.stays.area.trans h.area⟩,
    hst.stays.present_eq.trans h.empty, hst.shed.disk.trans h.disk⟩⟩

lemma Bare.modifyArea (h : w.Bare rule d a) {f : Area → Area}
    (hf : ∀ ar, ar.entities = [] → (f ar).entities = []) :
    Bare rule d a { w with areas := w.areas.modify a.index f } := by
  have hpres := present_modifyArea (w := w) (a := a) (f := f) fun ar har => by
    have hnil := (h.entities_eq har).trans h.empty
    rw [hnil, hf ar hnil]
  refine ⟨⟨h.rest.of_present rfl (fun r => by cases r <;> rfl) hpres fun a' ha' => ?_, h.area⟩,
    hpres.trans h.empty, h.disk⟩
  simpa using h.rest.area a' ha'

/-- A click is on a tile while a map is edited, and there is an entity to be placed. -/
structure Aims (w : World) (mouseX mouseY : Json) (tile : Int × Int) : Prop where
  point : ∃ x y, (Game.worldPoint mouseX mouseY).runOn w = (.ok (x, y), w) ∧
    TileMap.cell x = .ok tile.1 ∧ TileMap.cell y = .ok tile.2
  map : ∃ map, Game.currentMap.runOn w = (.ok map, w)
  entity : ∃ index factory, w.editor.entity.toIndex = .ok index ∧
    entry Factory.all index = .ok factory

def Rule.Loads (rule : Rule) (d : Disk) : Prop :=
  ∀ a lines w, d.Lists lines → w.Bare rule d a →
    Game.Ends w (Game.loadRecords a lines) (fun _ => Settled rule a) (AtRest rule)

end World

namespace Game

open World

variable {w0 : World} {E : World → Prop}

lemma builds_makeEntity (h0 : w0.AtRest rule) (factory : Int) (args : Json) :
    Builds rule w0 [] [] (makeEntity factory args) := by
  have htele (name : String) {icon : String} (h : Factory.teleporter name icon ∈ Factory.all) :
      Builds rule w0 [] [] (makeTeleporter icon args) := by
    obtain ⟨image, himg⟩ := load_icon h
    exact builds_makeTeleporter h0 himg args
  rw [makeEntity]
  split
  · exact builds_makePlayer h0
  · exact builds_makeTree h0
  · exact builds_makeRock h0
  · exact htele "Teleporter Up" (by simp [Factory.all])
  · exact htele "Teleporter Right" (by simp [Factory.all])
  · exact htele "Teleporter Down" (by simp [Factory.all])
  · exact htele "Teleporter Left" (by simp [Factory.all])
  · exact builds_makeDropped h0 args
  · exact builds_makeCharacter h0 args
  · exact builds_makeEnemy h0 args
  · exact ⟨fun w hw => .throw hw.left⟩

lemma ends_createEntity (h : w.AtRest rule) (factory column row : Int) (args : Json) :
    Ends w (createEntity factory (.ofInt column) (.ofInt row) args) (Built rule w)
      (Left rule w) := by
  refine ((builds_makeEntity h factory args).ends w (.start h)).bind fun e u hu => ?_
  have hu1 : Built rule w e (u.withEntity e ({ · with x := .ofInt (column * 32) })) :=
    hu.move h fun _ => rfl
  have hu2 := hu1.move (f := ({ · with y := .ofInt (row * 32) })) h fun _ => rfl
  exact .of_ok rfl hu2

/-! ## Loading -/

lemma ends_loadRecord (h : w.Settled rule a) {line : String}
    (hl : ∀ tile, MapFile.tileOf line = .ok tile → rule.Admits (w.seating w.live) w.taken tile) :
    Ends w (loadRecord a line) (fun _ => Settled rule a) (Settled rule a) := by
  refine .lift (fun _ _ => h) fun r hr => .look (obeys_area a) h fun ar _ => ?_
  by_cases hedit : ar.isEdited = true
  · rw [if_pos hedit]
    refine .lift (fun _ _ => h) fun index hidx => .lift (fun _ _ => h) fun factory hfac => ?_
    refine ends_placePlaceholder (r.column, r.row) h _ _ (hl _ ?_)
    rw [MapFile.tileOf, hr, ok_bind, hidx, ok_bind, hfac, ok_bind]
    rfl
  · rw [if_neg hedit]
    refine .lift (fun _ _ => h) fun factory _ => ?_
    refine Ends.bind ((ends_createEntity h.rest factory r.column r.row _).mono (fun _ _ hu => hu)
      fun _ hu => h.of_left hu) fun e u hu => ?_
    exact .of_ok rfl ⟨hu.withMember h.rest h.area, hu.stays.area.trans h.area⟩

lemma settles_loadRecords [rule.Open] (a : AreaId) (lines : List String) :
    Obeys (Settles rule a) (loadRecords a lines) := by
  have hrec (line : String) : Obeys (Settles rule a) (loadRecord a line) := fun w h =>
    (ends_loadRecord h fun r _ => Rule.Open.admits _ _ _ h.rest.ruled).snd
  exact .forM (fun line => .tryCatch (hrec line) fun _ => obeys_note _) lines

lemma loads_of_open [rule.Open] (d : Disk) : rule.Loads d := fun a lines _ _ h =>
  .of_obeys (settles_loadRecords a lines) (fun _ _ hu => hu h.toSettled) fun _ hu =>
    (hu h.toSettled).rest

lemma bares_modifyArea (a : AreaId) {f : Area → Area}
    (hf : ∀ ar, ar.entities = [] → (f ar).entities = []) :
    Obeys (Bares rule d a) (modifyArea a f) :=
  fun _ h => h.modifyArea hf

lemma bares_layGround (a : AreaId) (map : TileMap) : Obeys (Bares rule d a) (layGround a map) := by
  intro w h
  have hgr : Bare rule d a { w with
      grounds := w.grounds.push map
      background := w.background ++ [.ground ⟨w.grounds.size⟩] } :=
    ⟨⟨h.rest.of_present rfl (fun r => by cases r <;> rfl) rfl h.rest.area, h.area⟩, h.empty, h.disk⟩
  exact hgr.modifyArea fun _ hnil => hnil

lemma Ends.bare {α : Type} {g : Game α} {f : α → Game β} {Q : β → World → Prop}
    (hg : Obeys (Bares rule d a) g) (h : w.Bare rule d a)
    (hf : ∀ b u, u.Bare rule d a → Ends u (f b) Q (AtRest rule)) : Ends w (g >>= f) Q (AtRest rule) :=
  .watch hg (fun _ hu => (hu h).rest) fun b u _ hu => hf b u (hu h)

lemma ends_reset_bare (h : w.Settled rule a) (hd : w.disk = d) :
    Ends w reset (fun _ => Bare rule d a) (AtRest rule) :=
  ((ends_reset h.rest).and_obeys (R := Shed) obeys_reset).mono
    (fun _ _ ⟨⟨hrest, hshr, hemp, _⟩, hshed⟩ =>
      ⟨⟨hrest, hshr.area.trans h.area⟩, hemp, hshed.disk.trans hd⟩) fun _ hu => hu.1.2

lemma Ends.readFile {f : List UInt8 → Game β} {Q : β → World → Prop} {E : World → Prop}
    {file : String} (hE : E w)
    (hf : ∀ data, w.disk.read (mapPath file) = .ok data → Ends w (f data.content) Q E) :
    Ends w (readMap file >>= f) Q E := by
  rw [readMap, bind_assoc]
  refine .step (run_get w) ?_
  rw [bind_assoc]
  exact .lift (fun _ _ => hE) fun data hdata => .step (run_pure _ _) (hf data hdata)

lemma Ends.readMap {f : List UInt8 → Game β} {Q : β → World → Prop} {file : String}
    (h : w.Bare rule d a)
    (hf : ∀ bytes, (∀ lines, MapFile.Lists bytes lines → d.Lists lines) → Ends w (f bytes) Q
      (AtRest rule)) : Ends w (readMap file >>= f) Q (AtRest rule) :=
  .readFile h.rest fun data hdata => hf _ fun _ hls => ⟨_, data, h.disk ▸ hdata, hls⟩

lemma ends_loadBinary (hl : rule.Loads d) (h : w.Bare rule d a) (file : String)
    {bytes : List UInt8} (hbs : ∀ lines, MapFile.Lists (0 :: bytes) lines → d.Lists lines) :
    Ends w (loadBinary a file bytes) (fun _ => Settled rule a) (AtRest rule) := by
  refine .bare (bares_modifyArea a fun _ _ => rfl) h fun _ u hu => ?_
  refine .lift (fun _ _ => hu.rest) fun (map, rest) hts => ?_
  refine .bare (bares_layGround a _) hu fun _ u hu => ?_
  refine .lift (fun _ _ => hu.rest) fun lines hls => ?_
  exact hl a lines u (hbs lines (.binary rfl hts hls)) hu

lemma ends_loadText (hl : rule.Loads d) (h : w.Bare rule d a) (file : String) :
    Ends w (loadText a file) (fun _ => Settled rule a) (AtRest rule) := by
  refine .bare (obeys_print _) h fun _ u hu => ?_
  refine (ends_reset_bare hu.toSettled hu.disk).bind fun _ u hu => .readMap hu fun bytes hbs => ?_
  refine .lift (fun _ _ => hu.rest) fun text ht => ?_
  refine .bare (bares_modifyArea a fun _ hnil => hnil) hu fun _ u hu => ?_
  refine .lift (fun _ _ => hu.rest) fun halves hhalf => ?_
  cases TileMap.ofText halves.tiles with
  | error fault =>
    refine .step (u := { u with background := u.background ++ [.unfinished] }) rfl (.throw ?_)
    exact hu.rest.of_present rfl (fun r => by cases r <;> rfl) rfl hu.rest.area
  | ok map =>
    refine .bare (bares_layGround a _) hu fun _ u hu => ?_
    refine .bare (bares_modifyArea a fun _ _ => rfl) hu fun _ u hu => ?_
    exact hl a _ u (hbs _ (.text ht hhalf rfl)) hu

lemma ends_loadNamed_of_reset (hl : rule.Loads d)
    (hreset : Ends w reset (fun _ => Bare rule d a) E) (hf : ∀ u, u.AtRest rule → E u)
    (file : Json) : Ends w (loadNamed a file) (fun _ => Settled rule a) E := by
  have hrest {g : Game Unit} (hg : ∀ u, u.Bare rule d a → Ends u g (fun _ => Settled rule a)
      (AtRest rule)) : Ends w (reset >>= fun _ => g) (fun _ => Settled rule a) E :=
    hreset.bind fun _ u hu => (hg u hu).mono (fun _ _ hv => hv) hf
  rw [loadNamed]
  split
  · rename_i name _
    refine hrest fun u hu => .readMap hu fun bytes hbs => ?_
    cases bytes with
    | nil => exact .throw hu.rest
    | cons first bytes =>
      simp only
      split
      · exact .throw hu.rest
      · split
        · rename_i hfst
          exact ends_loadBinary hl hu name (hfst ▸ hbs)
        · exact ends_loadText hl hu name
  · exact hrest fun u hu => .throw hu.rest

lemma ends_loadNamed (hl : rule.Loads w.disk) (h : w.Settled rule a) (file : Json) :
    Ends w (loadNamed a file) (fun _ => Settled rule a) (AtRest rule) :=
  ends_loadNamed_of_reset hl (ends_reset_bare h rfl) (fun _ hu => hu) file

lemma run_openArea_bind (file : Json) (isEdited : Bool) (f : AreaId → Game β) (w : World) :
    (openArea file isEdited >>= f).runOn w =
      (loadNamed ⟨w.areas.size⟩ file >>= fun _ => f ⟨w.areas.size⟩).runOn
        { w with areas := w.areas.push { isEdited }, area? := some ⟨w.areas.size⟩ } := by
  rw [openArea, bind_assoc, run_get_bind, bind_assoc, run_modify_bind, bind_assoc]
  rfl

lemma ends_openArea (hl : rule.Loads w.disk) (h : w.AtRest rule) (hemp : w.present = [])
    (file : Json) (isEdited : Bool) :
    Ends w (openArea file isEdited) (Settled rule) (AtRest rule) := by
  let a : AreaId := ⟨w.areas.size⟩
  let u : World := { w with areas := w.areas.push { isEdited }, area? := some a }
  have hpres : u.present = w.present := by
    rw [hemp]
    simp [u, a, present]
  have hu : u.Settled rule a := by
    refine ⟨h.of_present rfl (fun r => by cases r <;> rfl) hpres ?_, rfl⟩
    rintro _ ⟨⟩
    simp [u, a]
  refine .step (run_get w) (.step (u := u) rfl ?_)
  exact (ends_loadNamed (w := u) hl hu file).bind fun _ v hv => .pure hv

/-! ## Stages -/

def toolbar : Game Unit := do
  let _ ← spawn [← newEditorHelper .useTool] 0 0
  placeToolButton (.setTool "Click") "mouse_tool.png" 0
  placeToolButton (.setTool "Tile") "tile_tool.png" 1
  placeToolButton (.setTool "Save") "save.png" 2
  placeToolButton (.setTool "Entity") "entity.png" 3
  placeToolButton (.setTool "Delete") "trash.png" 4
  placeToolButton .leaveEditor "cancel.png" 5

lemma steady_toolbar : Obeys Steady toolbar :=
  .of_handles fun _ => .part (crafts_newEditorHelper _) rfl fun _ => .then (.spawn (by simp)) fun _ =>
    .bind (obeys_placeToolButton _ _ _) fun _ => .bind (obeys_placeToolButton _ _ _) fun _ =>
    .bind (obeys_placeToolButton _ _ _) fun _ => .bind (obeys_placeToolButton _ _ _) fun _ =>
    .bind (obeys_placeToolButton _ _ _) fun _ => obeys_placeToolButton _ _ _

lemma ends_buildEditor (hl : rule.Loads w.disk) (h : w.AtRest rule) (hemp : w.present = []) :
    Ends w buildEditor (fun _ => AtRest rule) (AtRest rule) := by
  let ed : Editor := { w.editor with tool := .str "Click", toolEntities? := some [] }
  have hu : AtRest rule { w with editor := ed } := h.withEditor nofun
  refine .step (u := { w with editor := ed }) rfl (.step (run_get _) ?_)
  refine (ends_openArea (w := { w with editor := ed }) hl hu hemp _ true).bind fun _ v hv => ?_
  exact .kept steady_toolbar.allow hv.rest

lemma ends_build (hl : rule.Loads w.disk) (h : w.AtRest rule) (hemp : w.present = [])
    (scene : Scene) : Ends w (build scene) (fun _ => AtRest rule) (AtRest rule) := by
  cases scene with
  | menu => exact .kept steady_buildMenu.allow h
  | play => exact (ends_openArea hl h hemp _ false).bind fun _ v hv => .pure hv.rest
  | chooser => exact .kept steady_buildChooser.allow h
  | editor => exact ends_buildEditor hl h hemp
  | demo => exact .kept steady_buildDemo.allow h
  | blank => exact .pure h

lemma run_switchTo {u : World} {stage : String} {scene : Scene}
    (hreset : reset.runOn w = (.ok (), u)) (hscene : lookup u.scenes stage = .ok scene) :
    (switchTo stage).runOn w = (build scene).runOn
      { u with stage? := some stage, log := .line ("Switching to " ++ stage) :: u.log } := by
  rw [switchTo, bind_ok hreset, run_modify_bind, run_get_bind]
  exact run_lift_bind hscene _ _

lemma ends_switchTo_of_reset (hl : rule.Loads d)
    (hreset : Ends w reset (fun _ u => u.AtRest rule ∧ u.present = [] ∧ u.disk = d) E)
    (hf : ∀ u, u.AtRest rule → E u) (stage : String) :
    Ends w (switchTo stage) (fun _ => AtRest rule) E := by
  refine hreset.bind ?_
  rintro _ u ⟨hu, hemp, hd⟩
  suffices h : Ends u _ (fun _ => AtRest rule) (AtRest rule) from h.mono (fun _ _ hv => hv) hf
  refine .step (u := { u with stage? := some stage }) rfl (.step (run_get _) ?_)
  have hu' : AtRest rule { u with stage? := some stage } :=
    hu.of_present rfl (fun r => by cases r <;> rfl) rfl hu.area
  refine .lift (fun _ _ => hu') fun scene _ => ?_
  refine .watch (R := Steady) (obeys_print _) (fun _ hv => hu'.of_steady hv) fun _ v _ hv => ?_
  refine ends_build ?_ (hu'.of_steady hv) (hv.stays.present_eq.trans hemp) scene
  rwa [hv.shed.disk, show World.disk { u with stage? := some stage } = d from hd]

lemma ends_switchTo (hl : rule.Loads w.disk) (h : w.AtRest rule) (stage : String) :
    Ends w (switchTo stage) (fun _ => AtRest rule) (AtRest rule) := by
  refine ends_switchTo_of_reset hl ?_ (fun _ hu => hu) stage
  exact ((ends_reset h).and_obeys (R := Shed) obeys_reset).mono
    (fun _ _ ⟨⟨hrest, _, hemp, _⟩, hshed⟩ => ⟨hrest, hemp, hshed.disk⟩) fun _ hu => hu.1.2

lemma kept_switchTo [rule.Open] (stage : String) : Obeys (Kept rule) (switchTo stage) :=
  fun _ h => (ends_switchTo (loads_of_open _) h stage).snd

/-! ## The editor at work -/

lemma ends_placeEntity (h : w.AtRest rule) {mouseX mouseY : Json}
    (haims : ∀ tile, w.Aims mouseX mouseY tile → rule.Admits (w.seating w.live) w.taken tile) :
    Ends w (placeEntity mouseX mouseY) (fun _ => AtRest rule) (AtRest rule) := by
  refine .look (obeys_worldPoint _ _) h fun (x, y) hpoint => .look obeys_currentMap h fun _ hmap =>
    .lift (fun _ _ => h) fun column hcol => .lift (fun _ _ => h) fun row hrow =>
    .step (run_get w) (.lift (fun _ _ => h) fun index hidx =>
    .lift (fun _ _ => h) fun factory hfac => .look obeys_currentArea h fun a hrun => ?_)
  have hsett : w.Settled rule a := ⟨h, (run_currentArea_eq_ok.1 hrun).1⟩
  exact (ends_placePlaceholder (column, row) hsett _ _ (haims _
    ⟨⟨x, y, hpoint, hcol, hrow⟩, ⟨_, hmap⟩, index, factory, hidx, hfac⟩)).mono
    (fun _ _ hu => hu.rest) fun _ hu => hu.rest

lemma kept_placeEntity [rule.Open] (mouseX mouseY : Json) :
    Obeys (Kept rule) (placeEntity mouseX mouseY) := fun _ h =>
  (ends_placeEntity h fun _ _ => Rule.Open.admits _ _ _ h.ruled).snd

lemma shed_clearToolEntities : Obeys Shed clearToolEntities := by
  refine .bind .get fun w => ?_
  cases w.editor.toolEntities? with
  | none => exact .throw _
  | some es => exact .bind (.forM obeys_deleteEntity es) fun _ => obeys_modifyEditor _

lemma ends_leaveEditor (hl : rule.Loads w.disk) (h : w.AtRest rule) :
    Ends w leaveEditor (fun _ => AtRest rule) (AtRest rule) := by
  refine Ends.bind (((Ends.kept kept_clearToolEntities h).and_obeys shed_clearToolEntities).mono
    (fun _ _ hu => hu) fun _ hu => hu.1) ?_
  rintro _ u ⟨hu, hshed⟩
  refine .watch (R := Steady) (obeys_modifyEditor_of_tools fun _ => by rfl)
    (fun _ hv => hu.of_steady hv) fun _ v _ hv => ?_
  exact ends_switchTo (by rwa [hv.shed.disk, hshed.disk]) (hu.of_steady hv) _

lemma kept_leaveEditor [rule.Open] : Obeys (Kept rule) leaveEditor :=
  fun _ h => (ends_leaveEditor (loads_of_open _) h).snd

class Edits (R : World → World → Prop) : Prop extends Writes R where
  switch : ∀ stage, Obeys R (switchTo stage)
  setTool : ∀ tool, Obeys R (setTool tool)
  leave : Obeys R leaveEditor
  select : ∀ x y, Obeys R (selectAt x y)
  place : ∀ x y, Obeys R (placeEntity x y)
  delete : ∀ x y, Obeys R (deleteAt x y)

instance [rule.Open] : Edits (Kept rule) where
  switch := kept_switchTo
  setTool := kept_setTool
  leave := kept_leaveEditor
  select := kept_selectAt
  place := kept_placeEntity
  delete := kept_deleteAt

section Editing

variable {R : World → World → Prop} [IsPreorder World R] [Allows (Orderly Steady) R] [Edits R]

lemma obeys_useTool : Obeys R useTool := by
  refine .bind .get fun w => .lifts fun isOff => .ite (.pure _) ?_
  refine .lifts fun x => .lifts fun y => ?_
  split
  · exact Edits.select x y
  · exact obeys_placeTile x y
  · exact Edits.place x y
  · exact Edits.delete x y
  · exact .pure _

lemma obeys_createMap : Obeys R createMap := by
  have hmake (name : String) : Obeys R (do
      if (← get).disk.has (mapPath name) then print ("Error, map already exists: " ++ name)
      else
        copyTemplate name
        setMapFile (.str name)
        switchTo "EditorEditMap") :=
    .bind .get fun _ => .ite (obeys_print _) <|
      .bind (.when (.throw _) fun _ => .bind .get fun _ => .lifts fun _ => .bind .get fun _ =>
        .lifts fun disk => Writes.write disk) fun _ =>
      .bind (obeys_modifyEditor_of_tools fun _ => by rfl) fun _ => Edits.switch _
  have hfld (field : PartId) (maxText : Json) (name : String) : Obeys R (do
      modifyField field ({ · with maxText })
      say field name
      if (← get).disk.has (mapPath name) then print ("Error, map already exists: " ++ name)
      else
        copyTemplate name
        setMapFile (.str name)
        switchTo "EditorEditMap") :=
    .bind (obeys_modifyField field _) fun _ => .bind (obeys_say field _) fun _ => hmake name
  refine .bind .get fun _ => .bind (.orAbsent _) fun field => .bind (obeys_label field) fun l => ?_
  cases l.text with
  | str text =>
    refine .bind (.pure _) fun text => .ite (.bind (obeys_part field) fun p => ?_) (hmake _)
    cases p with
    | textField _ f => exact .lifts fun _ => hfld field _ _
    | _ => exact .bind (.throw _) fun _ => hfld field _ _
  | _ =>
    refine .bind (.throw _) fun text => .ite (.bind (obeys_part field) fun p => ?_) (hmake _)
    cases p with
    | textField _ f => exact .lifts fun _ => hfld field _ _
    | _ => exact .bind (.throw _) fun _ => hfld field _ _

lemma obeys_perform (action : Action) : Obeys R (perform action) := by
  cases action with
  | startPlay | openChooser | backToMenu => exact Edits.switch _
  | quit => exact obeys_same fun _ => by rfl
  | createMap => exact obeys_createMap
  | setTool tool => exact Edits.setTool _
  | leaveEditor => exact Edits.leave
  | useTool => exact obeys_useTool
  | saveArgs => exact obeys_saveArgs
  | unfit | gone => exact .throw _
  | note tag => exact obeys_same fun _ => by rfl

lemma obeys_choose (choice : Choice) (item : Json) (index : Int) :
    Obeys R (choose choice item index) := by
  cases choice with
  | loadMap =>
    exact .bind (obeys_print _) fun _ => .bind (obeys_modifyEditor_of_tools fun _ => by rfl) fun _ =>
      Edits.switch _
  | setTile | setEntity => exact obeys_modifyEditor_of_tools fun _ => by rfl
  | unfit => exact .throw _
  | note tag => exact obeys_same fun _ => by rfl

end Editing

end Game

/-! ## Starting anew -/

namespace World

variable {u : World} {p : PartId} {e : EntityId}

/-- Nothing in the area stands for something else, as things do in the editor. -/
def NoStandIns (w : World) : Prop := ∀ p ∈ w.live, w.gist? p ≠ some .placeholder

lemma NoStandIns.of_partIs (h : ∀ p ∈ w.live, w.partIs Part.isPlaceholder p = false) :
    w.NoStandIns := by
  intro p hp hg
  obtain ⟨o, ho, hgist⟩ := gist?_eq_some.1 hg
  have hno := h p hp
  rw [partIs_of ho] at hno
  cases hpart : o.part with
  | placeholder => rw [hpart] at hno; cases hno
  | combat c => rw [hpart, Part.gist_combat] at hgist; cases hgist
  | _ => rw [hpart] at hgist; cases hgist

/-- What is left when everything in the area was taken down. -/
def aftermath (w : World) : Rule := .without (· ∈ w.present) w.Hunts

instance (w : World) : w.aftermath.Open := inferInstanceAs (Rule.Open (.without _ _))

lemma AtRest.seat (h : w.AtRest rule) (hno : w.NoStandIns) : w.AtRest (.free True) :=
  { h with
    seated := fun _ p hp hg => absurd hg (hno p hp)
    ruled := trivial
    past := ⟨nofun, nofun⟩ }

lemma Shrinks.hunts (h : Shrinks w u) (hp : w.Hunts p e) : u.Hunts p e := by
  obtain ⟨hown, combat?, other, health?, hg⟩ := hp
  refine ⟨(h.owner p).trans hown, combat?, other, health?, ?_⟩
  rcases h.gist p with hsame | ⟨items, hv⟩
  · exact hsame.trans hg
  · cases hg.symm.trans hv

end World

namespace Game

open World

section

variable (h : w.AtRest rule) (hno : w.NoStandIns)
include h hno

lemma ends_reset_play :
    Ends w reset (fun _ u => u.AtRest w.aftermath ∧ u.present = [] ∧ Shrinks w u ∧ Shed w u)
      fun _ => False := by
  refine ((ends_reset (h.seat hno)).and_obeys (R := Shed) obeys_reset).mono ?_ fun _ hu =>
    hu.1.1 trivial
  rintro _ u ⟨⟨hrest, hshr, hemp, hbare⟩, hshed⟩
  refine ⟨⟨hrest.toSound.adopt u.taken (fun _ => trivial) trivial ⟨fun e he => ?_, fun p e hp => ?_⟩,
    hrest.here, hrest.area⟩, hemp, hshr, hshed⟩
  · exact ⟨hshr.entities ▸ h.here e he, hbare e he⟩
  · exact hshr.hunts hp

lemma ends_switchTo_play (stage : String) :
    Ends w (switchTo stage) (fun _ u => u.AtRest w.aftermath) (fun u => u.AtRest w.aftermath) := by
  refine ends_switchTo_of_reset (loads_of_open w.disk) ?_ (fun _ hu => hu) stage
  exact (ends_reset_play h hno).mono (fun _ _ hu => ⟨hu.1, hu.2.1, hu.2.2.2.disk⟩) fun _ hu => hu.elim

lemma ends_loadNamed_play (ha : w.area? = some a) (file : Json) :
    Ends w (loadNamed a file) (fun _ => Settled w.aftermath a) (AtRest w.aftermath) := by
  refine ends_loadNamed_of_reset (loads_of_open w.disk) ?_ (fun _ hu => hu) file
  refine (ends_reset_play h hno).mono ?_ fun _ hu => hu.elim
  rintro _ u ⟨hrest, hemp, hshr, hshed⟩
  exact ⟨⟨hrest, hshr.area.trans ha⟩, hemp, hshed.disk⟩

end

end Game

end TileQuest
