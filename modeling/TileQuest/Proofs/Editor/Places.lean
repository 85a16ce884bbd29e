import TileQuest.Proofs.Registers.Frames

/-!
# The places that are taken in the editor

Whatever is placed in the editor takes the key of its tile, and frees it when it is deleted. So the
keys that are taken are always those of entities in the area: a tile on which nothing stands can be
used, and nothing is taken when everything was deleted.
-/

namespace TileQuest

variable {rule : Rule} {w w' : World} {tile tile' : Int × Int}

/-! ## What may happen in the editor -/

/-- Something that happens in the editor, or leads there and away. -/
inductive Edit where
  | switchTo (stage : String)
  | load (file : Json)
  | reset
  | place (mouseX mouseY : Json)
  | delete (mouseX mouseY : Json)
  | select (mouseX mouseY : Json)
  | paint (mouseX mouseY : Json)
  | setTool (tool : Json)
  | setEntity (entity : Json)
  | setTile (tile : Json)
  | setFile (file : Json)
  | saveArgs
  | leave
  | look (camera : Rect)
  | input (input : Input)
  | files (disk : Disk)

namespace Edit

/-- What happens. -/
def run : Edit → Game Unit
  | switchTo stage => Game.switchTo stage
  | load file => do Game.loadNamed (← Game.currentArea) file
  | reset => Game.reset
  | place mouseX mouseY => Game.placeEntity mouseX mouseY
  | delete mouseX mouseY => Game.deleteAt mouseX mouseY
  | select mouseX mouseY => Game.selectAt mouseX mouseY
  | paint mouseX mouseY => Game.placeTile mouseX mouseY
  | setTool tool => Game.setTool tool
  | setEntity entity => Game.setEntityNumber entity
  | setTile tile => Game.setTileNumber tile
  | setFile file => Game.setMapFile file
  | saveArgs => Game.saveArgs
  | leave => Game.leaveEditor
  | look camera => modify fun w => { w with camera }
  | input i => modify fun w => { w with input := i }
  | files disk => modify fun w => { w with disk }

end Edit

namespace World

/-- The world of an editor: from a new one on, anything may have happened in it, to its end or until
a fault broke it off. -/
inductive Edited : World → Prop where
  | new {w : World} (h : w.IsNew) : Edited w
  | step {w : World} (h : Edited w) (edit : Edit) : Edited (edit.run.runOn w).2

end World

namespace Edit

open Game World

def isLoading : Edit → Bool
  | switchTo _ => true
  | load _ => true
  | leave => true
  | _ => false

lemma atRest_run (edit : Edit) (h : w.AtRest rule)
    (hl : edit.isLoading = true → rule.Loads w.disk) (hplace : ∀ x y, edit = place x y →
      Ends w (placeEntity x y) (fun _ => AtRest rule) (AtRest rule)) :
    (edit.run.runOn w).2.AtRest rule := by
  have hset {f : Editor → Editor} (hf : ∀ ed, (f ed).toolEntities? = ed.toolEntities?) :
      ((modifyEditor f).runOn w).2.AtRest rule :=
    obeys_modifyEditor_of_tools (R := Kept rule) hf w h
  cases edit with
  | switchTo stage => exact (ends_switchTo (hl rfl) h stage).snd
  | load file =>
    refine Ends.snd (.look obeys_currentArea h fun a hrun => ?_)
    have hsett : w.Settled rule a := ⟨h, (run_currentArea_eq_ok.1 hrun).1⟩
    exact (ends_loadNamed (hl rfl) hsett file).mono (fun _ _ hu => hu.rest) fun _ hu => hu
  | reset => exact ((ends_reset h).mono (fun _ _ hu => hu.1) fun _ hu => hu.2).snd
  | place x y => exact (hplace x y rfl).snd
  | delete x y => exact kept_deleteAt x y w h
  | select x y => exact kept_selectAt x y w h
  | paint x y => exact (obeys_placeTile x y : Obeys (Kept _) _) w h
  | setTool tool => exact kept_setTool tool w h
  | setEntity entity => exact hset fun _ => rfl
  | setTile tile => exact hset fun _ => rfl
  | setFile file => exact hset fun _ => rfl
  | saveArgs => exact obeys_saveArgs (R := Kept rule) w h
  | leave => exact (ends_leaveEditor (hl rfl) h).snd
  | look camera => exact h.of_steady (.of_same (by rfl))
  | input i => exact h.of_steady (.of_same (by rfl))
  | files disk => exact kept_write disk w h

lemma kept_run [rule.Open] (edit : Edit) : Obeys (Kept rule) edit.run := fun _ h =>
  edit.atRest_run h (fun _ => loads_of_open _) fun _ _ _ =>
    ends_placeEntity h fun _ _ => Rule.Open.admits _ _ _ h.ruled

end Edit

namespace World

variable {seating : Seating} {taken : List Scalar} {p : PartId} {e : EntityId}

/-! ## The keys of tiles -/

lemma same_tileKey : (tileKey tile).same (tileKey tile') = true ↔ tileKey tile = tileKey tile' := by
  simp [tileKey, Scalar.same]

def IsNear (tile : Int × Int) : Prop := |tile.1 * 32| < 10 ^ 8 ∧ |tile.2 * 32| < 10 ^ 8

instance (tile : Int × Int) : Decidable (IsNear tile) := inferInstanceAs (Decidable (_ ∧ _))

lemma tileKey_inj (h : IsNear tile) (h' : IsNear tile') (hkey : tileKey tile = tileKey tile') :
    tile = tile' := by
  obtain ⟨-, hrow⟩ := h
  obtain ⟨-, hrow'⟩ := h'
  rw [abs_lt] at hrow hrow'
  have hsum : tile.1 * 32 * 10000000 + tile.2 * 32 = tile'.1 * 32 * 10000000 + tile'.2 * 32 :=
    Scalar.int.inj hkey
  exact Prod.ext (by omega) (by omega)

/-- Only tiles are taken on which something stands. -/
def Rule.keys : Rule where
  tiled := True
  allows seating taken := ∀ k ∈ taken, ∃ p tile, seating p tile ∧ k = tileKey tile
  loose h := absurd trivial h
  leave seating taken p key h _ hkey k hk := by
    obtain ⟨hk, hne⟩ := List.mem_filter.1 hk
    obtain ⟨q, tile, hq, rfl⟩ := h k hk
    refine ⟨q, tile, ⟨?_, hq⟩, rfl⟩
    rintro rfl
    rw [← hkey tile hq, same_tileKey.2 rfl] at hne
    cases hne

lemma Rule.keys_enter (h : keys.allows seating taken) (tile : Int × Int) :
    keys.allows (fun q tile' => seating q tile' ∨ q = p ∧ tile' = tile) (taken ++ [tileKey tile]) := by
  intro k hk
  rcases List.mem_append.1 hk with hk | hk
  · obtain ⟨q, tile', hq, rfl⟩ := h k hk
    exact ⟨q, tile', .inl hq, rfl⟩
  · exact ⟨p, tile, .inr ⟨rfl, rfl⟩, List.mem_singleton.1 hk⟩

lemma Rule.keys_filter (h : keys.allows seating taken)
    (test : Scalar → Bool) : keys.allows seating (taken.filter test) :=
  fun k hk => h k (List.mem_filter.1 hk).1

instance : Rule.keys.Open :=
  ⟨fun _ _ tile h => ⟨fun _ _ _ => Rule.keys_enter h tile, fun _ => Rule.keys_filter h _⟩⟩

lemma Edited.atRest (h : w.Edited) : w.AtRest .keys := by
  induction h with
  | new h => exact h.atRest nofun ⟨nofun, nofun⟩
  | step _ edit ih => exact edit.kept_run _ ih

/-! ## Who is where -/

def IsAt (w : World) (e : EntityId) (tile : Int × Int) : Prop :=
  ∃ en, w.entities[e.index]? = some en ∧ en.x = .num (.int (tile.1 * 32)) ∧
    en.y = .num (.int (tile.2 * 32))

def IsStandIn (w : World) (e : EntityId) : Prop :=
  ∃ p ∈ w.partsOf e, w.partIs Part.isPlaceholder p = true

instance (w : World) (e : EntityId) : Decidable (w.IsStandIn e) :=
  inferInstanceAs (Decidable (∃ p ∈ w.partsOf e, w.partIs Part.isPlaceholder p = true))

def HasKey (w : World) (e : EntityId) (k : Scalar) : Prop :=
  ∃ en, w.entities[e.index]? = some en ∧ Game.placeKey? en.x en.y = .ok (some k)

lemma IsAt.hasKey (h : w.IsAt e tile) : w.HasKey e (tileKey tile) := by
  obtain ⟨en, hen, hx, hy⟩ := h
  exact ⟨en, hen, by rw [hx, hy]; exact Game.placeKey?_tile tile.1 tile.2⟩

lemma Tied.isAt_of_seating (h : w.Tied) (hp : w.seating w.live p tile) :
    ∃ e ∈ w.present, p ∈ w.partsOf e ∧ w.IsAt e tile := by
  obtain ⟨hlive, -, e, en, hown, hen, hx, hy⟩ := hp
  obtain ⟨e', he, hp⟩ := mem_live.1 hlive
  cases hown.symm.trans (h.owned e' p hp)
  exact ⟨e, he, hp, en, hen, hx, hy⟩

lemma AtRest.isAt_of_mem_taken (h : w.AtRest .keys) {k : Scalar} (hk : k ∈ w.taken) :
    ∃ e ∈ w.present, ∃ tile, w.IsAt e tile ∧ k = tileKey tile := by
  obtain ⟨p, tile, hp, rfl⟩ := h.ruled k hk
  obtain ⟨e, he, -, hat⟩ := h.isAt_of_seating hp
  exact ⟨e, he, tile, hat, rfl⟩

/-- One more entity of the editor is in the area, on a tile, and the others are as they were. -/
structure Gains (w w' : World) (e : EntityId) (tile : Int × Int) : Prop where
  present : w'.present = w.present ++ [e]
  new : e ∉ w.present
  isAt : w'.IsAt e tile
  standIn : w'.IsStandIn e
  entities : ∀ e' ∈ w.present, w'.entities[e'.index]? = w.entities[e'.index]?
  standIns : ∀ e' ∈ w.present, w'.IsStandIn e' ↔ w.IsStandIn e'

lemma isStandIn_iff_of_lt (hent : w'.entities[e.index]? = w.entities[e.index]?)
    (hps : ∀ p ∈ w.partsOf e, w'.parts[p.index]? = w.parts[p.index]?) :
    w'.IsStandIn e ↔ w.IsStandIn e := by
  have hsame : w'.partsOf e = w.partsOf e := by rw [partsOf, hent, partsOf]
  rw [IsStandIn, hsame]
  refine exists_congr fun p => and_congr_right fun hp => ?_
  rw [partIs, hps p hp, partIs]

lemma AtRest.gains_pitched (h : w.AtRest rule) {a : AreaId} (ha : w.area? = some a)
    (icon : String) (image : Image) (p : Placeholder) (tile : Int × Int) (key : Scalar) :
    Gains w (((w.pitched icon image p tile).withTaken key).withMember a w.nextEntity)
      w.nextEntity tile := by
  have hent := w.withPlaceholder_entity icon image p (.int (tile.1 * 32)) (.int (tile.2 * 32))
  have hhld := w.withPlaceholder_placeholder icon image p (.int (tile.1 * 32))
    (.int (tile.2 * 32))
  have hold (e : EntityId) (he : e ∈ w.present) :
      (((w.pitched icon image p tile).withTaken key).withMember a w.nextEntity).entities[e.index]? =
        w.entities[e.index]? :=
    w.getElem?_entities_withPlaceholder icon image p _ _ (h.here e he)
  refine
    { present := present_withMember ha (h.area a ha) _
      new := fun hmem => (h.here _ hmem).false
      isAt := ⟨_, hent, rfl, rfl⟩
      standIn := ⟨⟨w.parts.size + 1⟩, ?_, ?_⟩
      entities := hold
      standIns := fun e he => isStandIn_iff_of_lt (hold e he) fun q hq => ?_ }
  · have hmem : (⟨w.parts.size + 1⟩ : PartId) ∈ (w.pitched icon image p tile).partsOf w.nextEntity := by
      rw [partsOf, World.pitched, hent]
      simp
    exact hmem
  · exact partIs_of hhld Part.isPlaceholder
  · exact w.getElem?_parts_withPlaceholder icon image p (.int (tile.1 * 32)) (.int (tile.2 * 32))
      (h.lt_of_mem_partsOf hq)

end World

namespace Game

open World

variable {mouseX mouseY : Json}

/-! ## Placing -/

lemma run_placeEntity (h : w.Aims mouseX mouseY tile) :
    ∃ a icon image p, w.area? = some a ∧ Image.load icon = .ok image ∧
      (placeEntity mouseX mouseY).runOn w =
        (placePlaceholder a icon p (.int (tile.1 * 32)) (.int (tile.2 * 32))).runOn w := by
  obtain ⟨⟨x, y, hpoint, hcol, hrow⟩, ⟨map, hmap⟩, index, factory, hidx, hfac⟩ := h
  obtain ⟨image, himg⟩ := load_icon (mem_of_entry hfac)
  cases ha : w.area? with
  | none =>
    rw [currentMap, currentGround, currentArea] at hmap
    simp only [bind_assoc, run_get_bind, ha] at hmap
    cases hmap
  | some a =>
    let number := (signedIndex? Factory.all.length index).getD 0
    refine ⟨a, factory.icon, image, { factory := w.editor.entity, args := .defaults number }, rfl,
      himg, ?_⟩
    rw [placeEntity, bind_ok hpoint, bind_ok hmap, run_lift_bind hcol,
      run_lift_bind hrow, run_get_bind, run_lift_bind hidx, run_lift_bind hfac,
      bind_ok (run_currentArea_eq_ok.2 ⟨ha, rfl⟩)]

lemma gains_placeEntity (h : w.AtRest rule) (haims : w.Aims mouseX mouseY tile)
    (hfree : w.taken.any (tileKey tile).same = false) :
    ∃ w' e, (placeEntity mouseX mouseY).runOn w = (.ok (), w') ∧ Gains w w' e tile := by
  obtain ⟨a, icon, image, p, ha, himg, hrun⟩ := run_placeEntity haims
  rw [run_placePlaceholder himg (placeKey?_tile tile.1 tile.2) hfree a] at hrun
  exact ⟨_, _, hrun, h.gains_pitched ha icon image p tile _⟩

end Game

namespace World

lemma AtRest.tile_free (h : w.AtRest .keys) (hnear : IsNear tile)
    (hall : ∀ e ∈ w.present, ∀ tile', w.IsAt e tile' → IsNear tile')
    (hemp : ∀ e ∈ w.present, ¬ w.IsAt e tile) : w.taken.any (tileKey tile).same = false := by
  refine List.any_eq_false.2 fun k hk hsame => ?_
  obtain ⟨e, he, tile', hat, rfl⟩ := h.isAt_of_mem_taken hk
  have heq := tileKey_inj hnear (hall e he tile' hat) (same_tileKey.1 hsame)
  exact hemp e he (heq ▸ hat)

lemma AtRest.reset_taken (h : w.AtRest .keys) :
    ∃ w', Game.reset.runOn w = (.ok (), w') ∧ w'.present = [] ∧ w'.taken = [] := by
  obtain ⟨_, w', hrun, hrest, -, hemp, -⟩ :=
    ((Game.ends_reset h).mono (fun _ _ hu => hu) fun _ hu => hu.1 trivial).completes
  refine ⟨w', hrun, hemp, List.eq_nil_iff_forall_not_mem.2 fun k hk => ?_⟩
  obtain ⟨e, he, -⟩ := hrest.isAt_of_mem_taken hk
  rw [hemp] at he
  cases he

/-- **A free tile can be used.**  Whatever happened in the editor, only keys of entities in the area
are taken. A click on a tile where no entity is puts one there and changes no other, provided that
no entity is too far off. When everything is deleted, nothing is taken. -/
theorem Edited.free_tile_usable (h : w.Edited) : (∀ k ∈ w.taken, ∃ e ∈ w.present, w.HasKey e k) ∧
    (∀ mouseX mouseY tile, w.Aims mouseX mouseY tile → IsNear tile →
      (∀ e ∈ w.present, ∀ tile', w.IsAt e tile' → IsNear tile') →
      (∀ e ∈ w.present, ¬ w.IsAt e tile) →
      ∃ w' e, (Game.placeEntity mouseX mouseY).runOn w = (.ok (), w') ∧ Gains w w' e tile ∧
        ∀ e' ∈ w'.present, w'.IsAt e' tile ↔ e' = e) ∧
    ∃ w', Game.reset.runOn w = (.ok (), w') ∧ w'.present = [] ∧ w'.taken = [] := by
  have hrest := h.atRest
  refine ⟨fun k hk => ?_, fun mouseX mouseY tile haims hnear hall hempty => ?_, hrest.reset_taken⟩
  · obtain ⟨e, he, tile, hat, rfl⟩ := hrest.isAt_of_mem_taken hk
    exact ⟨e, he, hat.hasKey⟩
  · obtain ⟨w', e, hrun, hgains⟩ :=
      Game.gains_placeEntity hrest haims (hrest.tile_free hnear hall hempty)
    refine ⟨w', e, hrun, hgains, fun e' he' => ⟨fun hat => ?_, fun heq => heq ▸ hgains.isAt⟩⟩
    rw [hgains.present, List.mem_append, List.mem_singleton] at he'
    refine he'.resolve_left fun he' => hempty e' he' ?_
    rwa [IsAt, hgains.entities e' he'] at hat

/-! A map of one tile in the editor, and then with a rock on it. -/

def plotBody : List UInt8 := [1, 0, 0, 0, 1, 0, 0, 0, 1, 0, 0, 0, 1, 0]

/-- A new game with the map file on its disk, to be edited. -/
def beforePlot : World :=
  { disk := { nodes := [(["content"], .folder), (["content", "maps"], .folder),
      (["content", "maps", "a.map"], .file (.bytes (0 :: plotBody)))] }
    scenes := [("EditorEditMap", .editor)]
    editor := { file := .str "a.map", entity := 2 } }

def openedPlot : World :=
  { beforePlot with
    stage? := some "EditorEditMap"
    log := [.line ("Switching to " ++ "EditorEditMap")]
    editor := { beforePlot.editor with tool := .str "Click", toolEntities? := some [] }
    areas := #[{ isEdited := true }]
    area? := some ⟨0⟩ }

def loadedPlot : World := ((Game.loadBinary ⟨0⟩ "a.map" plotBody).runOn openedPlot).2

/-- The map in the editor. -/
def plot : World := (Game.toolbar.runOn loadedPlot).2

/-- The map with a rock on its tile. -/
def stonyPlot : World := ((Game.placeEntity (.num (.int 0)) (.num (.int 0))).runOn plot).2

lemma readMap_plot : (Game.readMap "a.map").runOn openedPlot =
    (.ok (0 :: plotBody), openedPlot) := by
  rfl

lemma switchTo_plot : ((Game.switchTo "EditorEditMap").runOn beforePlot).2 = plot := by
  have hclear : Game.reset.runOn beforePlot = (.ok (), beforePlot) := rfl
  have hopen : (Game.switchTo "EditorEditMap").runOn beforePlot =
      (Game.loadNamed ⟨0⟩ (.str "a.map") >>= fun _ => Game.toolbar).runOn openedPlot := by
    rw [Game.run_switchTo hclear rfl, Game.build, Game.buildEditor, Game.modifyEditor,
      Game.run_modify_bind, Game.run_get_bind, Game.run_openArea_bind]
    rfl
  have hreset : Game.reset.runOn openedPlot = (.ok (), openedPlot) := rfl
  have hl : (Game.loadNamed ⟨0⟩ (.str "a.map")).runOn openedPlot = (.ok (), loadedPlot) := by
    change (Game.loadFile ⟨0⟩ "a.map").runOn openedPlot = _
    rw [Game.loadFile, Game.bind_ok hreset, Game.bind_ok readMap_plot]
    exact Game.run_of_isOk (g := Game.loadBinary ⟨0⟩ "a.map" plotBody) (by decide +kernel)
  rw [hopen, Game.bind_ok hl, plot]

lemma isNew_beforePlot : beforePlot.IsNew := ⟨rfl, rfl, rfl, rfl, rfl, rfl, rfl, rfl⟩

lemma edited_stonyPlot : stonyPlot.Edited := by
  have hplot : plot.Edited := by
    rw [← switchTo_plot]
    exact .step (.new isNew_beforePlot) (.switchTo "EditorEditMap")
  exact .step hplot (.place (.num (.int 0)) (.num (.int 0)))

lemma aims_of_facts {column row : Int} {mouseX mouseY : Int} (hcamera : w.camera = {})
    (hent : w.editor.entity = .num (.int 2)) (hmap : (Game.currentMap.runOn w).1.isOk = true)
    (hcol : TileMap.cell (.num (.int mouseX)) = .ok column)
    (hrow : TileMap.cell (.num (.int mouseY)) = .ok row) :
    w.Aims (.num (.int mouseX)) (.num (.int mouseY)) (column, row) := by
  refine ⟨⟨.int mouseX, .int mouseY, ?_, hcol, hrow⟩, ?_, 2, ?_⟩
  · rw [Game.worldPoint, Game.run_get_bind, hcamera]
    change (Except.ok (Scalar.int (mouseX + 0), Scalar.int (mouseY + 0)), w) = _
    rw [Int.add_zero, Int.add_zero]
  · have hsame : w = (Game.currentMap.runOn w).2 := Game.obeys_currentMap (R := Eq) w
    rcases hrun : Game.currentMap.runOn w with ⟨fault | map, w'⟩
    · rw [hrun] at hmap
      cases hmap
    · rw [hrun] at hsame
      exact ⟨map, congrArg (Except.ok map, ·) hsame.symm⟩
  · rw [hent]
    exact ⟨_, rfl, rfl⟩

lemma stonyPlot_facts : stonyPlot.present = [⟨7⟩] ∧
    stonyPlot.entities[7]?.map placeOf = some (.num (.int 0), .num (.int 0)) ∧
    stonyPlot.camera = {} ∧ stonyPlot.editor.entity = .num (.int 2) ∧
    (Game.currentMap.runOn stonyPlot).1.isOk = true := by
  decide +kernel

lemma isAt_stonyPlot {e : EntityId} (he : e ∈ stonyPlot.present) (hat : stonyPlot.IsAt e tile) :
    tile = (0, 0) := by
  obtain ⟨hpres, hplace, -⟩ := stonyPlot_facts
  rw [hpres, List.mem_singleton] at he
  obtain ⟨en, hen, hx, hy⟩ := hat
  rw [he] at hen
  rw [hen, Option.map_some, placeOf, hx, hy] at hplace
  simp only [Option.some.injEq, Prod.mk.injEq, Json.num.injEq, Scalar.int.injEq] at hplace
  exact Prod.ext (by simpa using hplace.1) (by simpa using hplace.2)

theorem free_tile_usable_plot :
    stonyPlot.Edited ∧ (∃ e ∈ stonyPlot.present, stonyPlot.HasKey e (.int 0)) ∧
      (∀ e ∈ stonyPlot.present, ¬ stonyPlot.IsAt e (1, 0)) ∧
      ∃ w' e, (Game.placeEntity (.num (.int 40)) (.num (.int 5))).runOn stonyPlot = (.ok (), w') ∧
        Gains stonyPlot w' e (1, 0) ∧ ∀ e' ∈ w'.present, w'.IsAt e' (1, 0) ↔ e' = e := by
  obtain ⟨-, -, hcamera, hentity, hmap⟩ := stonyPlot_facts
  have haims : stonyPlot.Aims (.num (.int 40)) (.num (.int 5)) (1, 0) :=
    aims_of_facts hcamera hentity hmap (by decide +kernel) (by decide +kernel)
  have hempty : ∀ e ∈ stonyPlot.present, ¬ stonyPlot.IsAt e (1, 0) := fun e he hat => by
    cases isAt_stonyPlot he hat
  have htaken : Scalar.int 0 ∈ stonyPlot.taken := by decide +kernel
  refine ⟨edited_stonyPlot, edited_stonyPlot.free_tile_usable.1 _ htaken, hempty,
    edited_stonyPlot.free_tile_usable.2.1 _ _ _ haims (by decide) (fun e he tile hat => ?_) hempty⟩
  rw [isAt_stonyPlot he hat]
  decide

end World

end TileQuest
