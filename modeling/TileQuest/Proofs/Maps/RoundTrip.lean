import TileQuest.Proofs.Bodies.Lifecycle
import TileQuest.Proofs.Maps.Loading

/-!
# What is saved is loaded

An area in the editor that is saved into a map file comes back from it: whoever loads the file with
no place taken sees the same tiles, and entities that stand for the same records in the same order
(`Game.saveFile_then_load`). Neither the area of the editor into which it is loaded matters, nor
what went on between the saving and the loading, as long as the file was left alone.
-/

namespace TileQuest.Game

open World

variable {w v v₀ : World} {rows : List (List Json)} {rs : List MapFile.Record} {spot : Spot}
  {name : String} {b : AreaId} {area : Area}

def Holds (v w : World) (spot : Spot) (rows : List (List Json)) (rs : List MapFile.Record) : Prop :=
  v.disk = w.disk.put spot (.file (.bytes (0 :: mapBody rows rs)))

lemma run_readMap (hs : w.disk.fileSpot (mapPath name) = .ok spot)
    (hv : Holds v w spot rows rs) : (readMap name).runOn v = (.ok (0 :: mapBody rows rs), v) := by
  have hread := (Disk.read_put (.bytes (0 :: mapBody rows rs)) hs).2
  rw [readMap, run_get_bind, hv, run_lift_bind hread]
  rfl

lemma run_loadFile (hreset : reset.runOn v = (.ok (), v₀)) (htaken : v₀.taken = [])
    (ha : v.areas[b.index]? = some area) (hedit : area.isEdited = true)
    (hs : w.disk.fileSpot (mapPath name) = .ok spot) (hv : Holds v w spot rows rs)
    (hrows : TileMap.Writable rows) (hrs : ∀ r ∈ rs, r.Sound)
    (hkeys : rs.Pairwise fun r s => r.key ≠ s.key) :
    ∃ v', (loadFile b name).runOn v = (.ok (), v') ∧ v'.Shows b rows rs := by
  have hshed : Shed v v₀ := obeys_reset.of_run hreset
  have hv0 : Holds v₀ w spot rows rs := hshed.disk.trans hv
  obtain ⟨area0, harea0, hedited0⟩ : ∃ area0, v₀.areas[b.index]? = some area0 ∧
      area0.isEdited = true := by
    have hsame := hshed.edited b.index
    rw [ha] at hsame
    obtain ⟨area0, harea0, heq⟩ := Option.map_eq_some_iff.1 hsame
    exact ⟨area0, harea0, heq.trans hedit⟩
  obtain ⟨v', hl, hshows⟩ := run_loadBinary harea0 hedited0 htaken hrows hrs hkeys name
  refine ⟨v', ?_, hshows⟩
  rw [loadFile, bind_ok hreset, bind_ok (run_readMap hs hv0)]
  exact hl

lemma run_openArea (htaken : v.taken = [])
    (hs : w.disk.fileSpot (mapPath name) = .ok spot) (hv : Holds v w spot rows rs)
    (hrows : TileMap.Writable rows) (hrs : ∀ r ∈ rs, r.Sound)
    (hkeys : rs.Pairwise fun r s => r.key ≠ s.key) :
    ∃ v', (openArea (.str name) true).runOn v = (.ok ⟨v.areas.size⟩, v') ∧
      v'.Shows ⟨v.areas.size⟩ rows rs := by
  let opened : World :=
    { v with areas := v.areas.push { isEdited := true }, area? := some ⟨v.areas.size⟩ }
  have ha : opened.areas[v.areas.size]? = some { isEdited := true } := by simp [opened]
  -- the area the game is in has no entities yet, so only the registers are cleared
  have hreset : reset.runOn opened = (.ok (), { opened with
      bodies := [], triggers := [], active := [], drawn := [], overlay := [], background := [],
      usables := [], effects := [] }) := by
    rw [reset, run_get_bind]
    exact bind_ok (run_area (a := ⟨v.areas.size⟩) ha)
  obtain ⟨v', hl, hshows⟩ := run_loadFile hreset htaken (b := ⟨v.areas.size⟩) ha rfl
    hs hv hrows hrs hkeys
  refine ⟨v', ?_, hshows⟩
  rw [openArea, run_get_bind, run_modify_bind]
  exact bind_ok hl

/-- **What is saved is loaded.**  An area in the editor whose tiles fit a map file, and whose
entities stand for sound records in places that differ, is saved under every name that a file can
have. Afterwards every game with that disk, in a new area or in one that is edited already, loads
the same tiles and the same records in the same order, if no place is taken once everything was
cleared away. -/
theorem saveFile_then_load {a : AreaId} (h : w.Shows a rows rs) (hrows : TileMap.Writable rows)
    (hrs : ∀ r ∈ rs, r.Sound) (hkeys : rs.Pairwise fun r s => r.key ≠ s.key) (name : String) :
    match w.disk.fileSpot (mapPath name) with
    | .error fault => (saveFile a (.str name)).runOn w = (.error fault, w)
    | .ok _ => ∃ w', (saveFile a (.str name)).runOn w = (.ok (), w') ∧ w'.Shows a rows rs ∧
        ∀ v : World, v.disk = w'.disk →
          (v.taken = [] → ∃ b v', (openArea (.str name) true).runOn v = (.ok b, v') ∧
            v'.Shows b rows rs) ∧
          ∀ b area v₀, v.areas[b.index]? = some area → area.isEdited = true →
            reset.runOn v = (.ok (), v₀) → v₀.taken = [] →
            ∃ v', (loadFile b name).runOn v = (.ok (), v') ∧ v'.Shows b rows rs := by
  split
  · rename_i hspot
    exact run_saveFile_of_error h hspot
  · rename_i spot hspot
    obtain ⟨log, hsave⟩ := run_saveFile h hrows hrs hspot
    rw [write_eq_cons] at hsave
    refine ⟨_, hsave, h, fun v hv =>
      ⟨fun htaken => ?_, fun b area v₀ harea hedited hreset htaken => ?_⟩⟩
    · exact ⟨_, run_openArea htaken hspot hv hrows hrs hkeys⟩
    · exact run_loadFile hreset htaken harea hedited hspot hv hrows hrs hkeys

/-! ## A small map -/

def cornerTiles : List (List Json) := [[0, 7], [1, 65535]]

/-- A teleporter that lacks an argument, and an enemy to the left of the map. -/
def cornerRecords : List MapFile.Record :=
  [{ factory := .ofInt 3, column := 1, row := 2, args := ["forest.map", "", "5"] },
    { factory := .ofInt (-1), column := -4, row := 0, args := [] }]

/-- A game in which the map is open in the editor, the enemy at a place that is a binary64
number. -/
def cornerWorld : World :=
  { areas := #[{ ground? := some ⟨0⟩, entities := [⟨0⟩, ⟨1⟩], isEdited := true }]
    grounds := #[{ rows := cornerTiles }]
    entities := #[{ x := 32, y := 64, parts := [⟨0⟩] },
      { x := .num (.real (.finite (-128))), y := 0, parts := [⟨1⟩] }]
    parts := #[
      { part := .placeholder { factory := .ofInt 3, args := .own ["forest.map", "", "5"] } },
      { part := .placeholder { factory := .ofInt (-1), args := .own [] } }] }

lemma cornerWorld_shows : cornerWorld.Shows ⟨0⟩ cornerTiles cornerRecords := by
  refine ⟨_, ⟨0⟩, rfl, rfl, rfl, rfl, .cons ?_ (.cons ?_ .nil)⟩
  · exact ⟨_, ⟨0⟩, _, .own ["forest.map", "", "5"], rfl, rfl, rfl, rfl, rfl, rfl, rfl⟩
  · exact ⟨_, ⟨1⟩, _, .own [], rfl, by decide, rfl, rfl, rfl, rfl, rfl⟩

lemma cornerTiles_writable : TileMap.Writable cornerTiles where
  nonempty := by decide
  height := by decide
  width := ⟨2, by decide, by decide⟩
  tiles row hrow tile htile := by
    simp only [cornerTiles, List.mem_cons, List.not_mem_nil, or_false] at hrow
    rcases hrow with rfl | rfl <;>
      simp only [List.mem_cons, List.not_mem_nil, or_false] at htile <;>
      rcases htile with rfl | rfl
    · exact ⟨0, by decide, by decide, rfl⟩
    · exact ⟨7, by decide, by decide, rfl⟩
    · exact ⟨1, by decide, by decide, rfl⟩
    · exact ⟨65535, by decide, by decide, rfl⟩

lemma cornerRecords_sound : ∀ r ∈ cornerRecords, r.Sound := by
  intro r hr
  simp only [cornerRecords, List.mem_cons, List.not_mem_nil, or_false] at hr
  rcases hr with rfl | rfl
  · exact ⟨⟨3, rfl, _, rfl⟩, by decide, by decide, by decide⟩
  · exact ⟨⟨-1, rfl, _, rfl⟩, by decide, by decide, by decide⟩

lemma fileSpot_corner : cornerWorld.disk.fileSpot (mapPath "corner.map") =
    .ok ["content", "maps", "corner.map"] := by
  decide +kernel

/-- The small map is saved, and a new game on the same disk shows it. -/
theorem saveFile_then_load_corner :
    cornerWorld.Shows ⟨0⟩ cornerTiles cornerRecords ∧ TileMap.Writable cornerTiles ∧
      (∀ r ∈ cornerRecords, r.Sound) ∧ cornerRecords.Pairwise (fun r s => r.key ≠ s.key) ∧
      ∃ w', (saveFile ⟨0⟩ (.str "corner.map")).runOn cornerWorld = (.ok (), w') ∧
        ∃ b v', (openArea (.str "corner.map") true).runOn { disk := w'.disk } = (.ok b, v') ∧
          v'.Shows b cornerTiles cornerRecords := by
  have hkeys : cornerRecords.Pairwise (fun r s => r.key ≠ s.key) := by decide
  have h := saveFile_then_load cornerWorld_shows cornerTiles_writable cornerRecords_sound hkeys
    "corner.map"
  rw [fileSpot_corner] at h
  obtain ⟨w', hsave, -, hload⟩ := h
  exact ⟨cornerWorld_shows, cornerTiles_writable, cornerRecords_sound, hkeys, w', hsave,
    (hload { disk := w'.disk } rfl).1 rfl⟩

end TileQuest.Game
