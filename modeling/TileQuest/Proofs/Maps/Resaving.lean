import TileQuest.Proofs.Maps.Making
import TileQuest.Proofs.Maps.RoundTrip

/-!
# Saving a map again does not change the game

`World.Retold` relates two games that are the same but for the files and for what was written down;
blind steps do the same in both (`Game.Blind.retold`). `MapFile.parse` is what a map file says,
whichever of the two forms it has: its tiles, and the lines of its records. Opening an area comes to
laying the tiles and loading the lines (`Game.run_openArea_of_parse`), so two files that say the same
tiles and the same records are the same game (`Game.retold_openArea`).
-/

namespace TileQuest

namespace World

variable {u v w : World} {b : Backend}

/-- The same game, but for the files and for what was written down. -/
def Retold (w u : World) : Prop := ∃ disk log, u = { w with disk, log }

lemma Retold.refl (w : World) : Retold w w := ⟨w.disk, w.log, rfl⟩

lemma Retold.symm (h : Retold w u) : Retold u w := by
  obtain ⟨disk, log, rfl⟩ := h
  exact ⟨w.disk, w.log, rfl⟩

lemma Retold.trans (h : Retold w u) (h' : Retold u v) : Retold w v := by
  obtain ⟨disk, log, rfl⟩ := h
  obtain ⟨disk', log', rfl⟩ := h'
  exact ⟨disk', log', rfl⟩

def KeptAt (w : World) (b : Backend) : Prop := w.parts.map (Owned.backed b) = w.parts

lemma KeptAt.of_empty (h : w.parts = #[]) : w.KeptAt b := by
  rw [KeptAt, h, Array.map_empty]

end World

namespace Game

open World

variable {α β : Type} {g g' : Game α} {a : AreaId} {u v w : World} {b : Backend}

lemma Blind.retold (hg : Blind g) (hw : w.KeptAt b) (hu : Retold w u) :
    (g.runOn u).1 = (g.runOn w).1 ∧ (g.runOn w).2.KeptAt b ∧
      Retold (g.runOn w).2 (g.runOn u).2 := by
  obtain ⟨disk, log, rfl⟩ := hu
  -- both games are one game, backed in two ways
  have hbck (disk : Disk) (log : List Notice) :
      World.backed { w with log := [] } ⟨b, w.chats, disk, log⟩ = { w with disk, log } := by
    rw [World.backed, hw]
    rfl
  have hrun (disk : Disk) (log : List Notice) := hg.commutes ⟨b, w.chats, disk, log⟩
    { w with log := [] }
  have hw1 := hrun w.disk w.log
  have hu1 := hrun disk log
  rw [hbck] at hw1 hu1
  have hsame : (g.runOn w) = _ := hw1
  rw [hu1, hsame]
  refine ⟨rfl, ?_, ⟨disk, _, rfl⟩⟩
  rw [KeptAt, World.backed, Array.map_map]
  congr 1
  funext o
  exact Owned.backed_backed b b o

/-- Two steps do the same in two games that are the same but for the files and for what was written
down. -/
def Agrees (b : Backend) (g g' : Game α) : Prop :=
  ∀ w u, w.KeptAt b → Retold w u →
    (g'.runOn u).1 = (g.runOn w).1 ∧ (g.runOn w).2.KeptAt b ∧ Retold (g.runOn w).2 (g'.runOn u).2

lemma Blind.agrees (hg : Blind g) : Agrees b g g := fun _ _ hw hu => hg.retold hw hu

lemma Agrees.bind {f f' : α → Game β} (hg : Agrees b g g') (hf : ∀ a, Agrees b (f a) (f' a)) :
    Agrees b (g >>= f) (g' >>= f') := by
  intro w u hw hu
  have h := hg w u hw hu
  rw [run_bind, run_bind]
  generalize g.runOn w = run at h
  generalize g'.runOn u = run' at h
  obtain ⟨r, w1⟩ := run
  obtain ⟨r', u1⟩ := run'
  obtain ⟨rfl, hkept, hretd⟩ := h
  cases r' with
  | ok a => exact hf a w1 u1 hkept hretd
  | error fault => exact ⟨rfl, hkept, hretd⟩

lemma Agrees.tryCatch {k k' : Fault → Game α} (hg : Agrees b g g')
    (hk : ∀ fault, Agrees b (k fault) (k' fault)) : Agrees b (tryCatch g k) (tryCatch g' k') := by
  intro w u hw hu
  have h := hg w u hw hu
  rw [run_tryCatch, run_tryCatch]
  generalize g.runOn w = run at h
  generalize g'.runOn u = run' at h
  obtain ⟨r, w1⟩ := run
  obtain ⟨r', u1⟩ := run'
  obtain ⟨rfl, hkept, hretd⟩ := h
  cases r' with
  | ok a => exact ⟨rfl, hkept, hretd⟩
  | error fault => exact hk fault w1 u1 hkept hretd

lemma agrees_note (n : Notice) : Agrees b (pure ()) (note n) := by
  rintro w u hw ⟨disk, log, rfl⟩
  exact ⟨rfl, hw, disk, n :: log, rfl⟩

/-! ## Records -/

lemma blind_placeRecord (a : AreaId) (r : MapFile.Record) : Blind (placeRecord a r) :=
  (blind_area a).bind fun _ => .ite
    (.lifts fun _ => .lifts fun _ => blind_placePlaceholder _ _ _ _ _)
    (.lifts fun _ => (blind_createEntity _ _ _ _).bind fun _ => blind_modifyArea _ _)

/-- Put the entities of records into an area, and pass over those that cannot be made. -/
def placeRecords (a : AreaId) (rs : List MapFile.Record) : Game Unit :=
  rs.forM fun r => tryCatch (placeRecord a r) fun _ => pure ()

lemma agrees_loadRecords (a : AreaId) (lines : List String) :
    Agrees b (placeRecords a (MapFile.records lines)) (loadRecords a lines) := by
  induction lines with
  | nil => exact (Blind.pure _).agrees
  | cons line lines ih =>
    rw [loadRecords]
    cases hr : MapFile.record? line with
    | none =>
      intro w u hw hu
      obtain ⟨fault, hload⟩ := run_loadRecord_of_none hr a u
      rw [MapFile.records, List.filterMap_cons, hr, run_forM_cons, run_bind, run_tryCatch, hload]
      obtain ⟨disk, log, rfl⟩ := hu
      exact ih w _ hw ⟨disk, _, rfl⟩
    | some r =>
      have hl : loadRecord a line = placeRecord a r := by
        rw [loadRecord_eq, (MapFile.record?_eq_some.1 hr).1]
        rfl
      rw [MapFile.records, List.filterMap_cons, hr]
      refine Agrees.bind (.tryCatch ?_ fun _ => agrees_note _) fun _ => ih
      rw [hl]
      exact (blind_placeRecord a r).agrees

lemma retold_loadRecords {lines lines' : List String}
    (h : MapFile.records lines = MapFile.records lines') (hw : w.KeptAt b) (hu : Retold w u)
    (a : AreaId) : ((loadRecords a lines').runOn u).1 = ((loadRecords a lines).runOn w).1 ∧
      Retold ((loadRecords a lines).runOn w).2 ((loadRecords a lines').runOn u).2 := by
  obtain ⟨hres, -, hretd⟩ := agrees_loadRecords a lines w w hw (.refl w)
  obtain ⟨hres', -, hretd'⟩ := agrees_loadRecords a lines' w u hw hu
  rw [← h] at hres' hretd'
  exact ⟨hres'.trans hres.symm, hretd.symm.trans hretd'⟩

end Game

variable {bytes : List UInt8}

def MapFile.parse : List UInt8 → Except Fault (TileMap × List String)
  | [] => .error .badRecord
  | first :: bytes =>
    if 128 ≤ first then .error .notUtf8
    else if first = 0 then do
      let (map, rest) ← readTiles bytes
      return (map, ← readRecords rest)
    else do
      let parts ← halves (← readText (first :: bytes))
      return (← TileMap.ofText parts.tiles, parts.records)

/-- Records that can be on one map: their places are exact, and no two of them have one key. -/
structure MapFile.Placeable (rs : List MapFile.Record) : Prop where
  column : ∀ r ∈ rs, r.column.natAbs ≤ 2 ^ 53
  row : ∀ r ∈ rs, r.row.natAbs ≤ 2 ^ 53
  keys : rs.Pairwise fun r s => r.key ≠ s.key

lemma modify_push_size {α : Type} (xs : Array α) (a : α) (f : α → α) :
    (xs.push a).modify xs.size f = xs.push (f a) := by
  refine Array.ext_getElem? fun i => ?_
  simp only [Array.getElem?_modify, Array.getElem?_push]
  by_cases hi : i = xs.size
  · simp [hi]
  · simp [hi, Ne.symm hi]

namespace World

/-- The world with a new area, nothing in the registers, and something else written down. -/
def vacant (w : World) (area : Area) (log : List Notice) : World :=
  { w with
    log, areas := w.areas.push area, area? := some ⟨w.areas.size⟩
    bodies := [], triggers := [], active := [], drawn := [], overlay := [], background := [],
    usables := [], effects := [] }

/-- The world with a new area that has a name and a ground, but no entities yet. -/
def opened (w : World) (name : String) (map : TileMap) (isEdited : Bool) (log : List Notice) :
    World :=
  { w.vacant { isEdited, name? := some (MapFile.areaName name), ground? := some ⟨w.grounds.size⟩ }
      log with grounds := w.grounds.push map, background := [.ground ⟨w.grounds.size⟩] }

end World

namespace Game

open World

variable {v w : World} {name : String} {data : FileData} {map : TileMap} {lines : List String}
  {isEdited : Bool}

lemma run_reset_vacant {area : Area} (h : area.entities = []) (log : List Notice) :
    reset.runOn (w.vacant area log) = (.ok (), w.vacant area log) := by
  have ha : (w.vacant area log).areas[w.areas.size]? = some area := by
    simp [vacant]
  rw [reset, run_get_bind]
  refine (bind_ok (run_area (a := ⟨w.areas.size⟩) ha)).trans ?_
  rw [h]
  rfl

lemma run_readMap_vacant (hread : w.disk.read (mapPath name) = .ok data) (area : Area)
    (log : List Notice) :
    (readMap name).runOn (w.vacant area log) = (.ok data.content, w.vacant area log) := by
  rw [readMap, run_get_bind]
  exact run_lift_bind hread _ _

def loadContent (a : AreaId) (name : String) : List UInt8 → Game Unit
  | [] => throw .badRecord
  | first :: bytes =>
    if 128 ≤ first then throw .notUtf8
    else if first = 0 then loadBinary a name bytes
    else loadText a name

lemma run_openArea_eq (hread : w.disk.read (mapPath name) = .ok data) (isEdited : Bool) :
    (openArea (.str name) isEdited).runOn w = (do
      loadContent ⟨w.areas.size⟩ name data.content
      return (⟨w.areas.size⟩ : AreaId)).runOn (w.vacant { isEdited } w.log) := by
  let opened : World := { w with areas := w.areas.push { isEdited }, area? := some ⟨w.areas.size⟩ }
  have ha : opened.areas[w.areas.size]? = some { isEdited } := by simp [opened]
  have hreset : reset.runOn opened = (.ok (), w.vacant { isEdited } w.log) := by
    rw [reset, run_get_bind]
    exact bind_ok (run_area (a := ⟨w.areas.size⟩) ha)
  rw [openArea, run_get_bind, run_modify_bind]
  change (loadFile ⟨w.areas.size⟩ name >>= _).runOn opened = _
  rw [loadFile, bind_assoc, bind_ok hreset, bind_assoc, bind_ok (run_readMap_vacant hread _ _)]
  cases data.content with
  | nil => rfl
  | cons first bytes =>
    simp only [loadContent]
    split
    · rfl
    · rfl

lemma run_modifyArea_vacant (area : Area) (f : Area → Area) (log : List Notice) :
    (modifyArea ⟨w.areas.size⟩ f).runOn (w.vacant area log) = (.ok (), w.vacant (f area) log) := by
  rw [modifyArea, run_modify, vacant, vacant]
  dsimp only
  rw [modify_push_size]

lemma run_layGround_vacant (area : Area) (map : TileMap) (log : List Notice) :
    (layGround ⟨w.areas.size⟩ map).runOn (w.vacant area log) =
      (.ok (), { w.vacant { area with ground? := some ⟨w.grounds.size⟩ } log with
        grounds := w.grounds.push map, background := [.ground ⟨w.grounds.size⟩] }) := by
  rw [layGround, run_get_bind, run_modify_bind, modifyArea, run_modify, vacant, vacant]
  dsimp only
  rw [modify_push_size]
  rfl

lemma run_loadBinary_vacant {rest : List UInt8}
    (hts : MapFile.readTiles bytes = .ok (map, rest))
    (hls : MapFile.readRecords rest = .ok lines) :
    (loadBinary ⟨w.areas.size⟩ name bytes).runOn (w.vacant { isEdited } w.log) =
      (loadRecords ⟨w.areas.size⟩ lines).runOn (w.opened name map isEdited w.log) := by
  rw [loadBinary, bind_ok (run_modifyArea_vacant _ _ _), run_lift_bind hts]
  simp only
  rw [bind_ok (run_layGround_vacant _ _ _), run_lift_bind hls]
  rfl

section

variable (hread : w.disk.read (mapPath name) = .ok data)
include hread

lemma run_loadText_vacant {text : String} {parts : MapFile.Parts}
    (ht : MapFile.readText data.content = .ok text) (hhalf : MapFile.halves text = .ok parts)
    (hmap : TileMap.ofText parts.tiles = .ok map) (isEdited : Bool) :
    ∃ log, (loadText ⟨w.areas.size⟩ name).runOn (w.vacant { isEdited } w.log) =
      (loadRecords ⟨w.areas.size⟩ parts.records).runOn (w.opened name map isEdited log) := by
  have hprint : (print "Loading Legacy file").runOn (w.vacant { isEdited } w.log) =
      (.ok (), w.vacant { isEdited } (.line "Loading Legacy file" :: w.log)) := rfl
  refine ⟨.line "Loading Legacy file" :: w.log, ?_⟩
  rw [loadText, bind_ok hprint, bind_ok (run_reset_vacant rfl _),
    bind_ok (run_readMap_vacant hread _ _), run_lift_bind ht,
    bind_ok (run_modifyArea_vacant _ _ _), run_lift_bind hhalf, hmap]
  simp only
  rw [bind_ok (run_layGround_vacant _ _ _), modifyArea, run_modify_bind, vacant]
  dsimp only
  rw [modify_push_size]
  rfl

lemma run_openArea_of_parse
    (hprs : MapFile.parse data.content = .ok (map, lines)) (isEdited : Bool) :
    ∃ log, (openArea (.str name) isEdited).runOn w = (do
      loadRecords ⟨w.areas.size⟩ lines
      return (⟨w.areas.size⟩ : AreaId)).runOn (w.opened name map isEdited log) := by
  rw [run_openArea_eq hread]
  cases hcont : data.content with
  | nil => simp [hcont, MapFile.parse] at hprs
  | cons first bytes =>
    rw [hcont, MapFile.parse] at hprs
    rw [loadContent]
    split at hprs
    · cases hprs
    rw [if_neg ‹_›]
    split at hprs
    · rw [if_pos ‹_›]
      obtain ⟨⟨map', rest⟩, hts, hprs⟩ := bind_eq_ok.1 hprs
      obtain ⟨lines', hls, hprs⟩ := bind_eq_ok.1 hprs
      cases hprs
      refine ⟨w.log, ?_⟩
      rw [run_bind, run_loadBinary_vacant hts hls, run_bind]
    · rw [if_neg ‹_›]
      obtain ⟨text, ht, hprs⟩ := bind_eq_ok.1 hprs
      obtain ⟨parts, hhalf, hprs⟩ := bind_eq_ok.1 hprs
      obtain ⟨map', hmap, hprs⟩ := bind_eq_ok.1 hprs
      cases hprs
      obtain ⟨log, hl⟩ := run_loadText_vacant hread (hcont ▸ ht) hhalf hmap isEdited
      refine ⟨log, ?_⟩
      rw [run_bind, hl, run_bind]

lemma exists_parse_of_openArea {a : AreaId} {u : World}
    (h : (openArea (.str name) isEdited).runOn w = (.ok a, u)) :
    ∃ map lines, MapFile.parse data.content = .ok (map, lines) := by
  rw [run_openArea_eq hread] at h
  obtain ⟨_, u', hl, _⟩ := run_bind_eq_ok.1 h
  cases hcont : data.content with
  | nil =>
    rw [hcont] at hl
    cases hl
  | cons first bytes =>
    rw [hcont, loadContent] at hl
    rw [MapFile.parse]
    split at hl
    · cases hl
    rw [if_neg ‹_›]
    split at hl
    · rw [if_pos ‹_›]
      obtain ⟨_, _, _, hl⟩ := run_bind_eq_ok.1 hl
      obtain ⟨⟨map, rest⟩, _, hts, hl⟩ := run_bind_eq_ok.1 hl
      obtain ⟨_, _, _, hl⟩ := run_bind_eq_ok.1 hl
      obtain ⟨lines, _, hls, _⟩ := run_bind_eq_ok.1 hl
      rw [(run_lift_eq_ok.1 hts).1]
      refine ⟨map, lines, ?_⟩
      rw [ok_bind]
      dsimp only
      rw [(run_lift_eq_ok.1 hls).1]
      rfl
    · rw [if_neg ‹_›]
      have hprint : (print "Loading Legacy file").runOn (w.vacant { isEdited } w.log) =
          (.ok (), w.vacant { isEdited } (.line "Loading Legacy file" :: w.log)) := rfl
      rw [loadText, bind_ok hprint, bind_ok (run_reset_vacant rfl _),
        bind_ok (run_readMap_vacant hread _ _), hcont] at hl
      obtain ⟨text, _, ht, hl⟩ := run_bind_eq_ok.1 hl
      obtain ⟨_, _, _, hl⟩ := run_bind_eq_ok.1 hl
      obtain ⟨parts, _, hhalf, hl⟩ := run_bind_eq_ok.1 hl
      rw [(run_lift_eq_ok.1 ht).1, ok_bind, (run_lift_eq_ok.1 hhalf).1, ok_bind]
      cases hmap : TileMap.ofText parts.tiles with
      | error fault =>
        rw [hmap] at hl
        cases hl
      | ok map => exact ⟨map, parts.records, rfl⟩

end

lemma exists_run_loadRecords (a : AreaId) (lines : List String) (w : World) :
    ∃ u, (loadRecords a lines).runOn w = (.ok (), u) := by
  induction lines generalizing w with
  | nil => exact ⟨w, rfl⟩
  | cons line lines ih =>
    rw [loadRecords, run_forM_cons, run_bind, run_tryCatch]
    rcases (loadRecord a line).runOn w with ⟨fault | _, u⟩
    · exact ih _
    · exact ih u

section Same

variable {name' : String} {data' : FileData} {lines' : List String} {d d' : Disk}

lemma retold_openArea (hfr : w.parts = #[]) (hread : d.read (mapPath name) = .ok data)
    (hprs : MapFile.parse data.content = .ok (map, lines))
    (hread' : d'.read (mapPath name') = .ok data')
    (hprs' : MapFile.parse data'.content = .ok (map, lines'))
    (hn : MapFile.areaName name' = MapFile.areaName name)
    (hrecs : MapFile.records lines = MapFile.records lines') (isEdited : Bool) :
    ∃ a u u', (openArea (.str name) isEdited).runOn { w with disk := d } = (.ok a, u) ∧
      (openArea (.str name') isEdited).runOn { w with disk := d' } = (.ok a, u') ∧
      Retold u u' := by
  obtain ⟨log, hopen⟩ := run_openArea_of_parse (w := { w with disk := d }) hread hprs isEdited
  obtain ⟨log', hopen'⟩ :=
    run_openArea_of_parse (w := { w with disk := d' }) hread' hprs' isEdited
  have hstart : Retold (opened { w with disk := d } name map isEdited log)
      (opened { w with disk := d' } name' map isEdited log') := by
    refine ⟨d', log', ?_⟩
    rw [opened, opened, hn]
    rfl
  have hkept : (opened { w with disk := d } name map isEdited log).KeptAt default :=
    .of_empty hfr
  obtain ⟨-, hretd⟩ := retold_loadRecords hrecs hkept hstart ⟨w.areas.size⟩
  obtain ⟨u, hu⟩ := exists_run_loadRecords ⟨w.areas.size⟩ lines
    (opened { w with disk := d } name map isEdited log)
  obtain ⟨u', hu'⟩ := exists_run_loadRecords ⟨w.areas.size⟩ lines'
    (opened { w with disk := d' } name' map isEdited log')
  rw [hu, hu'] at hretd
  exact ⟨_, u, u', hopen.trans (bind_ok hu), hopen'.trans (bind_ok hu'), hretd⟩

end Same

/-! ## A map that is saved again -/

section Saved

variable {v : World} {spot : Spot} {file : String}
variable {rows : List (List Json)} {rs : List MapFile.Record}

lemma parse_mapBody
    (hrows : TileMap.Writable rows) (hrs : ∀ r ∈ rs, r.Sound) :
    MapFile.parse (0 :: mapBody rows rs) = .ok ({ rows }, rs.map MapFile.Record.line) := by
  have hts : MapFile.readTiles (mapBody rows rs) = .ok ({ rows }, recordBytes rs) :=
    MapFile.readTiles_write hrows _
  have hls : MapFile.readRecords (recordBytes rs) = .ok (rs.map MapFile.Record.line) :=
    MapFile.readRecords_write hrs
  rw [MapFile.parse, if_neg (by decide), if_pos rfl, hts, ok_bind]
  dsimp only
  rw [hls]
  rfl

lemma loaded_opened (htaken : v.taken = []) (name : String) (map : TileMap)
    (log : List Notice) : (v.opened name map true log).Loaded ⟨v.areas.size⟩ map.rows [] := by
  have ha : (v.opened name map true log).areas[v.areas.size]? = some
      { isEdited := true, name? := some (MapFile.areaName name), ground? := some ⟨v.grounds.size⟩ } := by
    simp [opened, vacant]
  have hgr : (v.opened name map true log).grounds[v.grounds.size]? = some map := by
    simp [opened]
  exact ⟨⟨_, ⟨v.grounds.size⟩, ha, rfl, rfl, hgr, .nil⟩, htaken⟩

lemma exists_shown (htaken : v.taken = []) (hread : v.disk.read (mapPath name) = .ok data)
    (hprs : MapFile.parse data.content = .ok (map, lines))
    (hrs : ∀ r ∈ MapFile.records lines, r.Sound)
    (hkeys : (MapFile.records lines).Pairwise fun r s => r.key ≠ s.key) :
    ∃ v₁, (openArea (.str name) true).runOn v = (.ok ⟨v.areas.size⟩, v₁) ∧
      v₁.Shows ⟨v.areas.size⟩ map.rows (MapFile.records lines) ∧ v₁.disk = v.disk := by
  obtain ⟨log, hopen⟩ := run_openArea_of_parse hread hprs true
  obtain ⟨v₁, hl, hloaded, hd⟩ := run_loadRecords (loaded_opened htaken name map log) hrs
    hkeys
  exact ⟨v₁, hopen.trans (bind_ok hl), hloaded.shows, hd⟩

lemma exists_saved {a : AreaId}
    (h : v.Shows a rows rs) (hrows : TileMap.Writable rows) (hrs : ∀ r ∈ rs, r.Sound)
    (hs : v.disk.fileSpot (mapPath file) = .ok spot) :
    ∃ u, (saveFile a (.str file)).runOn v = (.ok (), u) ∧
      u.disk.read (mapPath file) = .ok (.bytes (0 :: mapBody rows rs)) := by
  obtain ⟨log, hsave⟩ := run_saveFile h hrows hrs hs
  rw [write_eq_cons] at hsave
  exact ⟨_, hsave, (Disk.read_put _ hs).2⟩

lemma writable_of_parse
    (hprs : MapFile.parse (0 :: bytes) = .ok (map, lines)) (hrow : map.rows ≠ [])
    (h : MapFile.Placeable (MapFile.records lines)) :
    TileMap.Writable map.rows ∧ ∀ r ∈ MapFile.records lines, r.Sound := by
  rw [MapFile.parse, if_neg (by decide), if_pos rfl] at hprs
  obtain ⟨⟨map', rest⟩, hts, hprs⟩ := bind_eq_ok.1 hprs
  obtain ⟨lines', hls, hprs⟩ := bind_eq_ok.1 hprs
  cases hprs
  exact ⟨MapFile.writable_of_readTiles hts hrow, fun r hr => MapFile.sound_of_mem_records hr
    (h.column r hr) (h.row r hr) (MapFile.not_mem_of_readRecords hls hr)⟩

lemma isTile_of_parse {content : List UInt8} (hfst : content.head? ≠ some 0)
    (hprs : MapFile.parse content = .ok (map, lines)) :
    ∀ row ∈ map.rows, ∀ tile ∈ row, TileMap.IsTile tile := by
  cases content with
  | nil => cases hprs
  | cons first bytes =>
    rw [MapFile.parse] at hprs
    split at hprs
    · cases hprs
    · rw [if_neg (by simpa using hfst)] at hprs
      obtain ⟨text, -, hprs⟩ := bind_eq_ok.1 hprs
      obtain ⟨parts, -, hprs⟩ := bind_eq_ok.1 hprs
      obtain ⟨map', hmap, hprs⟩ := bind_eq_ok.1 hprs
      cases hprs
      exact fun row hrow => TileMap.isTile_of_ofText hmap hrow

end Saved

end Game

namespace World

open Game

variable {v v₁ : World} {name : String} {b : AreaId}

/-- **Opening a map and saving it untouched does not change the game.**  Whenever the editor loads a
binary map file while no place is taken, the file says tiles and records; if it has a row of tiles,
and its records are in places that are exact and differ, the map can be saved under its name, and a
game in which nothing was made yet loads the saved file as it loads the old one. Everything in the
two games is the same but for the files and for what was written down. -/
theorem resave_keeps_game {bytes : List UInt8} (htaken : v.taken = [])
    (hread : v.disk.read (mapPath name) = .ok (.bytes (0 :: bytes)))
    (hload : (openArea (.str name) true).runOn v = (.ok b, v₁)) :
    ∃ map lines, MapFile.parse (0 :: bytes) = .ok (map, lines) ∧
      (map.rows ≠ [] → MapFile.Placeable (MapFile.records lines) →
        ∃ v₂, (saveFile b (.str name)).runOn v₁ = (.ok (), v₂) ∧
          ∀ w : World, w.parts = #[] → ∃ a u u',
            (openArea (.str name) false).runOn { w with disk := v.disk } = (.ok a, u) ∧
            (openArea (.str name) false).runOn { w with disk := v₂.disk } = (.ok a, u') ∧
            Retold u u') := by
  obtain ⟨map, lines, hparse⟩ := exists_parse_of_openArea hread hload
  refine ⟨map, lines, hparse, fun hrow hplaceable => ?_⟩
  obtain ⟨hrows, hrs⟩ := writable_of_parse hparse hrow hplaceable
  obtain ⟨v1', hopen, hshows, hdisk⟩ := exists_shown htaken hread hparse hrs hplaceable.keys
  cases hload.symm.trans hopen
  obtain ⟨spot, hspot⟩ := Disk.exists_fileSpot_of_read hread
  obtain ⟨v₂, hsave, hread2⟩ := exists_saved hshows hrows hrs (hdisk.symm ▸ hspot)
  refine ⟨v₂, hsave, fun w hfresh => ?_⟩
  exact retold_openArea hfresh hread hparse hread2 (parse_mapBody hrows hrs) rfl
    (MapFile.records_map_line hrs).symm false

/-! A map with a row of two tiles. Of its records, one is written with blanks, a sign and a leading
zero, one has no factory, one lacks the arguments of its factory, two are no records, and the last
one does not end. -/

def untidyBytes : List UInt8 :=
  MapFile.writeLong 7 ++ MapFile.writeLong 2 ++ MapFile.writeLong 1 ++ [0, 0, 7, 0] ++
    Text.encode "0, +1 ,02\x0099,0,0\x003,1,1\x00\x00tree\x009,-1,0,npc_male1.png\x001,1"

/-- A game with the map file on its disk. -/
def untidyWorld : World :=
  { disk := Disk.initial.put ["content", "maps", "untidy.map"]
      (.file (.bytes (0 :: untidyBytes))) }

def untidyLines : List String :=
  ["0, +1 ,02", "99,0,0", "3,1,1", "", "tree", "9,-1,0,npc_male1.png"]

def untidyRecords : List MapFile.Record :=
  [{ factory := 0, column := 1, row := 2, args := [] },
    { factory := 3, column := 1, row := 1, args := [] },
    { factory := 9, column := -1, row := 0, args := ["npc_male1.png"] }]

lemma untidyWorld_facts :
    Disk.initial.fileSpot (mapPath "untidy.map") = .ok ["content", "maps", "untidy.map"] ∧
      MapFile.parse (0 :: untidyBytes) = .ok ({ rows := [[0, 7]] }, untidyLines) ∧
      MapFile.records untidyLines = untidyRecords ∧
      ((openArea (.str "untidy.map") true).runOn untidyWorld).1 = .ok ⟨0⟩ := by
  decide +kernel

lemma read_untidyWorld : untidyWorld.disk.read (mapPath "untidy.map") =
    .ok (.bytes (0 :: untidyBytes)) :=
  (Disk.read_put _ untidyWorld_facts.1).2

lemma placeable_untidyLines : MapFile.Placeable (MapFile.records untidyLines) := by
  rw [untidyWorld_facts.2.2.1]
  exact ⟨by decide, by decide, by decide⟩

/-- The map is opened, saved, and played as before. -/
theorem resave_keeps_untidyWorld :
    untidyWorld.taken = [] ∧
      untidyWorld.disk.read (mapPath "untidy.map") = .ok (.bytes (0 :: untidyBytes)) ∧
      ∃ v₁ v₂, (openArea (.str "untidy.map") true).runOn untidyWorld = (.ok ⟨0⟩, v₁) ∧
        (saveFile ⟨0⟩ (.str "untidy.map")).runOn v₁ = (.ok (), v₂) ∧ ∃ a u u',
          (openArea (.str "untidy.map") false).runOn { disk := untidyWorld.disk } = (.ok a, u) ∧
          (openArea (.str "untidy.map") false).runOn { disk := v₂.disk } = (.ok a, u') ∧
          Retold u u' := by
  have hload : ∃ v₁, (openArea (.str "untidy.map") true).runOn untidyWorld = (.ok ⟨0⟩, v₁) := by
    have hok := untidyWorld_facts.2.2.2
    generalize (openArea (.str "untidy.map") true).runOn untidyWorld = run at hok
    exact ⟨run.2, Prod.ext hok rfl⟩
  obtain ⟨v₁, hload⟩ := hload
  have htaken : untidyWorld.taken = [] := rfl
  obtain ⟨map, lines, hparse, hsave⟩ := resave_keeps_game htaken read_untidyWorld hload
  rw [untidyWorld_facts.2.1, Except.ok.injEq, Prod.mk.injEq] at hparse
  obtain ⟨rfl, rfl⟩ := hparse
  obtain ⟨v₂, hv2, hplay⟩ := hsave (by decide) placeable_untidyLines
  exact ⟨htaken, read_untidyWorld, v₁, v₂, hload, hv2, hplay {} rfl⟩

/-! ## From the text form to the binary form -/

/-- **Saving a map that has the text form keeps the map.**  Whenever the editor loads a map file that
has the text form while no place is taken, the file says tiles and records. Let there be a row of
tiles, all rows be of one length, rows and columns be few enough to be counted in a map file, the
records be in places that are exact and differ, and no argument hold the byte that ends a record.
Then the map can be saved under every name that a file can have. The editor shows the same tiles and
records for the saved file, and a game in which nothing was made yet, the area being called the same,
loads it as it loads the old one. -/
theorem saving_keeps_map_of_text {data : FileData} (htaken : v.taken = [])
    (hread : v.disk.read (mapPath name) = .ok data) (hfirst : data.content.head? ≠ some 0)
    (hload : (openArea (.str name) true).runOn v = (.ok b, v₁)) :
    ∃ map lines, MapFile.parse data.content = .ok (map, lines) ∧
      (map.rows ≠ [] → map.rows.length < 2 ^ 31 →
        (∃ width < 2 ^ 31, ∀ row ∈ map.rows, row.length = width) →
        MapFile.Placeable (MapFile.records lines) →
        (∀ r ∈ MapFile.records lines, ∀ arg ∈ r.args, '\x00' ∉ arg.toList) →
        v₁.Shows b map.rows (MapFile.records lines) ∧
        ∀ file spot, v.disk.fileSpot (mapPath file) = .ok spot →
          ∃ v₂, (saveFile b (.str file)).runOn v₁ = (.ok (), v₂) ∧
            (∀ x : World, x.disk = v₂.disk → x.taken = [] → ∃ c x',
              (openArea (.str file) true).runOn x = (.ok c, x') ∧
              x'.Shows c map.rows (MapFile.records lines)) ∧
            (MapFile.areaName file = MapFile.areaName name → ∀ w : World, w.parts = #[] →
              ∃ a u u',
                (openArea (.str name) false).runOn { w with disk := v.disk } = (.ok a, u) ∧
                (openArea (.str file) false).runOn { w with disk := v₂.disk } = (.ok a, u') ∧
                Retold u u')) := by
  obtain ⟨map, lines, hparse⟩ := exists_parse_of_openArea hread hload
  refine ⟨map, lines, hparse, fun hrow hheight hwidth hplaceable hargs => ?_⟩
  have hrows : TileMap.Writable map.rows := ⟨hrow, hheight, hwidth, isTile_of_parse hfirst hparse⟩
  have hrs (r) (hr : r ∈ MapFile.records lines) : r.Sound := MapFile.sound_of_mem_records hr
    (hplaceable.column r hr) (hplaceable.row r hr) (hargs r hr)
  obtain ⟨v1', hopen, hshows, hdisk⟩ := exists_shown htaken hread hparse hrs hplaceable.keys
  cases hload.symm.trans hopen
  refine ⟨hshows, fun file spot hspot => ?_⟩
  obtain ⟨v₂, hsave, hread2⟩ := exists_saved hshows hrows hrs (hdisk.symm ▸ hspot)
  have hparse2 := parse_mapBody hrows hrs
  have hlines := MapFile.records_map_line hrs
  refine ⟨v₂, hsave, fun x hx htaken' => ?_, fun hname w hfresh => ?_⟩
  · rw [← hx] at hread2
    obtain ⟨x', hopen', hshows', -⟩ := exists_shown htaken' hread2 hparse2 (hlines.symm ▸ hrs)
      (hlines.symm ▸ hplaceable.keys)
    rw [hlines] at hshows'
    exact ⟨_, x', hopen', hshows'⟩
  · exact retold_openArea hfresh hread hparse hread2 hparse2 hname hlines.symm false

/-! A map of two rows of three tiles, with an empty line between them. What follows the minus sign on
its line is left out, and so is what comes after a second minus sign. -/

def oldText : String :=
  "012\n\n345\r\n-entities\n 0,1,1\n\n6,2,0,a,b,c\nrock\n2,0,1\n9,-1,0"

/-- A game with the map file on its disk. -/
def oldWorld : World :=
  { disk := Disk.initial.put ["content", "maps", "old.map"] (.file (.bytes (Text.encode oldText))) }

def oldLines : List String := [" 0,1,1", "", "6,2,0,a,b,c", "rock", "2,0,1", "9,"]

def oldRecords : List MapFile.Record :=
  [{ factory := 0, column := 1, row := 1, args := [] },
    { factory := 6, column := 2, row := 0, args := ["a", "b", "c"] },
    { factory := 2, column := 0, row := 1, args := [] }]

lemma oldWorld_facts :
    Disk.initial.fileSpot (mapPath "old.map") = .ok ["content", "maps", "old.map"] ∧
      oldWorld.disk.fileSpot (mapPath "old.bin") = .ok ["content", "maps", "old.bin"] ∧
      (FileData.bytes (Text.encode oldText)).content.head? ≠ some 0 ∧
      MapFile.parse (Text.encode oldText) =
        .ok ({ rows := [[0, 1, 2], [3, 4, 5]] }, oldLines) ∧
      MapFile.records oldLines = oldRecords ∧
      ((openArea (.str "old.map") true).runOn oldWorld).1 = .ok ⟨0⟩ := by
  decide +kernel

lemma read_oldWorld : oldWorld.disk.read (mapPath "old.map") =
    .ok (.bytes (Text.encode oldText)) :=
  (Disk.read_put _ oldWorld_facts.1).2

/-- The map is opened, saved as another file with the same title, and shown and played as before. -/
theorem saving_keeps_oldWorld :
    oldWorld.taken = [] ∧ oldWorld.disk.read (mapPath "old.map") =
        .ok (.bytes (Text.encode oldText)) ∧
      ((FileData.bytes (Text.encode oldText)).content.head? ≠ some 0) ∧
      ∃ v₁ v₂, (openArea (.str "old.map") true).runOn oldWorld = (.ok ⟨0⟩, v₁) ∧
        v₁.Shows ⟨0⟩ [[0, 1, 2], [3, 4, 5]] (MapFile.records oldLines) ∧
        (saveFile ⟨0⟩ (.str "old.bin")).runOn v₁ = (.ok (), v₂) ∧
        (∃ c x, (openArea (.str "old.bin") true).runOn { disk := v₂.disk } = (.ok c, x) ∧
          x.Shows c [[0, 1, 2], [3, 4, 5]] (MapFile.records oldLines)) ∧
        ∃ a u u',
          (openArea (.str "old.map") false).runOn { disk := oldWorld.disk } = (.ok a, u) ∧
          (openArea (.str "old.bin") false).runOn { disk := v₂.disk } = (.ok a, u') ∧
          Retold u u' := by
  obtain ⟨-, hspot, hfirst, hparse_old, hrecords, hok⟩ := oldWorld_facts
  have hload : ∃ v₁, (openArea (.str "old.map") true).runOn oldWorld = (.ok ⟨0⟩, v₁) := by
    generalize (openArea (.str "old.map") true).runOn oldWorld = run at hok
    exact ⟨run.2, Prod.ext hok rfl⟩
  obtain ⟨v₁, hload⟩ := hload
  have htaken : oldWorld.taken = [] := rfl
  have hplaceable : MapFile.Placeable (MapFile.records oldLines) := by
    rw [hrecords]
    exact ⟨by decide, by decide, by decide⟩
  have hargs : ∀ r ∈ MapFile.records oldLines, ∀ arg ∈ r.args, '\x00' ∉ arg.toList := by
    rw [hrecords]
    decide
  obtain ⟨map, lines, hparse, hmap⟩ := saving_keeps_map_of_text htaken read_oldWorld hfirst hload
  rw [show (FileData.bytes (Text.encode oldText)).content = Text.encode oldText from rfl,
    hparse_old, Except.ok.injEq, Prod.mk.injEq] at hparse
  obtain ⟨rfl, rfl⟩ := hparse
  obtain ⟨hshows, hsave⟩ := hmap (by decide) (by decide) ⟨3, by decide, by decide⟩ hplaceable hargs
  obtain ⟨v₂, hv2, hedit, hplay⟩ := hsave "old.bin" _ hspot
  have htitle : (Text.split '.' "old.bin").headD "" = (Text.split '.' "old.map").headD "" := by
    decide
  have hname : MapFile.areaName "old.bin" = MapFile.areaName "old.map" := by
    rw [MapFile.areaName, htitle, MapFile.areaName]
  exact ⟨htaken, read_oldWorld, hfirst, v₁, v₂, hload, hshows, hv2, hedit { disk := v₂.disk } rfl rfl,
    hplay hname {} rfl⟩

end World

end TileQuest
