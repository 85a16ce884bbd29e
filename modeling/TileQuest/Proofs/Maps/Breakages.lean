import TileQuest.Proofs.Maps.Saving

/-!
# Saves that break off

Saving opens the file of a map first, which empties it, and looks at the tiles and the entities one
after the other while it writes. So whatever comes of it, the file holds what was written up to
there (`World.savedPart`). Only what is checked before the file is opened leaves the file alone: that
the area is open in the editor, and that there can be a file of that name (`World.startsSaving`).
-/

namespace TileQuest

namespace World

def mapBytes? (w : World) (name : String) : Option (List UInt8) :=
  (w.disk.read (Game.mapPath name)).toOption.map FileData.content

def startsSaving (w : World) (a : AreaId) (name : String) : Bool :=
  w.areas[a.index]?.any (·.isEdited) && (w.disk.fileSpot (Game.mapPath name)).isOk

def savedRecords (w : World) : List EntityId → List UInt8
  | [] => []
  | e :: rest =>
    match ((Game.recordOf e).runOn w).1 with
    | .ok r => r.write ++ w.savedRecords rest
    | .error _ => []

/-- What follows the version in the file of an area: nothing if the area has no tiles, and no records
if one of its tiles cannot be written. -/
def savedBody (w : World) (ar : Area) : List UInt8 :=
  match ar.ground?.bind fun g => w.grounds[g.index]? with
  | some { rows := first :: rest } =>
    let tiles := TileMap.write { rows := first :: rest }
    MapFile.writeLong first.length ++ MapFile.writeLong (first :: rest).length ++ tiles.bytes ++
      if tiles.fault?.isNone then w.savedRecords ar.entities else []
  | _ => []

def savedPart (w : World) (a : AreaId) : List UInt8 :=
  [0] ++ MapFile.writeLong 1 ++ (w.areas[a.index]?.map w.savedBody).getD []

end World

namespace Game

variable {w u : World} {a : AreaId} {ar : Area} {name : String} {spot : Spot}

lemma run_recordOf_unfiled (w : World) (e : EntityId) (disk : Disk) (log : List Notice) :
    (recordOf e).runOn { w with disk, log } = (((recordOf e).runOn w).1, { w with disk, log }) := by
  simp only [recordOf, find, find?, placeholder, part, owned, entityPlace, entity, bind_assoc,
    run_get_bind]
  cases hen : w.entities[e.index]? with
  | none => rfl
  | some en =>
    simp only [orAbsent, pure_bind]
    cases en.parts.find? fun p => (w.parts[p.index]?.map fun o => Part.isPlaceholder o.part).getD false with
    | none => rfl
    | some p =>
      simp only [pure_bind, run_get_bind]
      cases w.parts[p.index]? with
      | none => rfl
      | some o =>
        simp only [pure_bind]
        cases o.part with
        | placeholder q =>
          simp only [pure_bind, run_get_bind, hen]
          cases TileMap.cell en.x with
          | error fault => rfl
          | ok x => cases TileMap.cell en.y <;> cases q.args <;> rfl
        | _ => rfl

lemma snd_run_writeRecords (hord : Disk.IsOrdinary spot) (es : List EntityId)
    (log : List Notice) (old : List UInt8) :
    ((es.forM fun e => do appendBytes spot (← recordOf e).write).runOn
        ((w.withLog log).withFile spot old)).2 =
      (w.withLog log).withFile spot (old ++ w.savedRecords es) := by
  induction es generalizing old with
  | nil => simp [World.savedRecords]
  | cons e es ih =>
    have hrec : (recordOf e).runOn ((w.withLog log).withFile spot old) =
        (((recordOf e).runOn w).1, (w.withLog log).withFile spot old) :=
      run_recordOf_unfiled w e _ log
    rw [run_forM_cons, run_bind, run_bind, hrec, World.savedRecords]
    cases ((recordOf e).runOn w).1 with
    | error fault => simp
    | ok r =>
      simp only
      rw [run_appendBytes hord]
      simp only
      rw [ih, List.append_assoc]

/-- Whatever comes of saving, what was written of the area is all that the file holds. -/
lemma exists_snd_run_saveFile (har : w.areas[a.index]? = some ar) (hedit : ar.isEdited = true)
    (hs : w.disk.fileSpot (mapPath name) = .ok spot) :
    ∃ log, ((saveFile a (.str name)).runOn w).2 =
      (w.withLog log).withFile spot (w.savedPart a) := by
  have hord := (Disk.read_put (.bytes []) hs).1
  have hstart : (startMap name).runOn w = (.ok spot, w.withFile spot []) := by
    rw [startMap, run_get_bind, run_lift_bind hs]
    rfl
  have hp : w.savedPart a = [] ++ ([0] ++ MapFile.writeLong 1) ++ w.savedBody ar := by
    rw [World.savedPart, har]
    rfl
  rw [hp, saveFile, bind_ok (run_area har), hedit]
  simp only [Bool.not_true, Bool.false_eq_true, if_false]
  rw [run_lift_bind (show (Json.str name).toText = .ok name from rfl), bind_ok hstart,
    bind_ok (run_appendBytes hord w _ _), groundOf, bind_assoc,
    bind_ok (run_area (w := w.withFile spot _) har), World.savedBody]
  -- Each way to break off before there are tiles to write leaves the version alone in the file.
  have hbroken : ∃ log, w.withFile spot ([] ++ ([0] ++ MapFile.writeLong 1)) =
      (w.withLog log).withFile spot ([] ++ ([0] ++ MapFile.writeLong 1) ++ []) :=
    ⟨w.log, congrArg (w.withFile spot) (List.append_nil _).symm⟩
  cases hg : ar.ground? with
  | none => exact hbroken
  | some g =>
    rw [bind_ok (run_orAbsent_some g _), Option.bind_some, ground, bind_assoc, run_get_bind,
      show (w.withFile spot _).grounds = w.grounds from rfl]
    cases hmap : w.grounds[g.index]? with
    | none => exact hbroken
    | some map =>
      obtain ⟨rows⟩ := map
      rw [bind_ok (run_orAbsent_some (TileMap.mk rows) _)]
      cases rows with
      | nil => exact hbroken
      | cons first rest =>
        rw [run_lift_bind (show entry (first :: rest) 0 = .ok first from entry_natCast _ 0),
          bind_ok (run_appendBytes hord w _ _)]
        obtain ⟨log, hlog⟩ := run_printTimes (TileMap.write { rows := first :: rest }).warnings
          "freak out" (w.withFile spot ([] ++ ([0] ++ MapFile.writeLong 1) ++
            (MapFile.writeLong first.length ++ MapFile.writeLong (first :: rest).length)))
        refine ⟨log, ?_⟩
        rw [bind_ok hlog, World.withFile_withLog,
          bind_ok (run_appendBytes hord (w.withLog log) _ _)]
        cases hf : (TileMap.write { rows := first :: rest }).fault? with
        | some fault =>
          simp [hf]
        | none =>
          simp only [hf]
          rw [bind_ok (run_area (w := (w.withLog log).withFile spot _) har),
            snd_run_writeRecords hord]
          simp

lemma run_saveFile_unopened (h : w.startsSaving a name = false) :
    ((saveFile a (.str name)).runOn w).2 = w := by
  cases har : w.areas[a.index]? with
  | none => rw [saveFile, area, bind_assoc, run_get_bind, har]; rfl
  | some ar =>
    rw [saveFile, bind_ok (run_area har)]
    cases hedit : ar.isEdited with
    | false => rfl
    | true =>
      cases hs : w.disk.fileSpot (mapPath name) with
      | ok spot => simp [World.startsSaving, har, hedit, hs, Except.isOk, Except.toBool] at h
      | error fault =>
        simp only [Bool.not_true, Bool.false_eq_true, if_false]
        rw [run_lift_bind (show (Json.str name).toText = .ok name from rfl), startMap, bind_assoc,
          run_get_bind, hs]
        rfl

/-- A save that fails leaves the file of the map as it was, or absent as it was, exactly if it fails
before the file is opened, or the file held just what was written of the area. -/
theorem failed_save_keeps_file_iff {fault : Fault}
    (h : (saveFile a (.str name)).runOn w = (.error fault, u)) :
    u.mapBytes? name = w.mapBytes? name ↔
      w.startsSaving a name = false ∨ w.mapBytes? name = some (w.savedPart a) := by
  have hu : ((saveFile a (.str name)).runOn w).2 = u := by rw [h]
  cases hstarts : w.startsSaving a name with
  | false =>
    rw [← hu, run_saveFile_unopened hstarts]
    exact ⟨fun _ => .inl rfl, fun _ => rfl⟩
  | true =>
    have hbytes : u.mapBytes? name = some (w.savedPart a) := by
      rw [World.startsSaving, Bool.and_eq_true, Option.any_eq_true] at hstarts
      obtain ⟨⟨ar, har, hedited⟩, hok⟩ := hstarts
      cases hspot : w.disk.fileSpot (mapPath name) with
      | error fault => rw [hspot] at hok; cases hok
      | ok spot =>
        obtain ⟨log, hsaved⟩ := exists_snd_run_saveFile har hedited hspot
        rw [← hu, hsaved, World.mapBytes?, World.withFile, World.withLog, (Disk.read_put _ hspot).2]
        rfl
    rw [hbytes, eq_comm]
    exact ⟨.inr, fun h => h.resolve_left Bool.noConfusion⟩

/-! ## A map without rows -/

def bareBytes : List UInt8 := MapFile.write 0 0 [] ["2,1,1"]

/-- A game with nothing but that file. -/
def bareWorld : World := { disk := Disk.initial.provide (mapPath "bare.map") bareBytes }

def openBareWorld : World := ((openArea (.str "bare.map") true).runOn bareWorld).2

def brokenBareWorld : World := ((saveFile ⟨0⟩ (.str "bare.map")).runOn openBareWorld).2

lemma bareWorld_facts : ((openArea (.str "bare.map") true).runOn bareWorld).1 = .ok ⟨0⟩ ∧
    ((saveFile ⟨0⟩ (.str "bare.map")).runOn openBareWorld).1 = .error .outOfRange ∧
    openBareWorld.mapBytes? "bare.map" = some bareBytes ∧
    brokenBareWorld.mapBytes? "bare.map" = some [0, 1, 0, 0, 0] ∧ bareBytes ≠ [0, 1, 0, 0, 0] := by
  decide +kernel

lemma run_saveFile_bare : (saveFile ⟨0⟩ (.str "bare.map")).runOn openBareWorld =
    (.error .outOfRange, brokenBareWorld) := by
  rw [brokenBareWorld, ← bareWorld_facts.2.1]

theorem failed_save_keeps_file_bare :
    (saveFile ⟨0⟩ (.str "bare.map")).runOn openBareWorld = (.error .outOfRange, brokenBareWorld) ∧
      (brokenBareWorld.mapBytes? "bare.map" = openBareWorld.mapBytes? "bare.map" ↔
        openBareWorld.startsSaving ⟨0⟩ "bare.map" = false ∨
          openBareWorld.mapBytes? "bare.map" = some (openBareWorld.savedPart ⟨0⟩)) :=
  ⟨run_saveFile_bare, failed_save_keeps_file_iff run_saveFile_bare⟩

/-- A map without rows can be opened but not saved, and of its file only the version is left. -/
theorem failed_save_spoils_bare :
    (openArea (.str "bare.map") true).runOn bareWorld = (.ok ⟨0⟩, openBareWorld) ∧
      (saveFile ⟨0⟩ (.str "bare.map")).runOn openBareWorld = (.error .outOfRange, brokenBareWorld) ∧
      brokenBareWorld.mapBytes? "bare.map" ≠ openBareWorld.mapBytes? "bare.map" := by
  obtain ⟨hopen, -, hbefore, hafter, hne⟩ := bareWorld_facts
  refine ⟨by rw [openBareWorld, ← hopen], run_saveFile_bare, fun hsame => ?_⟩
  rw [hbefore, hafter] at hsame
  exact hne (Option.some.inj hsame).symm

end Game

end TileQuest
