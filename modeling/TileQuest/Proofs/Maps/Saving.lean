import Mathlib.Data.List.Forall2
import TileQuest.Area.Loading
import TileQuest.Proofs.Maps.Format
import TileQuest.Proofs.Maps.Storage

/-!
# Saving an area

`World.Shows` says what there is to see of an area in the editor: its tiles, and for every entity
the record that it stands for (`World.StandsFor`). Saving looks at nothing else, and
`Game.run_saveFile` says what it leaves behind: a map file of the tiles and the records.
-/

namespace TileQuest

variable {i : Int} {spot : Spot}

/-! ## Tiles of coordinates -/

lemma Binary64.round_intCast (h : i.natAbs ≤ 2 ^ 53) :
    Binary64.round (i : Rat) = .finite (i : Rat) := by
  by_cases hlt : i.natAbs < 2 ^ 53
  · refine Binary64.round_of_fits ?_
    have hsize : decide (i.natAbs < Binary64.twoTo 53) = true := decide_eq_true hlt
    rw [Binary64.fits, Rat.num_intCast, Rat.den_intCast, hsize]
    decide
  · have hi : i = 2 ^ 53 ∨ i = -2 ^ 53 := by omega
    rcases hi with rfl | rfl
    · decide +kernel
    · decide +kernel

lemma trunc_roundSigned (h : i.natAbs ≤ 2 ^ 53) (negative : Bool) :
    (∀ s, Binary64.roundSigned (i : Rat) negative ≠ .infinite s) ∧
      Scalar.trunc (.real (Binary64.roundSigned (i : Rat) negative)) = .ok i := by
  rw [Binary64.roundSigned]
  by_cases hi : i = 0
  · subst hi
    cases negative <;> exact ⟨fun s => by simp [Binary64.zero], rfl⟩
  · rw [if_neg (by simpa using hi), Binary64.round_intCast h]
    exact ⟨fun s => by simp, by simp [Scalar.trunc, Scalar.whole]⟩

lemma Scalar.div_tileSize {a : Scalar} (hi : i.natAbs ≤ 2 ^ 53)
    (h : a.same (.int (32 * i)) = true) :
    ∃ negative, a.div TileMap.tileSize = .ok (.real (Binary64.roundSigned (i : Rat) negative)) := by
  have hquot : ((32 * i : Int) : Rat) / 32 = (i : Rat) := by
    rw [Rat.intCast_mul]
    grind
  have hsize : Binary64.round ((TileMap.tileSize : Int) : Rat) = .finite 32 := by decide +kernel
  cases a with
  | int n =>
    have hn : n = 32 * i := by simpa [Scalar.same] using h
    refine ⟨decide (n < 0) != decide ((TileMap.tileSize : Int) < 0), ?_⟩
    have hq : (n : Rat) / ((TileMap.tileSize : Int) : Rat) = (i : Rat) := hn ▸ hquot
    rw [Scalar.div, Scalar.divInts, if_neg (by decide), hq]
    split
    · exact absurd ‹_› ((trunc_roundSigned hi _).1 _)
    · rfl
  | real x =>
    have hmixed : ∀ x, (Scalar.real x).div TileMap.tileSize = .ok (.real (x.div (.finite 32))) := by
      intro x
      simp only [Scalar.div, Scalar.toBinary64, hsize, ok_bind]
      rfl
    rw [hmixed]
    cases x with
    | finite q =>
      have hq : q = ((32 * i : Int) : Rat) := by
        simpa [Scalar.same, Scalar.exact, Binary64.same, Binary64.rat?] using h
      refine ⟨Binary64.signsDiffer (.finite q) (.finite 32), ?_⟩
      simp only [Binary64.div, Binary64.rat?]
      rw [if_neg (by decide), hq, hquot]
    | negativeZero =>
      have hq : i = 0 := by
        have hzero : ((0 : Int) : Rat) = ((32 * i : Int) : Rat) := by
          simpa [Scalar.same, Scalar.exact, Binary64.same, Binary64.rat?] using h
        have hzero := Rat.intCast_inj.1 hzero
        omega
      subst hq
      have hdiv : Binary64.negativeZero.div (.finite 32) =
          Binary64.roundSigned ((0 : Int) : Rat) true := by decide +kernel
      exact ⟨true, by rw [hdiv]⟩
    | infinite s => simp [Scalar.same, Scalar.exact, Binary64.same, Binary64.rat?] at h
    | nan s => simp [Scalar.same, Scalar.exact, Binary64.same, Binary64.rat?] at h

lemma TileMap.cell_of_equal {x : Json} (hi : i.natAbs ≤ 2 ^ 53)
    (h : x.equal (.ofInt (32 * i)) = true) : TileMap.cell x = .ok i := by
  have hscalar : ∃ a, x.toScalar = .ok a ∧ a.same (.int (32 * i)) = true := by
    cases x with
    | num a => exact ⟨a, rfl, h⟩
    | bool b => exact ⟨_, rfl, h⟩
    | _ => simp [Json.equal, Json.ofInt] at h
  obtain ⟨a, ha, hsame⟩ := hscalar
  obtain ⟨negative, hdiv⟩ := Scalar.div_tileSize hi hsame
  rw [cell, ha, ok_bind, hdiv, ok_bind]
  exact (trunc_roundSigned hi negative).2

/-! ## What an area shows -/

namespace World

/-- The arguments of an entity in the editor. -/
def argsOf (w : World) : Args → List String
  | .own values => values
  | .defaults k => w.defaults.getD k []

/-- An entity stands for a record: it is on the tile of the record, and the first placeholder among
its parts has the factory and the arguments of the record. -/
def StandsFor (w : World) (e : EntityId) (r : MapFile.Record) : Prop :=
  ∃ en p o args, w.entities[e.index]? = some en ∧
    en.x.equal (.ofInt (32 * r.column)) = true ∧ en.y.equal (.ofInt (32 * r.row)) = true ∧
    en.parts.find? (w.partIs Part.isPlaceholder) = some p ∧ w.parts[p.index]? = some o ∧
    o.part = .placeholder { factory := r.factory, args } ∧ w.argsOf args = r.args

def Shows (w : World) (a : AreaId) (rows : List (List Json)) (rs : List MapFile.Record) : Prop :=
  ∃ area g, w.areas[a.index]? = some area ∧ area.isEdited = true ∧ area.ground? = some g ∧
    w.grounds[g.index]? = some { rows } ∧ List.Forall₂ w.StandsFor area.entities rs

def withFile (w : World) (spot : Spot) (bytes : List UInt8) : World :=
  { w with disk := w.disk.put spot (.file (.bytes bytes)) }

def withLog (w : World) (log : List Notice) : World := { w with log }

lemma withFile_withLog (w : World) (spot : Spot) (bytes : List UInt8) (log : List Notice) :
    (w.withFile spot bytes).withLog log = (w.withLog log).withFile spot bytes := rfl

end World

namespace Game

variable {w : World}

/-! ## Saving -/

lemma run_argValues (args : Args) : (argValues args).runOn w = (.ok (w.argsOf args), w) := by
  cases args <;> rfl

lemma run_recordOf {e : EntityId} {r : MapFile.Record} (h : w.StandsFor e r) (hr : r.Sound) :
    (recordOf e).runOn w = (.ok r, w) := by
  obtain ⟨en, p, o, args, hen, hx, hy, hfind, ho, hp, hargs⟩ := h
  have hfst : (find e Part.isPlaceholder).runOn w = (.ok p, w) := by
    rw [find, bind_ok (run_find? hen _), hfind, run_orAbsent_some]
  have hhold : (placeholder p).runOn w = (.ok { factory := r.factory, args }, w) := by
    rw [placeholder, bind_ok (run_part ho), hp]
    rfl
  have hplace : (entityPlace e).runOn w = (.ok (en.x, en.y), w) := by
    rw [entityPlace, bind_ok (run_entity hen), run_pure]
  rw [recordOf, bind_ok hfst, bind_ok hhold, bind_ok hplace]
  simp only [run_bind, run_lift, TileMap.cell_of_equal hr.column hx,
    TileMap.cell_of_equal hr.row hy, run_argValues, hargs, run_pure]

lemma run_appendBytes (hs : Disk.IsOrdinary spot) (w : World) (old data : List UInt8) :
    (appendBytes spot data).runOn (w.withFile spot old) =
      (.ok (), w.withFile spot (old ++ data)) := by
  rw [appendBytes, run_modify, World.withFile, Disk.append_put hs]
  rfl

lemma run_writeRecords (hs : Disk.IsOrdinary spot) {es : List EntityId}
    {rs : List MapFile.Record} (h : List.Forall₂ w.StandsFor es rs) (hrs : ∀ r ∈ rs, r.Sound)
    (old : List UInt8) :
    (es.forM fun e => do appendBytes spot (← recordOf e).write).runOn (w.withFile spot old) =
      (.ok (), w.withFile spot (old ++ rs.flatMap MapFile.Record.write)) := by
  induction h generalizing old with
  | nil => simp
  | @cons e r es rs hstand _ ih =>
    have hrec : (recordOf e).runOn (w.withFile spot old) = (.ok r, w.withFile spot old) :=
      run_recordOf (w := w.withFile spot old) hstand (hrs r (.head _))
    rw [run_forM_cons, run_bind, bind_ok hrec, run_appendBytes hs]
    simp only
    rw [ih fun r hr => hrs r (.tail _ hr), List.flatMap_cons, List.append_assoc]

lemma run_printTimes (n : Nat) (text : String) (w : World) :
    ∃ log, ((List.replicate n ()).forM fun _ => print text).runOn w = (.ok (), w.withLog log) := by
  induction n generalizing w with
  | zero => exact ⟨w.log, rfl⟩
  | succ n ih => exact ih (w.withLog (.line text :: w.log))

section Saving

variable {a : AreaId} {rows : List (List Json)} {rs : List MapFile.Record} {name : String}

lemma run_saveFile_of_error (h : w.Shows a rows rs) {fault : Fault}
    (hs : w.disk.fileSpot (mapPath name) = .error fault) :
    (saveFile a (.str name)).runOn w = (.error fault, w) := by
  obtain ⟨area, g, ha, hedit, -⟩ := h
  have hstart : (startMap name).runOn w = (.error fault, w) := by
    rw [startMap, run_get_bind, run_bind, run_lift, hs]
  rw [saveFile, bind_ok (run_area ha), hedit]
  simp only [Bool.not_true, Bool.false_eq_true, if_false]
  rw [run_lift_bind (show (Json.str name).toText = .ok name from rfl), run_bind, hstart]

lemma run_saveFile (h : w.Shows a rows rs) (hrows : TileMap.Writable rows)
    (hrs : ∀ r ∈ rs, r.Sound) (hs : w.disk.fileSpot (mapPath name) = .ok spot) :
    ∃ log, (saveFile a (.str name)).runOn w =
      (.ok (), (w.withLog log).withFile spot (MapFile.write (rows.headD []).length rows.length
        rows.flatten (rs.map MapFile.Record.line))) := by
  obtain ⟨area, g, ha, hedit, hgr, hmap, hstand⟩ := h
  obtain ⟨hord, -⟩ := Disk.read_put (.bytes []) hs
  obtain ⟨width, -, hwd⟩ := hrows.width
  obtain ⟨-, hf⟩ := MapFile.readRows_writeTiles hwd hrows.tiles [] []
  have hfst : entry rows 0 = .ok (rows.headD []) := by
    obtain ⟨first, others, rfl⟩ := List.exists_cons_of_ne_nil hrows.nonempty
    exact entry_natCast _ 0
  have hstart : (startMap name).runOn w = (.ok spot, w.withFile spot []) := by
    rw [startMap, run_get_bind, run_lift_bind hs]
    rfl
  -- The warnings about large tiles are all that is written down on the way.
  obtain ⟨log, hlog⟩ := run_printTimes (TileMap.write { rows }).warnings "freak out"
    (w.withFile spot ([] ++ ([0] ++ MapFile.writeLong 1) ++
      (MapFile.writeLong (rows.headD []).length ++ MapFile.writeLong rows.length)))
  refine ⟨log, ?_⟩
  rw [saveFile, bind_ok (run_area ha), hedit]
  simp only [Bool.not_true, Bool.false_eq_true, if_false]
  rw [run_lift_bind (show (Json.str name).toText = .ok name from rfl), bind_ok hstart,
    bind_ok (run_appendBytes hord w _ _),
    bind_ok (run_groundOf (w := w.withFile spot _) ha hgr),
    bind_ok (run_ground (w := w.withFile spot _) hmap), run_lift_bind hfst,
    bind_ok (run_appendBytes hord w _ _), bind_ok hlog,
    World.withFile_withLog, bind_ok (run_appendBytes hord (w.withLog log) _ _),
    show (TileMap.write { rows }).fault? = none from hf]
  simp only
  rw [bind_ok (run_area (w := (w.withLog log).withFile spot _) ha),
    run_writeRecords (w := w.withLog log) hord hstand hrs]
  have hbs : [] ++ ([0] ++ MapFile.writeLong 1) ++ (MapFile.writeLong (rows.headD []).length ++
        MapFile.writeLong rows.length) ++ (TileMap.write { rows }).bytes ++
        rs.flatMap MapFile.Record.write =
      MapFile.write (rows.headD []).length rows.length rows.flatten
        (rs.map MapFile.Record.line) := by
    simp only [MapFile.write, MapFile.writeHead, List.nil_append, List.append_assoc,
      List.flatMap_map]
    rfl
  rw [hbs]

end Saving

end Game

end TileQuest
