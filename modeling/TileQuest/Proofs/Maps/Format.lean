import TileQuest.Area.Format
import TileQuest.Proofs.Outcome
import TileQuest.Proofs.Text.Reading

/-!
# What is written into a map file is read back

`MapFile.readTiles_write` says that the tiles of a map are read back from the bytes they were
written as, with what follows them untouched, and `MapFile.readRecords_write` that the records
behind them come back as their lines. Every line is read back as its record
(`MapFile.Record.ofLine_line`) when the record is `MapFile.Record.Sound`.
-/

namespace TileQuest

variable {n : Int} {rows : List (List Json)}

/-! ## Tiles -/

def TileMap.IsTile (tile : Json) : Prop := ∃ n : Int, 0 ≤ n ∧ n < 65536 ∧ tile = .ofInt n

/-- The tiles are a non-empty list of rows of one length, and they and their numbers fit the fields
of a map file. -/
structure TileMap.Writable (rows : List (List Json)) : Prop where
  nonempty : rows ≠ []
  height : rows.length < 2 ^ 31
  width : ∃ width < 2 ^ 31, ∀ row ∈ rows, row.length = width
  tiles : ∀ row ∈ rows, ∀ tile ∈ row, IsTile tile

namespace MapFile

open TileMap

lemma readShort_twoBytes (hlo : 0 ≤ n) (hhi : n < 65536) (rest : List UInt8) :
    ∃ bytes, twoBytes? n = some bytes ∧ readShort (bytes ++ rest) = .ok (n, rest) := by
  refine ⟨_, if_pos ⟨hlo, hhi⟩, ?_⟩
  simp only [List.cons_append, List.nil_append, readShort, UInt8.toNat_ofNat', Except.ok.injEq,
    Prod.mk.injEq, and_true]
  omega

lemma writeTiles_cons {bytes : List UInt8} (h : twoBytes? n = some bytes) (tiles : List Json) :
    (writeTiles (.ofInt n :: tiles)).bytes = bytes ++ (writeTiles tiles).bytes ∧
      (writeTiles (.ofInt n :: tiles)).fault? = (writeTiles tiles).fault? := by
  have hlarge : largestUsual.less (.ofInt n) = .ok (decide (50 < n)) := Json.less_int 50 n
  have hbs : tileBytes? (.ofInt n) = some bytes := h
  rw [writeTiles, hlarge]
  simp only [hbs, and_self]

lemma readRow_writeTiles {row : List Json} (h : ∀ tile ∈ row, IsTile tile) (done : List Json)
    (tiles : List Json) (rest : List UInt8) :
    readRow row.length done ((writeTiles (row ++ tiles)).bytes ++ rest) =
        .ok (done.reverse ++ row, (writeTiles tiles).bytes ++ rest) ∧
      (writeTiles (row ++ tiles)).fault? = (writeTiles tiles).fault? := by
  induction row generalizing done with
  | nil => simp [readRow]
  | cons tile row ih =>
    obtain ⟨n, hlo, hhi, rfl⟩ := h tile (.head _)
    obtain ⟨bytes, hbs, hread⟩ := readShort_twoBytes hlo hhi
      ((writeTiles (row ++ tiles)).bytes ++ rest)
    obtain ⟨hcons, hf⟩ := writeTiles_cons hbs (row ++ tiles)
    obtain ⟨hrow, hnone⟩ := ih (fun t ht => h t (.tail _ ht)) (.ofInt n :: done)
    rw [List.cons_append, hcons, hf, hnone, List.length_cons, readRow, List.append_assoc, hread]
    refine ⟨?_, rfl⟩
    rw [ok_bind]
    simpa using hrow

lemma readRows_writeTiles {width : Nat}
    (hwd : ∀ row ∈ rows, row.length = width) (h : ∀ row ∈ rows, ∀ tile ∈ row, IsTile tile)
    (done : List (List Json)) (rest : List UInt8) :
    readRows width rows.length done ((writeTiles rows.flatten).bytes ++ rest) =
        .ok (done.reverse ++ rows, rest) ∧ (writeTiles rows.flatten).fault? = none := by
  induction rows generalizing done with
  | nil => simp [readRows, writeTiles]
  | cons row rows ih =>
    obtain ⟨hrow, hf⟩ := readRow_writeTiles (h row (.head _)) [] rows.flatten rest
    obtain ⟨hrs, hnone⟩ := ih (fun r hr => hwd r (.tail _ hr))
      (fun r hr => h r (.tail _ hr)) (row :: done)
    rw [hwd row (.head _)] at hrow
    rw [List.flatten_cons, List.length_cons, readRows, hrow, hf]
    refine ⟨?_, hnone⟩
    rw [ok_bind]
    simpa using hrs

lemma readTiles_write (h : Writable rows) (rest : List UInt8) :
    readTiles (writeLong 1 ++ writeLong (rows.headD []).length ++ writeLong rows.length ++
      (writeTiles rows.flatten).bytes ++ rest) = .ok ({ rows }, rest) := by
  obtain ⟨width, hlt, hwd⟩ := h.width
  have hht := h.height
  have hfst : (rows.headD []).length = width := by
    obtain ⟨first, others, rfl⟩ := List.exists_cons_of_ne_nil h.nonempty
    exact hwd first (.head _)
  obtain ⟨hrs, -⟩ := readRows_writeTiles hwd h.tiles [] rest
  simp only [readTiles, List.append_assoc, hfst]
  rw [readLong_writeLong (by decide) (by decide), ok_bind]
  simp only
  rw [readLong_writeLong (by omega) (by omega), ok_bind]
  simp only
  rw [readLong_writeLong (by omega) (by omega), ok_bind]
  simp only [Int.toNat_natCast]
  rw [hrs]
  rfl

/-! ## Records -/

/-- What the records of a map file can hold. -/
structure Record.Sound (r : Record) : Prop where
  factory : ∃ k : Int, r.factory = .ofInt k ∧ ∃ f, entry Factory.all k = .ok f
  column : r.column.natAbs ≤ 2 ^ 53
  row : r.row.natAbs ≤ 2 ^ 53
  /-- No argument holds the character that divides arguments, or the one that ends records. -/
  args : ∀ arg ∈ r.args, ',' ∉ arg.toList ∧ '\x00' ∉ arg.toList

def Record.words (r : Record) : List String :=
  r.factory.shown :: toString r.column :: toString r.row :: r.args

lemma Record.line_eq (r : Record) : r.line = Text.join (String.singleton ',') r.words := by
  have hcomma : String.singleton ',' = "," := rfl
  rw [line, words, hcomma]
  cases r.args with
  | nil => simp [Text.join, String.append_assoc]
  | cons arg args => simp [Text.join, String.append_assoc]

lemma parseInt_toString_of_le (h : n.natAbs ≤ 2 ^ 53) : Text.parseInt (toString n) = .ok n := by
  refine Text.parseInt_toString ?_
  calc n.natAbs ≤ 2 ^ 53 := h
    _ < 10 ^ 16 := by decide
    _ ≤ 10 ^ Text.maxDigits := Nat.pow_le_pow_right (by decide) (by decide)

lemma natAbs_le_of_entry {α : Type} {xs : List α} {k : Int} {a : α}
    (h : entry xs k = .ok a) : k.natAbs ≤ xs.length := by
  cases hk : signedIndex? xs.length k with
  | none => simp [entry, entry?, hk] at h
  | some i =>
    unfold signedIndex? at hk
    split at hk
    · split at hk
      · omega
      · cases hk
    · split at hk
      · omega
      · cases hk

namespace Record.Sound

variable {r : Record}

lemma not_mem_words (h : r.Sound) {word : String} (hword : word ∈ r.words) :
    ',' ∉ word.toList ∧ '\x00' ∉ word.toList := by
  have hnumeral : ∀ n : Int, ',' ∉ (toString n).toList ∧ '\x00' ∉ (toString n).toList := by
    intro n
    constructor <;> intro hmem <;> rcases Text.isDigit_or_eq_of_mem hmem with hd | hd <;>
      revert hd <;> decide
  obtain ⟨k, hk, -⟩ := h.factory
  have hshn : r.factory.shown = toString k := by rw [hk]; rfl
  rw [Record.words, hshn] at hword
  rcases List.mem_cons.1 hword with rfl | hword
  · exact hnumeral k
  rcases List.mem_cons.1 hword with rfl | hword
  · exact hnumeral r.column
  rcases List.mem_cons.1 hword with rfl | hword
  · exact hnumeral r.row
  · exact h.args word hword

lemma ofLine_line (h : r.Sound) : Record.ofLine r.line = .ok r := by
  obtain ⟨k, hk, f, hf⟩ := h.factory
  have hsmall : k.natAbs ≤ 2 ^ 53 := (natAbs_le_of_entry hf).trans (by decide)
  have hshn : r.factory.shown = toString k := by rw [hk]; rfl
  have hwds : Text.split ',' r.line =
      toString k :: toString r.column :: toString r.row :: r.args := by
    rw [Record.line_eq, Text.split_join (by simp [Record.words]) fun w hw => (h.not_mem_words hw).1,
      Record.words, hshn]
  have h0 : entry (toString k :: toString r.column :: toString r.row :: r.args) 0 =
      .ok (toString k) := entry_natCast _ 0
  have h1 : entry (toString k :: toString r.column :: toString r.row :: r.args) 1 =
      .ok (toString r.column) := entry_natCast _ 1
  have h2 : entry (toString k :: toString r.column :: toString r.row :: r.args) 2 =
      .ok (toString r.row) := entry_natCast _ 2
  simp only [Record.ofLine, hwds, h0, h1, h2, ok_bind, parseInt_toString_of_le hsmall,
    parseInt_toString_of_le h.column, parseInt_toString_of_le h.row, ← hk]
  rfl

lemma not_mem_line (h : r.Sound) : '\x00' ∉ r.line.toList := by
  rw [Record.line_eq]
  intro hmem
  rcases Text.mem_join hmem with hsep | ⟨word, hword, hchar⟩
  · revert hsep
    decide
  · exact (h.not_mem_words hword).2 hchar

end Record.Sound

lemma readRecords_write {rs : List Record} (h : ∀ r ∈ rs, r.Sound) :
    readRecords ((rs.map Record.line).flatMap fun line => Text.encode line ++ [0]) =
      .ok (rs.map Record.line) := by
  have hended : ((rs.map Record.line).flatMap fun line => Text.encode line ++ [0]) =
      ((rs.map Record.line).map (· ++ String.singleton '\x00')).flatMap Text.encode := by
    have hend : Text.encode (String.singleton '\x00') = [0] := by decide
    simp only [List.flatMap_map, Text.encode_append, hend]
  rw [readRecords, hended, Text.decode_flatMap, ok_bind, Text.split_ended]
  · simp only [List.dropLast_concat]
    rfl
  · intro line hl
    obtain ⟨r, hr, rfl⟩ := List.mem_map.1 hl
    exact (h r hr).not_mem_line

end MapFile

end TileQuest
