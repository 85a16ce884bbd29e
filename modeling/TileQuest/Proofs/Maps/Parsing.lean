import TileQuest.Proofs.Maps.Format

/-!
# What is read from a map file can be written again

`MapFile.writable_of_readTiles` and `TileMap.isTile_of_ofText` say so of tiles. The records among
the lines of a map file (`MapFile.records`) are `MapFile.Record.Sound` as far as their numbers and
arguments allow (`MapFile.sound_of_mem_records`), and they are all there is in the lines that were
written for them (`MapFile.records_map_line`).
-/

namespace TileQuest

variable {map : TileMap} {row : List Json} {line : String} {r : Record} {lines : List String}

/-! ## Characters of pieces -/

namespace Text

variable {sep c : Char}

lemma mem_of_mem_splitChars {cs piece : List Char} (h : piece ∈ splitChars sep cs)
    (hc : c ∈ piece) : c ∈ cs := by
  induction cs generalizing piece with
  | nil =>
    rw [splitChars, List.mem_singleton] at h
    rwa [h] at hc
  | cons d cs ih =>
    rw [splitChars] at h
    split at h
    · rcases List.mem_cons.1 h with rfl | h
      · cases hc
      · exact .tail _ (ih h hc)
    · cases hpieces : splitChars sep cs with
      | nil =>
        rw [hpieces, List.mem_singleton] at h
        rw [h, List.mem_singleton] at hc
        exact hc ▸ List.mem_cons_self
      | cons first others =>
        rw [hpieces] at h ih
        rcases List.mem_cons.1 h with rfl | h
        · rcases List.mem_cons.1 hc with rfl | hc
          · exact (.head _)
          · exact .tail _ (ih (.head _) hc)
        · exact .tail _ (ih (.tail _ h) hc)

lemma mem_of_mem_split {s piece : String} (h : piece ∈ split sep s) (hc : c ∈ piece.toList) :
    c ∈ s.toList := by
  obtain ⟨cs, hcs, rfl⟩ := List.mem_map.1 h
  rw [String.toList_ofList] at hc
  exact mem_of_mem_splitChars hcs hc

lemma digit?_lt {d : Nat} (h : digit? c = some d) : d < 10 := by
  obtain ⟨z, hz, rfl⟩ := Option.map_eq_some_iff.1 h
  have hrange := List.find?_some hz
  simp only [Bool.and_eq_true, decide_eq_true_eq] at hrange
  omega

lemma parseInt_singleton {n : Int} (h : parseInt (String.singleton c) = .ok n) :
    0 ≤ n ∧ n < 10 := by
  have hnatural {k : Nat} (hk : natural? [c] = some k) : k < 10 := by
    rw [natural?] at hk
    cases hd : digit? c with
    | none => simp [hd] at hk
    | some d =>
      rw [hd] at hk
      simp only [digitRun, maxDigits] at hk
      cases hk
      exact digit?_lt hd
  have hstrip : strip [c] = [c] ∨ strip [c] = [] := by
    by_cases hblank : isBlank c = true <;> simp [strip, hblank]
  rw [parseInt, String.toList_singleton] at h
  rcases hstrip with hstrip | hstrip
  · rw [hstrip] at h
    by_cases hmin : c = '-'
    · subst hmin
      simp [natural?] at h
    by_cases hplus : c = '+'
    · subst hplus
      simp [natural?] at h
    cases hk : natural? [c] with
    | none => simp [hk, hmin, hplus] at h
    | some k =>
      have hlt := hnatural hk
      simp [hk, hmin, hplus] at h
      omega
  · simp [hstrip, natural?] at h

end Text

/-! ## Tiles -/

lemma mem_of_mapM_eq_ok {α β : Type} {f : α → Except Fault β} {as : List α} {bs : List β} {b : β}
    (h : as.mapM f = .ok bs) (hb : b ∈ bs) : ∃ a ∈ as, f a = .ok b := by
  induction as generalizing bs with
  | nil =>
    cases h
    cases hb
  | cons a as ih =>
    rw [List.mapM_cons] at h
    obtain ⟨c, hc, h⟩ := bind_eq_ok.1 h
    obtain ⟨cs, hcs, h⟩ := bind_eq_ok.1 h
    cases h
    rcases List.mem_cons.1 hb with rfl | hb
    · exact ⟨a, (.head _), hc⟩
    · obtain ⟨a', ha', h'⟩ := ih hcs hb
      exact ⟨a', .tail _ ha', h'⟩

lemma TileMap.isTile_of_ofText {text : String} (h : ofText text = .ok map) (hrow : row ∈ map.rows) : ∀ tile ∈ row, IsTile tile := by
  obtain ⟨rows, hrs, h⟩ := bind_eq_ok.1 h
  cases h
  obtain ⟨line, -, hl⟩ := mem_of_mapM_eq_ok hrs (List.mem_filter.1 hrow).1
  intro tile htile
  obtain ⟨c, -, hc⟩ := mem_of_mapM_eq_ok hl htile
  obtain ⟨n, hn, htile⟩ := bind_eq_ok.1 hc
  cases htile
  obtain ⟨hlo, hhi⟩ := Text.parseInt_singleton hn
  exact ⟨n, hlo, by omega, rfl⟩

namespace MapFile

open TileMap

variable {bytes rest : List UInt8} {n : Int} {width : Nat}

lemma readShort_eq_ok (h : readShort bytes = .ok (n, rest)) : 0 ≤ n ∧ n < 65536 := by
  match bytes, h with
  | a :: b :: _, h =>
    simp only [readShort, Except.ok.injEq, Prod.mk.injEq] at h
    have ha := a.toNat_lt
    have hb := b.toNat_lt
    omega

lemma readLong_eq_ok (h : readLong bytes = .ok (n, rest)) : n < 2147483648 := by
  match bytes, h with
  | a :: b :: c :: d :: _, h =>
    simp only [readLong, Except.ok.injEq, Prod.mk.injEq] at h
    have ha := a.toNat_lt
    have hb := b.toNat_lt
    have hc := c.toNat_lt
    have hd := d.toNat_lt
    obtain ⟨h, -⟩ := h
    split at h <;> omega

lemma readRow_eq_ok {done : List Json} (h : readRow width done bytes = .ok (row, rest)) :
    ∃ tiles, row = done.reverse ++ tiles ∧ tiles.length = width ∧ ∀ tile ∈ tiles, IsTile tile := by
  induction width generalizing done bytes with
  | zero =>
    cases h
    exact ⟨[], by simp, rfl, nofun⟩
  | succ width ih =>
    obtain ⟨⟨n, bytes'⟩, hread, h⟩ := bind_eq_ok.1 h
    obtain ⟨tiles, rfl, hlen, hts⟩ := ih h
    obtain ⟨hlo, hhi⟩ := readShort_eq_ok hread
    refine ⟨.ofInt n :: tiles, by simp, by simp [hlen], fun tile htile => ?_⟩
    rcases List.mem_cons.1 htile with rfl | htile
    · exact ⟨n, hlo, hhi, rfl⟩
    · exact hts tile htile

lemma readRows_eq_ok {height : Nat} {done rows : List (List Json)}
    (h : readRows width height done bytes = .ok (rows, rest)) :
    ∃ new, rows = done.reverse ++ new ∧ new.length = height ∧
      ∀ row ∈ new, row.length = width ∧ ∀ tile ∈ row, IsTile tile := by
  induction height generalizing done bytes with
  | zero =>
    cases h
    exact ⟨[], by simp, rfl, nofun⟩
  | succ height ih =>
    obtain ⟨⟨row, bytes'⟩, hread, h⟩ := bind_eq_ok.1 h
    obtain ⟨new, rfl, hlen, hnew⟩ := ih h
    obtain ⟨tiles, hts, hfst⟩ := readRow_eq_ok hread
    rw [List.reverse_nil, List.nil_append] at hts
    refine ⟨row :: new, by simp, by simp [hlen], fun row' hrow' => ?_⟩
    rcases List.mem_cons.1 hrow' with rfl | hrow'
    · exact hts ▸ hfst
    · exact hnew row' hrow'

lemma writable_of_readTiles
    (h : readTiles bytes = .ok (map, rest)) (hrow : map.rows ≠ []) : Writable map.rows := by
  obtain ⟨⟨_, _⟩, _, h⟩ := bind_eq_ok.1 h
  obtain ⟨⟨width, _⟩, hwd, h⟩ := bind_eq_ok.1 h
  obtain ⟨⟨height, _⟩, hht, h⟩ := bind_eq_ok.1 h
  obtain ⟨⟨rows, _⟩, hrs, h⟩ := bind_eq_ok.1 h
  cases h
  obtain ⟨new, rfl, hlen, hnew⟩ := readRows_eq_ok hrs
  have hwd := readLong_eq_ok hwd
  have hht := readLong_eq_ok hht
  refine ⟨hrow, ?_, ⟨width.toNat, by omega, fun row hrow => (hnew row hrow).1⟩,
    fun row hrow => (hnew row hrow).2⟩
  rw [hlen]
  omega

/-! ## Records -/

namespace Record

lemma ofLine_eq_ok (h : ofLine line = .ok r) :
    (∃ k : Int, r.factory = .ofInt k) ∧ ∀ arg ∈ r.args, arg ∈ Text.split ',' line := by
  obtain ⟨_, _, h⟩ := bind_eq_ok.1 h
  obtain ⟨k, _, h⟩ := bind_eq_ok.1 h
  obtain ⟨_, _, h⟩ := bind_eq_ok.1 h
  obtain ⟨_, _, h⟩ := bind_eq_ok.1 h
  obtain ⟨_, _, h⟩ := bind_eq_ok.1 h
  obtain ⟨_, _, h⟩ := bind_eq_ok.1 h
  cases h
  exact ⟨⟨k, rfl⟩, fun arg harg => List.mem_of_mem_drop harg⟩

def factory? (r : Record) : Except Fault Factory := do entry Factory.all (← r.factory.toIndex)

end Record

def record? (line : String) : Option Record :=
  match Record.ofLine line with
  | .ok r => if r.factory?.isOk then some r else none
  | .error _ => none

def records (lines : List String) : List Record := lines.filterMap record?

lemma record?_eq_some :
    record? line = some r ↔ Record.ofLine line = .ok r ∧ ∃ f, r.factory? = .ok f := by
  rw [record?]
  cases hr : Record.ofLine line with
  | error fault => simp
  | ok s =>
    cases hf : s.factory? with
    | error fault =>
      simp only [hf, Except.isOk, Except.toBool, Bool.false_eq_true, if_false, Except.ok.injEq]
      grind
    | ok f =>
      simp only [hf, Except.isOk, Except.toBool, if_true, Option.some.injEq, Except.ok.injEq]
      grind

lemma sound_of_mem_records (h : r ∈ records lines)
    (hcol : r.column.natAbs ≤ 2 ^ 53) (hrow : r.row.natAbs ≤ 2 ^ 53)
    (hargs : ∀ arg ∈ r.args, '\x00' ∉ arg.toList) : r.Sound := by
  obtain ⟨line, -, hl⟩ := List.mem_filterMap.1 h
  obtain ⟨hr, f, hf⟩ := record?_eq_some.1 hl
  obtain ⟨⟨k, hk⟩, hwds⟩ := Record.ofLine_eq_ok hr
  rw [Record.factory?, hk] at hf
  exact ⟨⟨k, hk, f, hf⟩, hcol, hrow,
    fun arg harg => ⟨Text.not_mem_of_mem_split (hwds arg harg), hargs arg harg⟩⟩

lemma not_mem_of_readRecords {bytes : List UInt8}
    (h : readRecords bytes = .ok lines) (hr : r ∈ records lines) :
    ∀ arg ∈ r.args, '\x00' ∉ arg.toList := by
  obtain ⟨text, -, h⟩ := bind_eq_ok.1 h
  cases h
  obtain ⟨line, hl, hrec⟩ := List.mem_filterMap.1 hr
  intro arg harg hmem
  have hword := (Record.ofLine_eq_ok (record?_eq_some.1 hrec).1).2 arg harg
  exact Text.not_mem_of_mem_split (List.dropLast_subset _ hl) (Text.mem_of_mem_split hword hmem)

lemma records_map_line {rs : List Record} (h : ∀ r ∈ rs, r.Sound) :
    records (rs.map Record.line) = rs := by
  induction rs with
  | nil => rfl
  | cons r rs ih =>
    have hr := h r (.head _)
    obtain ⟨k, hk, f, hf⟩ := hr.factory
    have hfac : r.factory? = .ok f := by rw [Record.factory?, hk]; exact hf
    rw [List.map_cons, records, List.filterMap_cons,
      record?_eq_some.2 ⟨hr.ofLine_line, f, hfac⟩]
    exact congrArg _ (ih fun s hs => h s (.tail _ hs))

end MapFile

end TileQuest
