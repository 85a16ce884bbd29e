import Mathlib.Algebra.Order.Ring.Int
import TileQuest.Text.Numeral
import TileQuest.Text.Split
import TileQuest.Text.Utf8

/-!
# Reading back what was written

Text goes to a file as numerals, pieces with a character between them, and bytes. Each of the
three is read back as it was written: `Text.parseInt_toString` for numerals, `Text.split_join` and
`Text.split_ended` for pieces, and `Text.decode_flatMap` for bytes.
-/

namespace TileQuest.Text

variable {c : Char} {cs : List Char}

/-! ## Numerals -/

section Numerals

lemma toNat_of_isDigit (h : c.isDigit = true) : 48 ≤ c.toNat ∧ c.toNat ≤ 57 := by
  simpa [Char.isDigit, UInt32.le_iff_toNat_le] using h

lemma digit?_of_isDigit (h : c.isDigit = true) : digit? c = some (c.toNat - '0'.toNat) := by
  obtain ⟨hlo, hhi⟩ := toNat_of_isDigit h
  have hfst : (decide (0x30 ≤ c.toNat) && decide (c.toNat < 0x30 + 10)) = true := by
    simp only [Bool.and_eq_true, decide_eq_true_eq]
    omega
  obtain ⟨others, hzeros⟩ : ∃ others, zeros = 0x30 :: others := ⟨_, rfl⟩
  rw [digit?, hzeros, List.find?_cons, hfst]
  rfl

lemma not_isBlank_of_isDigit (h : c.isDigit = true) : isBlank c = false := by
  obtain ⟨hlo, hhi⟩ := toNat_of_isDigit h
  simp only [isBlank, Bool.or_eq_false_iff, Bool.and_eq_false_iff, decide_eq_false_iff_not,
    beq_eq_false_iff_ne]
  omega

lemma strip_of_forall (h : ∀ c ∈ cs, isBlank c = false) : strip cs = cs := by
  have hkeep : ∀ ds : List Char, (∀ c ∈ ds, isBlank c = false) → ds.dropWhile isBlank = ds := by
    intro ds hds
    cases ds with
    | nil => rfl
    | cons d ds => simp [hds d (.head _)]
  rw [strip, hkeep cs h, hkeep cs.reverse fun c hc => h c (List.mem_reverse.1 hc),
    List.reverse_reverse]

lemma digitRun_eq (h : ∀ c ∈ cs, c.isDigit = true) (value count : Nat) :
    digitRun cs value count = some (Nat.ofDigitChars 10 cs value, count + cs.length) := by
  induction cs generalizing value count with
  | nil => simp [digitRun]
  | cons c cs ih =>
    rw [digitRun.eq_def]
    simp only [digit?_of_isDigit (h c (.head _))]
    rw [ih fun d hd => h d (.tail _ hd), Nat.ofDigitChars_cons, List.length_cons,
      Nat.add_assoc, Nat.add_comm 1]

lemma natural?_toDigits {n : Nat} (h : n < 10 ^ maxDigits) :
    natural? (Nat.toDigits 10 n) = some n := by
  have hdigits : ∀ c ∈ Nat.toDigits 10 n, c.isDigit = true := fun c hc =>
    Nat.isDigit_of_mem_toDigits (by decide) (by decide) hc
  have hlen : (Nat.toDigits 10 n).length ≤ maxDigits :=
    (Nat.length_toDigits_le_iff (by decide) (by decide)).2 h
  have hvalue : Nat.ofDigitChars 10 (Nat.toDigits 10 n) 0 = n :=
    Nat.ofDigitChars_toDigits (by decide) (by decide)
  cases hcs : Nat.toDigits 10 n with
  | nil => simp at hcs
  | cons c cs =>
    rw [hcs] at hdigits hlen hvalue
    rw [Nat.ofDigitChars_cons, Nat.mul_zero, Nat.zero_add] at hvalue
    rw [natural?, digit?_of_isDigit (hdigits c (.head _))]
    simp only
    rw [digitRun_eq fun d hd => hdigits d (.tail _ hd)]
    simp only [hvalue]
    rw [if_pos (by simpa [Nat.add_comm] using hlen)]

end Numerals

lemma toList_toString (n : Int) :
    (toString n).toList =
      if n < 0 then '-' :: Nat.toDigits 10 n.natAbs else Nat.toDigits 10 n.natAbs := by
  cases n with
  | ofNat m => simp [toString, Int.repr, Nat.repr_eq_ofList_toDigits]
  | negSucc m =>
    rw [if_pos (Int.negSucc_lt_zero m), Int.natAbs_negSucc]
    simp [toString, Int.repr, Nat.repr_eq_ofList_toDigits]

lemma isDigit_or_eq_of_mem {n : Int} (h : c ∈ (toString n).toList) :
    c.isDigit = true ∨ c = '-' := by
  have hdigit : c ∈ Nat.toDigits 10 n.natAbs → c.isDigit = true :=
    Nat.isDigit_of_mem_toDigits (by decide) (by decide)
  rw [toList_toString] at h
  split at h
  · rcases List.mem_cons.1 h with rfl | h
    · exact .inr rfl
    · exact .inl (hdigit h)
  · exact .inl (hdigit h)

lemma parseInt_toString {n : Int} (h : n.natAbs < 10 ^ maxDigits) :
    parseInt (toString n) = .ok n := by
  have hblank : ∀ c ∈ (toString n).toList, isBlank c = false := by
    intro c hc
    rcases isDigit_or_eq_of_mem hc with hd | rfl
    · exact not_isBlank_of_isDigit hd
    · decide
  have hread := natural?_toDigits h
  rw [parseInt, strip_of_forall hblank, toList_toString]
  by_cases hn : n < 0
  · have hvalue : -((n.natAbs : Nat) : Int) = n := by omega
    have hsigned : ((natural? (Nat.toDigits 10 n.natAbs)).map fun n => -(n : Int)) = some n := by
      rw [hread]
      exact congrArg some hvalue
    simp only [if_pos hn, hsigned]
  · have hvalue : ((n.natAbs : Nat) : Int) = n := by omega
    rw [if_neg hn]
    cases hds : Nat.toDigits 10 n.natAbs with
    | nil => simp at hds
    | cons c cs =>
      -- A digit is no sign, so the text is read from its first character on.
      have hdigit : c.isDigit = true :=
        Nat.isDigit_of_mem_toDigits (by decide) (by decide) (hds ▸ List.mem_cons_self)
      have hmin : c ≠ '-' := by rintro rfl; simp at hdigit
      have hplus : c ≠ '+' := by rintro rfl; simp at hdigit
      rw [hds] at hread
      simp [hmin, hplus, hread, hvalue]

/-! ## Pieces -/

section Pieces

variable {sep : Char} {s : String} {pieces : List String}

lemma splitChars_of_not_mem (h : sep ∉ cs) : splitChars sep cs = [cs] := by
  induction cs with
  | nil => rfl
  | cons c cs ih =>
    rw [List.mem_cons, not_or] at h
    rw [splitChars, if_neg (Ne.symm h.1), ih h.2]

lemma splitChars_append (h : sep ∉ cs) (rest : List Char) :
    splitChars sep (cs ++ sep :: rest) = cs :: splitChars sep rest := by
  induction cs with
  | nil => rw [List.nil_append, splitChars, if_pos rfl]
  | cons c cs ih =>
    rw [List.mem_cons, not_or] at h
    rw [List.cons_append, splitChars, if_neg (Ne.symm h.1), ih h.2]

lemma split_of_not_mem (h : sep ∉ s.toList) : split sep s = [s] := by
  simp [split, splitChars_of_not_mem h]

lemma split_append (h : sep ∉ s.toList) (rest : String) :
    split sep (s ++ String.singleton sep ++ rest) = s :: split sep rest := by
  have hchars : (s ++ String.singleton sep ++ rest).toList = s.toList ++ sep :: rest.toList := by
    simp
  rw [split, hchars, splitChars_append h, List.map_cons, String.ofList_toList]
  rfl

lemma not_mem_of_mem_splitChars {piece : List Char} (h : piece ∈ splitChars sep cs) :
    sep ∉ piece := by
  induction cs generalizing piece with
  | nil =>
    rw [splitChars, List.mem_singleton] at h
    simp [h]
  | cons c cs ih =>
    rw [splitChars] at h
    split at h
    · rcases List.mem_cons.1 h with rfl | h
      · simp
      · exact ih h
    · rename_i hc
      cases hpieces : splitChars sep cs with
      | nil =>
        rw [hpieces, List.mem_singleton] at h
        rw [h, List.mem_singleton]
        exact Ne.symm hc
      | cons first others =>
        rw [hpieces] at h ih
        rcases List.mem_cons.1 h with rfl | h
        · simpa [Ne.symm hc] using ih (.head _)
        · exact ih (.tail _ h)

lemma not_mem_of_mem_split {piece : String} (h : piece ∈ split sep s) : sep ∉ piece.toList := by
  obtain ⟨cs, hcs, rfl⟩ := List.mem_map.1 h
  rw [String.toList_ofList]
  exact not_mem_of_mem_splitChars hcs

lemma split_join (hne : pieces ≠ []) (h : ∀ piece ∈ pieces, sep ∉ piece.toList) :
    split sep (join (String.singleton sep) pieces) = pieces := by
  induction pieces with
  | nil => exact absurd rfl hne
  | cons piece pieces ih =>
    have hpiece := h piece (.head _)
    cases pieces with
    | nil => exact split_of_not_mem hpiece
    | cons next pieces =>
      rw [join, split_append hpiece, ih (by simp) fun p hp => h p (.tail _ hp)]
      simp

lemma mem_join {between : String} (h : c ∈ (join between pieces).toList) :
    c ∈ between.toList ∨ ∃ piece ∈ pieces, c ∈ piece.toList := by
  induction pieces with
  | nil => simp [join] at h
  | cons piece pieces ih =>
    cases pieces with
    | nil => exact .inr ⟨piece, (.head _), h⟩
    | cons next pieces =>
      simp only [join, String.toList_append, List.mem_append] at h
      rcases h with (h | h) | h
      · exact .inr ⟨piece, (.head _), h⟩
      · exact .inl h
      · rcases ih h with h | ⟨p, hp, h⟩
        · exact .inl h
        · exact .inr ⟨p, .tail _ hp, h⟩

lemma split_ended (h : ∀ piece ∈ pieces, sep ∉ piece.toList) :
    split sep (String.join (pieces.map (· ++ String.singleton sep))) = pieces ++ [""] := by
  induction pieces with
  | nil => rfl
  | cons piece pieces ih =>
    rw [List.map_cons, String.join_cons, split_append (h piece (.head _)),
      ih fun p hp => h p (.tail _ hp), List.cons_append]

end Pieces

lemma encode_append (s t : String) : encode (s ++ t) = encode s ++ encode t := by
  simp [encode]

lemma decode_flatMap (texts : List String) :
    decode (texts.flatMap encode) = .ok (String.join texts) := by
  have h : texts.flatMap encode = encode (String.join texts) := by
    induction texts with
    | nil => rfl
    | cons text texts ih => rw [List.flatMap_cons, ih, String.join_cons, encode_append]
  rw [h, decode_encode]

end TileQuest.Text
