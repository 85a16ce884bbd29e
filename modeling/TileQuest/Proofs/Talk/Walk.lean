import Mathlib.Data.Finset.Prod
import Mathlib.Data.Fintype.Card
import Mathlib.Data.Int.Interval
import TileQuest.Proofs.Talk.Words

/-!
# The walk through a script

Showing the next line may lead on at once: an empty line is passed, and a command may jump. So a
dialogue walks through its script until it comes to a line that is shown or does something
(`Dialogue.leads?`), and what it needs for that is the line it is at and the random numbers to come.
-/

namespace TileQuest

variable {s : Int × List Int} {w : World} {id : PartId} {d : Dialogue} {α : Type}

/-! ## Rounds -/

/-- The position in the script that is looked at from a line: the next one, or in the typed style
the same. -/
def DialogueStyle.position : DialogueStyle → Int → Int
  | .stepped, line => line + 1
  | .typed, line => line

/-- Which of the targets the next random number stands for. -/
def drawn? (targets draws : List Int) : Option Int :=
  entry? targets (draws.headD 0 % targets.length)

/-- Where a line of a script leads at once, given its position and the random numbers to come. Most
lines do not. -/
def Line.turn? (line : Json) (position : Int) (draws : List Int) : Option (Int × List Int) :=
  match line with
  | .str s =>
    if s = "" then some (position, draws)
    else if s.toList.head? = some '!' then
      match Command.ofLine s with
      | .ok (.goto target) => some (target - 2, draws)
      | .ok (.random targets) => (drawn? targets draws).map fun target => (target - 2, draws.tail)
      | _ => none
    else none
  | .arr [] => some (position, draws)
  | .obj [] => some (position, draws)
  | _ => none

namespace Dialogue

/-- Where a dialogue is led at once from a line, with random numbers to come: nowhere if the line
that it looks at is shown, or does something, or if there is none. -/
def leads? (style : DialogueStyle) (lines : List Json) (s : Int × List Int) :
    Option (Int × List Int) :=
  if lines.length ≤ style.position s.1 then none
  else ( entry? lines (style.position s.1)).bind fun line => Line.turn? line (style.position s.1) s.2

/-- Where a dialogue is led in so many rounds. -/
def leadsIn (style : DialogueStyle) (lines : List Json) : Nat → Int × List Int → Option (Int × List Int)
  | 0, s => some s
  | n + 1, s => (leads? style lines s).bind (leadsIn style lines n)

/-- The walk comes to where it was before, with the same random numbers to come. -/
def Circles (style : DialogueStyle) (lines : List Json) (s : Int × List Int) : Prop :=
  ∃ n m s', leadsIn style lines n s = some s' ∧ leadsIn style lines (m + 1) s' = some s'

variable {style : DialogueStyle} {lines : List Json} {s' : Int × List Int} {n m : Nat}

lemma leadsIn_succ_of_leads (h : leads? style lines s = some s') (n : Nat) :
    leadsIn style lines (n + 1) s = leadsIn style lines n s' := by
  rw [leadsIn, h, Option.bind_some]

lemma leadsIn_add (n m : Nat) (s : Int × List Int) :
    leadsIn style lines (n + m) s = (leadsIn style lines n s).bind (leadsIn style lines m) := by
  induction n generalizing s with
  | zero => rw [Nat.zero_add, leadsIn, Option.bind_some]
  | succ n ih =>
    rw [Nat.succ_add, leadsIn, leadsIn, Option.bind_assoc]
    exact congrArg _ (funext ih)

lemma leadsIn_isSome_of_le (hle : m ≤ n) (h : (leadsIn style lines n s).isSome) :
    (leadsIn style lines m s).isSome := by
  obtain ⟨k, rfl⟩ := Nat.exists_eq_add_of_le hle
  rw [leadsIn_add] at h
  exact Option.isSome_of_isSome_bind h

lemma leadsIn_circle (h : leadsIn style lines (m + 1) s = some s) (k : Nat) :
    leadsIn style lines (k * (m + 1)) s = some s := by
  induction k with
  | zero => rw [Nat.zero_mul, leadsIn]
  | succ k ih => rw [Nat.succ_mul, leadsIn_add, ih, Option.bind_some, h]

lemma Circles.leadsIn_isSome (h : Circles style lines s) (k : Nat) :
    (leadsIn style lines k s).isSome := by
  obtain ⟨n, m, s', hn, hm⟩ := h
  have hround : leadsIn style lines (n + k * (m + 1)) s = some s' := by
    rw [leadsIn_add, hn, Option.bind_some, leadsIn_circle hm]
  refine leadsIn_isSome_of_le (n := n + k * (m + 1)) ?_ (by rw [hround]; rfl)
  calc k ≤ k * (m + 1) := Nat.le_mul_of_pos_right k (Nat.succ_pos m)
    _ ≤ n + k * (m + 1) := Nat.le_add_left _ _

lemma turn?_suffix {line : Json} {position : Int} {draws : List Int}
    (h : Line.turn? line position draws = some s) : s.2 <:+ draws := by
  unfold Line.turn? at h
  split at h
  · split at h
    · cases h
      exact List.suffix_refl _
    · split at h
      · split at h
        · cases h
          exact List.suffix_refl _
        · obtain ⟨target, -, rfl⟩ := Option.map_eq_some_iff.1 h
          exact List.tail_suffix draws
        · cases h
      · cases h
  · cases h
    exact List.suffix_refl _
  · cases h
    exact List.suffix_refl _
  · cases h

lemma leads?_suffix (h : leads? style lines s = some s') : s'.2 <:+ s.2 := by
  rw [leads?] at h
  split at h
  · cases h
  · obtain ⟨line, -, hturn⟩ := Option.bind_eq_some_iff.1 h
    exact turn?_suffix hturn

lemma leadsIn_suffix (h : leadsIn style lines n s = some s') : s'.2 <:+ s.2 := by
  induction n generalizing s with
  | zero =>
    cases h
    exact List.suffix_refl _
  | succ n ih =>
    rw [leadsIn] at h
    obtain ⟨u, hu, hrest⟩ := Option.bind_eq_some_iff.1 h
    exact (ih hrest).trans (leads?_suffix hu)

lemma position_of_leads (h : leads? style lines s = some s') :
    -(lines.length : Int) ≤ style.position s.1 ∧ style.position s.1 < lines.length := by
  rw [leads?] at h
  split at h
  · cases h
  · rename_i hlt
    obtain ⟨line, hl, -⟩ := Option.bind_eq_some_iff.1 h
    refine ⟨?_, Int.lt_of_not_ge hlt⟩
    by_contra hneg
    have hnone : signedIndex? lines.length (style.position s.1) = none := by
      rw [signedIndex?, if_neg (by omega), if_neg (by omega)]
    rw [ entry?, hnone] at hl
    cases hl

lemma position_injective {line line' : Int} (h : style.position line = style.position line') :
    line = line' := by
  cases style with
  | stepped => simpa [DialogueStyle.position] using h
  | typed => exact h

/-- How many rounds a walk takes at most before it rests or goes in a circle. -/
def roundsIn (lines : List Json) (draws : List Int) : Nat :=
  (draws.length + 1) * (2 * lines.length + 2) + 1

lemma circles_of_leadsIn (h : (leadsIn style lines (roundsIn lines s.2) s).isSome) :
    Circles style lines s := by
  let bound := roundsIn lines s.2
  -- where the walk is after each round, as long as it goes on
  have hstate (k : Nat) (hk : k ≤ bound) : ∃ u, leadsIn style lines k s = some u :=
    Option.isSome_iff_exists.1 (leadsIn_isSome_of_le hk h)
  choose state hleadsIn using hstate
  have hmaps : ∀ k : Fin bound, (style.position (state k k.isLt.le).1, (state k k.isLt.le).2.length) ∈
      Finset.Ico (-(lines.length : Int)) lines.length ×ˢ Finset.range (s.2.length + 1) := by
    intro k
    have hnext := hleadsIn (k + 1) k.isLt
    rw [leadsIn_add, hleadsIn k k.isLt.le, Option.bind_some, leadsIn] at hnext
    obtain ⟨u, hu, -⟩ := Option.bind_eq_some_iff.1 hnext
    rw [Finset.mem_product, Finset.mem_Ico, Finset.mem_range]
    exact ⟨position_of_leads hu, Nat.lt_succ_of_le (leadsIn_suffix (hleadsIn k k.isLt.le)).length_le⟩
  have hcard : (Finset.Ico (-(lines.length : Int)) lines.length ×ˢ
      Finset.range (s.2.length + 1)).card < Fintype.card (Fin bound) := by
    rw [Finset.card_product, Int.card_Ico, Finset.card_range, Fintype.card_fin]
    have htoNat : ((lines.length : Int) - -(lines.length : Int)).toNat = 2 * lines.length := by omega
    rw [htoNat]
    change _ < (s.2.length + 1) * (2 * lines.length + 2) + 1
    have : 2 * lines.length * (s.2.length + 1) ≤ (s.2.length + 1) * (2 * lines.length + 2) := by
      rw [Nat.mul_comm]
      exact Nat.mul_le_mul_left _ (Nat.le_add_right _ _)
    omega
  obtain ⟨i, -, j, -, hne, heq⟩ := Finset.exists_ne_map_eq_of_card_lt_of_maps_to
    (s := Finset.univ) hcard (fun k _ => hmaps k)
  -- without loss of generality the first of the two rounds comes first
  wlog hlt : i < j generalizing i j
  · exact this j i hne.symm heq.symm (lt_of_le_of_ne (not_lt.1 hlt) hne.symm)
  obtain ⟨hpos, hlen⟩ := Prod.mk.inj heq
  have hi := hleadsIn i i.isLt.le
  have hj := hleadsIn j j.isLt.le
  obtain ⟨m, hm⟩ : ∃ m, (j : Nat) = i + (m + 1) := ⟨j - i - 1, by omega⟩
  have hsame : state i i.isLt.le = state j j.isLt.le := by
    refine Prod.ext (position_injective hpos) ?_
    exact List.IsSuffix.eq_of_length (List.suffix_of_suffix_length_le (leadsIn_suffix hi)
      (leadsIn_suffix hj) hlen.le) hlen
  refine ⟨i, m, state i i.isLt.le, hi, ?_⟩
  have hround := (congrArg (leadsIn style lines · s) hm).symm.trans hj
  rw [leadsIn_add, hi, Option.bind_some] at hround
  exact hround.trans (congrArg some hsame.symm)

/-- Where the walk rests within so many rounds: where it does not lead on. -/
def restIn (style : DialogueStyle) (lines : List Json) : Nat → Int × List Int → Option (Int × List Int)
  | 0, _ => none
  | n + 1, s =>
    match leads? style lines s with
    | none => some s
    | some s' => restIn style lines n s'

def rest? (style : DialogueStyle) (lines : List Json) (s : Int × List Int) : Option (Int × List Int) :=
  restIn style lines (roundsIn lines s.2) s

lemma restIn_eq_some (h : restIn style lines n s = some s') :
    ∃ k < n, leadsIn style lines k s = some s' ∧ leads? style lines s' = none := by
  induction n generalizing s with
  | zero => cases h
  | succ n ih =>
    rw [restIn] at h
    split at h
    · rename_i hrests
      cases h
      exact ⟨0, Nat.succ_pos n, rfl, hrests⟩
    · rename_i hleads
      obtain ⟨k, hk, hleadsIn, hrests⟩ := ih h
      exact ⟨k + 1, Nat.succ_lt_succ hk, by rwa [leadsIn_succ_of_leads hleads], hrests⟩

lemma leadsIn_isSome_of_restIn (h : restIn style lines n s = none) :
    (leadsIn style lines n s).isSome := by
  induction n generalizing s with
  | zero => rfl
  | succ n ih =>
    rw [restIn] at h
    split at h
    · cases h
    · rename_i hleads
      rw [leadsIn_succ_of_leads hleads]
      exact ih h

lemma rest?_eq_none_iff : rest? style lines s = none ↔ Circles style lines s := by
  constructor
  · intro h
    exact circles_of_leadsIn (leadsIn_isSome_of_restIn h)
  · intro h
    cases hrest : rest? style lines s with
    | none => rfl
    | some s' =>
      obtain ⟨k, -, hleadsIn, hrests⟩ := restIn_eq_some hrest
      have hnext := h.leadsIn_isSome (k + 1)
      rw [leadsIn_add, hleadsIn, Option.bind_some, leadsIn, hrests] at hnext
      cases hnext

lemma leads?_rest (h : rest? style lines s = some s') : leads? style lines s' = none := by
  obtain ⟨k, -, -, hrests⟩ := restIn_eq_some h
  exact hrests

lemma rest?_of_rests (h : leads? style lines s = none) : rest? style lines s = some s := by
  rw [rest?, roundsIn, restIn, h]

end Dialogue

/-! ## The walk of a dialogue in the world -/

namespace World

def lines? (w : World) : Script → Option (List Json)
  | .own (.arr lines) => some lines
  | .own _ => none
  | .cast name => (lookup w.castLines name).toOption

/-- The world with a dialogue at another line and other random numbers to come. -/
def walked (w : World) (id : PartId) (s : Int × List Int) : World :=
  { w.withTalk id ({ · with line := s.1 }) with random := s.2 }

lemma talk?_walked (hd : w.talk? id = some d) (s : Int × List Int) :
    (w.walked id s).talk? id = some { d with line := s.1 } :=
  talk?_withTalk_self hd _

lemma modify_modify (xs : Array α) (i : Nat) (f g : α → α) :
    (xs.modify i f).modify i g = xs.modify i fun a => g (f a) := by
  refine Array.ext_getElem? fun j => ?_
  simp only [Array.getElem?_modify]
  split
  · rw [Option.map_map]
    rfl
  · rfl

lemma withTalk_withTalk (w : World) (id : PartId) (f g : Dialogue → Dialogue) :
    (w.withTalk id f).withTalk id g = w.withTalk id fun d => g (f d) := by
  simp only [withTalk, altered, modify_modify]
  congr
  funext o
  cases o.part <;> rfl

lemma walked_walked (w : World) (id : PartId) (s s' : Int × List Int) :
    (w.walked id s).walked id s' = w.walked id s' := by
  have h := withTalk_withTalk w id ({ · with line := s.1 }) ({ · with line := s'.1 })
  exact congrArg (fun u : World => { u with random := s'.2 }) h

lemma withTalk_congr (hd : w.talk? id = some d) {f g : Dialogue → Dialogue} (h : f d = g d) :
    w.withTalk id f = w.withTalk id g := by
  obtain ⟨o, ho, hp⟩ := talk?_eq_some.1 hd
  have hps : (w.withTalk id f).parts = (w.withTalk id g).parts := by
    refine Array.ext_getElem? fun j => ?_
    by_cases hj : j = id.index
    · subst hj
      rw [withTalk, withTalk, getElem?_altered_self ho, getElem?_altered_self ho, hp]
      dsimp only
      rw [h]
    · have hne : (⟨j⟩ : PartId) ≠ id := fun heq => hj (congrArg PartId.index heq)
      exact (getElem?_altered_of_ne hne _).trans (getElem?_altered_of_ne hne _).symm
  exact congrArg (fun parts => { w with parts }) hps

lemma withTalk_of_eq (hd : w.talk? id = some d) {f : Dialogue → Dialogue} (hf : f d = d) :
    w.withTalk id f = w := by
  obtain ⟨o, ho, hp⟩ := talk?_eq_some.1 hd
  have hps : (w.withTalk id f).parts = w.parts := by
    refine Array.ext_getElem? fun j => ?_
    by_cases hj : j = id.index
    · subst hj
      rw [withTalk, getElem?_altered_self ho, ho, hp]
      dsimp only
      rw [hf, ← hp]
    · exact getElem?_altered_of_ne (p := ⟨j⟩) (fun heq => hj (congrArg PartId.index heq)) _
  exact congrArg (fun parts => { w with parts }) hps

lemma walked_self (hd : w.talk? id = some d) : w.walked id (d.line, w.random) = w :=
  congrArg (fun u : World => { u with random := w.random })
    (withTalk_of_eq hd (f := ({ · with line := d.line })) rfl)

end World

namespace Game

open World Dialogue

variable {lines : List Json} {targets draws : List Int} {line : Json} {position : Int}

/-- What is done at a line of the script, `next` being how it goes on. -/
def actAt (next : Game Unit) (id : PartId) (line : Json) : Game Unit := do
  if (← line.length) = 0 then next
  else
    match ← Line.mark? line with
    | some '-' => playerSpeaks id line
    | some '!' => runCommand next id line
    | some '$' => narrate id line
    | _ => npcSpeaks id line

/-- The line at which a dialogue is, or its end, is looked at. -/
def lookAt (next : Game Unit) (id : PartId) : Game Unit := do
  let position := (← dialogue id).line
  let lines ← dialogueLines id
  let count ← lines.length
  if count ≤ position then closeDialogue id else actAt next id (← lines.item position)

lemma nextLineIn_succ (rounds : Nat) (id : PartId) :
    nextLineIn (rounds + 1) id = (do
      let before ← dialogue id
      if before.style = .stepped then modifyDialogue id ({ · with line := before.line + 1 })
      lookAt (nextLineIn rounds id) id) := rfl

lemma run_dialogueLines (hd : w.talk? id = some d) (hlines : w.lines? d.script = some lines) :
    (dialogueLines id).runOn w = (.ok (.arr lines), w) := by
  rw [dialogueLines, bind_ok (run_dialogue hd)]
  cases hscr : d.script with
  | own script =>
    rw [hscr] at hlines
    cases script with
    | arr => cases hlines; rfl
    | _ => cases hlines
  | cast name =>
    rw [hscr] at hlines
    cases hlook : lookup w.castLines name with
    | error fault => rw [lines?, hlook] at hlines; cases hlines
    | ok found =>
      rw [lines?, hlook] at hlines
      cases hlines
      rw [scriptLines, run_get_bind, run_lift_bind hlook]
      rfl

lemma run_lookAt (hd : w.talk? id = some d) (hlines : w.lines? d.script = some lines)
    (next : Game Unit) :
    (lookAt next id).runOn w =
      (if lines.length ≤ d.line then closeDialogue id
      else liftM (entry lines d.line) >>= actAt next id).runOn w := by
  have hlen : (Json.arr lines).length = .ok lines.length := rfl
  rw [lookAt, bind_ok (run_dialogue hd)]
  dsimp only
  rw [bind_ok (run_dialogueLines hd hlines), run_lift_bind hlen]
  rfl

lemma run_nextLineIn_succ (hd : w.talk? id = some d) (rounds : Nat) :
    (nextLineIn (rounds + 1) id).runOn w =
      (lookAt (nextLineIn rounds id) id).runOn (w.walked id (d.style.position d.line, w.random)) := by
  rw [nextLineIn_succ, bind_ok (run_dialogue hd)]
  cases hs : d.style with
  | stepped =>
    rw [if_pos rfl, bind_ok (run_modifyDialogue _ _ _)]
    rfl
  | typed =>
    change (lookAt _ id).runOn w = (lookAt _ id).runOn (w.walked id (d.line, w.random))
    rw [walked_self hd]

/-! ### Rounds that lead on -/

lemma entry_eq_ok {xs : List α} {i : Int} {a : α} (h : entry? xs i = some a) :
    entry xs i = .ok a := by
  rw [entry, h]

lemma run_randomEntry {target : Int} (h : drawn? targets w.random = some target) :
    (randomEntry targets).runOn w = (.ok target, { w with random := w.random.tail }) := by
  have hne : targets.isEmpty = false := by
    cases targets with
    | nil => simp [drawn?, entry?, signedIndex?] at h
    | cons => rfl
  have hnext : nextRandom.runOn w = (.ok (w.random.headD 0), { w with random := w.random.tail }) := by
    rw [nextRandom, run_get_bind]
    cases hrand : w.random with
    | nil =>
      exact congrArg (fun draws => ((.ok 0 : Except Fault Int), { w with random := draws })) hrand
    | cons n rest => rfl
  rw [randomEntry, hne]
  change (nextRandom >>= fun n => liftM (entry targets (n % targets.length))).runOn w = _
  rw [bind_ok hnext, run_lift, entry_eq_ok h]

lemma length_str_ne_zero {s : String} (h : s ≠ "") : ∃ n, (Json.str s).length = .ok (n + 1) := by
  have hne : s.toList ≠ [] := fun heq => h (String.toList_inj.1 heq)
  obtain ⟨c, cs, hcs⟩ := List.exists_cons_of_ne_nil hne
  refine ⟨cs.length, ?_⟩
  change Except.ok (Json.characters s).length = _
  rw [Json.characters, List.length_map, hcs, List.length_cons]

lemma run_actAt_of_turn (h : Line.turn? line d.line w.random = some s)
    (hd : w.talk? id = some d) (next : Game Unit) :
    (actAt next id line).runOn w = next.runOn (w.walked id s) := by
  have hpass (hs : (d.line, w.random) = s) (hlen : line.length = .ok 0) :
      (actAt next id line).runOn w = next.runOn (w.walked id s) := by
    rw [actAt, run_lift_bind hlen, if_pos rfl, ← hs, walked_self hd]
  unfold Line.turn? at h
  split at h
  · rename_i text
    split at h
    · rename_i hemp
      exact hpass (Option.some.inj h) (by rw [hemp]; rfl)
    · rename_i hemp
      obtain ⟨n, hlen⟩ := length_str_ne_zero hemp
      split at h
      · rename_i hm
        have hmark? : Line.mark? (.str text) = .ok (some '!') := congrArg Except.ok hm
        rw [actAt, run_lift_bind hlen, if_neg (Nat.succ_ne_zero n), run_lift_bind hmark?]
        change (runCommand next id (.str text)).runOn w = _
        rw [runCommand]
        split at h
        · rename_i target hcmd
          cases h
          rw [run_lift_bind hcmd]
          dsimp only
          rw [jumpTo, bind_ok (run_modifyDialogue _ _ _)]
          rfl
        · rename_i targets hcmd
          obtain ⟨target, hdrawn, rfl⟩ := Option.map_eq_some_iff.1 h
          rw [run_lift_bind hcmd]
          dsimp only
          rw [bind_ok (run_randomEntry hdrawn), jumpTo, bind_ok (run_modifyDialogue _ _ _)]
          rfl
        · cases h
      · cases h
  · exact hpass (Option.some.inj h) rfl
  · exact hpass (Option.some.inj h) rfl
  · cases h

lemma run_nextLineIn_of_leads (hd : w.talk? id = some d) (hlines : w.lines? d.script = some lines)
    (h : leads? d.style lines (d.line, w.random) = some s) (rounds : Nat) :
    (nextLineIn (rounds + 1) id).runOn w = (nextLineIn rounds id).runOn (w.walked id s) := by
  rw [leads?] at h
  split at h
  · cases h
  · rename_i hlt
    obtain ⟨line, hl, hturn⟩ := Option.bind_eq_some_iff.1 h
    have hd' := talk?_walked hd (d.style.position d.line, w.random)
    rw [run_nextLineIn_succ hd, run_lookAt hd' hlines, if_neg hlt,
      run_lift_bind (entry_eq_ok hl), run_actAt_of_turn hturn hd', walked_walked]

lemma run_nextLineIn_of_leadsIn (hd : w.talk? id = some d)
    (hlines : w.lines? d.script = some lines) {n : Nat}
    (h : leadsIn d.style lines n (d.line, w.random) = some s) (rounds : Nat) :
    (nextLineIn (rounds + n) id).runOn w = (nextLineIn rounds id).runOn (w.walked id s) := by
  induction n generalizing w d with
  | zero =>
    cases h
    rw [walked_self hd, Nat.add_zero]
  | succ n ih =>
    rw [leadsIn] at h
    obtain ⟨s', hleads, hrest⟩ := Option.bind_eq_some_iff.1 h
    have hstep := run_nextLineIn_of_leads hd hlines hleads (rounds + n)
    have hnext := ih (w := w.walked id s') (talk?_walked hd s') hlines hrest
    rw [walked_walked] at hnext
    exact hstep.trans hnext

/-! ### Rounds that do not lead on -/

lemma eq_nil_of_drawn? (h : drawn? targets draws = none) : targets = [] := by
  by_contra hne
  have hpos : 0 < targets.length := List.length_pos_iff.2 hne
  have hlo : 0 ≤ draws.headD 0 % (targets.length : Int) := Int.emod_nonneg _ (by omega)
  have hhi : draws.headD 0 % (targets.length : Int) < targets.length :=
    Int.emod_lt_of_pos _ (by omega)
  rw [drawn?, entry?, signedIndex?, if_pos hlo, if_pos hhi, Option.bind_some,
    List.getElem?_eq_none_iff] at h
  omega

lemma run_runCommand_of_rests
    (h : Line.turn? line position draws = none) (hm : Line.mark? line = .ok (some '!'))
    (next next' : Game Unit) :
    (runCommand next id line).runOn w = (runCommand next' id line).runOn w := by
  cases line with
  | str s =>
    have hhead : s.toList.head? = some '!' := Except.ok.inj hm
    have hne : s ≠ "" := fun heq => by
      rw [heq] at hhead
      cases hhead
    rw [Line.turn?, if_neg hne, if_pos hhead] at h
    rw [runCommand, runCommand]
    cases hcmd : Command.ofLine s with
    | error fault => rfl
    | ok command =>
      rw [hcmd] at h
      rw [run_lift_bind rfl, run_lift_bind rfl]
      cases command with
      | goto target => cases h
      | random targets =>
        have hstop : (randomEntry ([] : List Int)).runOn w = (.error .outOfRange, w) := rfl
        rw [eq_nil_of_drawn? (Option.map_eq_none_iff.1 h)]
        dsimp only
        rw [run_bind, run_bind, hstop]
      | _ => rfl
  | _ => rfl

lemma run_actAt_of_rests (h : Line.turn? line position draws = none) (next next' : Game Unit) :
    (actAt next id line).runOn w = (actAt next' id line).runOn w := by
  rw [actAt, actAt]
  cases hlen : line.length with
  | error fault => rfl
  | ok n =>
    rw [run_lift_bind rfl, run_lift_bind rfl]
    cases n with
    | zero =>
      -- an empty line leads on
      exfalso
      cases line with
      | str s =>
        by_cases hemp : s = ""
        · rw [Line.turn?, if_pos hemp] at h
          cases h
        · obtain ⟨n, hn⟩ := length_str_ne_zero hemp
          cases hlen.symm.trans hn
      | arr items =>
        cases items with
        | nil => cases h
        | cons => cases hlen
      | obj members =>
        cases members with
        | nil => cases h
        | cons => cases hlen
      | _ => cases hlen
    | succ n =>
      rw [if_neg (Nat.succ_ne_zero n), if_neg (Nat.succ_ne_zero n)]
      cases hm : Line.mark? line with
      | error fault => rfl
      | ok mark =>
        rw [run_lift_bind rfl, run_lift_bind rfl]
        split
        · rfl
        · exact run_runCommand_of_rests h hm next next'
        · rfl
        · rfl

section

variable (hd : w.talk? id = some d) (hlines : w.lines? d.script = some lines)
include hd hlines

lemma run_nextLineIn_of_rests
    (h : leads? d.style lines (d.line, w.random) = none) (rounds : Nat) :
    (nextLineIn (rounds + 1) id).runOn w = (nextLineIn 1 id).runOn w := by
  have hd' := talk?_walked hd (d.style.position d.line, w.random)
  rw [run_nextLineIn_succ hd, run_nextLineIn_succ hd, run_lookAt hd' hlines, run_lookAt hd' hlines]
  rw [leads?] at h
  split at h
  · rename_i hle
    rw [if_pos hle, if_pos hle]
  · rename_i hlt
    rw [if_neg hlt, if_neg hlt]
    cases hl : entry? lines (d.style.position d.line) with
    | none =>
      have herror : entry lines (d.style.position d.line) = .error .outOfRange := by
        rw [entry, hl]
      rw [herror, run_bind, run_bind, run_lift]
    | some line =>
      rw [hl, Option.bind_some] at h
      rw [run_lift_bind (entry_eq_ok hl), run_lift_bind (entry_eq_ok hl)]
      exact run_actAt_of_rests h _ _

/-! ### The next line -/

lemma run_roundsFor : (roundsFor id).runOn w = (.ok (roundsIn lines w.random), w) := by
  rw [roundsFor, bind_ok (run_dialogueLines hd hlines)]
  rfl

lemma run_nextLineIn_of_circles (h : Circles d.style lines (d.line, w.random))
    (rounds : Nat) : ∃ s, (nextLineIn rounds id).runOn w = (.error .endless, w.walked id s) := by
  obtain ⟨s, hs⟩ := Option.isSome_iff_exists.1 (h.leadsIn_isSome rounds)
  have hrun := run_nextLineIn_of_leadsIn hd hlines hs 0
  rw [Nat.zero_add] at hrun
  exact ⟨_, hrun⟩

lemma run_nextLine_of_rest (h : rest? d.style lines (d.line, w.random) = some s) :
    (nextLine id).runOn w = (nextLineIn 1 id).runOn (w.walked id s) := by
  obtain ⟨k, hk, hleadsIn, hrests⟩ := restIn_eq_some h
  obtain ⟨n, hn⟩ : ∃ n, roundsIn lines w.random = n + 1 + k :=
    ⟨roundsIn lines w.random - 1 - k, by dsimp only at hk; omega⟩
  rw [nextLine, bind_ok (run_roundsFor hd hlines), hn, run_nextLineIn_of_leadsIn hd hlines hleadsIn]
  exact run_nextLineIn_of_rests (talk?_walked hd s) hlines hrests n

lemma run_nextLine_of_circles (h : rest? d.style lines (d.line, w.random) = none) :
    ∃ s, (nextLine id).runOn w = (.error .endless, w.walked id s) := by
  rw [nextLine, bind_ok (run_roundsFor hd hlines)]
  exact run_nextLineIn_of_circles hd hlines (rest?_eq_none_iff.1 h) _

end

end Game

end TileQuest
