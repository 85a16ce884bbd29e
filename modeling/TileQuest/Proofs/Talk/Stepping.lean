import TileQuest.Proofs.Talk.Box
import TileQuest.Proofs.Talk.Opening

/-!
# Stepping through a script

In the stepped style the player goes from line to line. If every command of a script is well formed
and jumps forward only (`Script.Forward`), then a dialogue always comes to its next line, each press
of a key leads it further into the script, and so it is closed after as many presses as there are
lines at most. A script without commands is heard line by line, apart from its empty lines.
-/

namespace TileQuest

variable {lines : List String} {n i : Nat}

def Command.targets : Command → List Int
  | .goto line => [line]
  | .random lines => lines
  | _ => []

/-- Every command of a script is well formed, and jumps to lines after its own, the first line being
number one. -/
def Script.Forward (lines : List String) : Prop :=
  ∀ (i : Nat) s, lines[i]? = some s → s.toList.head? = some '!' →
    ∃ c, Command.ofLine s = .ok c ∧ c ≠ .random [] ∧ ∀ target ∈ c.targets, (i : Int) + 1 < target

def Script.heard (lines : List String) : List String := lines.filter (· ≠ "")

/-! ## The walk forward -/

namespace Dialogue

variable {s s' : Int × List Int} {draws : List Int}

lemma entry?_natCast {α : Type} (xs : List α) (i : Nat) : entry? xs (i : Int) = xs[i]? := by
  rw [ entry?, signedIndex?, if_pos (Int.natCast_nonneg i)]
  by_cases hi : (i : Int) < xs.length
  · rw [if_pos hi, Option.bind_some, Int.toNat_natCast]
  · rw [if_neg hi, Option.bind_none]
    exact (List.getElem?_eq_none_iff.2 (by omega)).symm

lemma drawn?_mem {targets : List Int} {target : Int} (h : drawn? targets draws = some target) :
    target ∈ targets := by
  rw [drawn?, entry?] at h
  obtain ⟨k, -, hk⟩ := Option.bind_eq_some_iff.1 h
  exact List.mem_of_getElem? hk

section

variable (hforward : Script.Forward lines)
include hforward

lemma le_of_turn? {line : String}
    (hl : lines[i]? = some line) (h : Line.turn? (.str line) i draws = some s) : (i : Int) ≤ s.1 := by
  rw [Line.turn?] at h
  split at h
  · cases h
    exact le_rfl
  · split at h
    · rename_i hm
      obtain ⟨c, hc, -, htargets⟩ := hforward i line hl hm
      rw [hc] at h
      cases c with
      | goto target =>
        cases h
        have := htargets target (.head _)
        dsimp only
        omega
      | random targets =>
        obtain ⟨target, hdrawn, rfl⟩ := Option.map_eq_some_iff.1 h
        have := htargets target (drawn?_mem hdrawn)
        dsimp only
        omega
      | _ => cases h
    · cases h

lemma lt_of_leads (hs : -1 ≤ s.1)
    (h : leads? .stepped (lines.map .str) s = some s') : s.1 < s'.1 := by
  rw [leads?] at h
  split at h
  · cases h
  · obtain ⟨line, hl, hturn⟩ := Option.bind_eq_some_iff.1 h
    obtain ⟨i, hi⟩ : ∃ i : Nat, s.1 + 1 = i := ⟨(s.1 + 1).toNat, by omega⟩
    have hpos : DialogueStyle.stepped.position s.1 = i := hi
    rw [hpos, entry?_natCast, List.getElem?_map] at hl
    obtain ⟨text, ht, rfl⟩ := Option.map_eq_some_iff.1 hl
    rw [hpos] at hturn
    have := le_of_turn? hforward ht hturn
    omega

lemma add_le_of_leadsIn (hs : -1 ≤ s.1)
    (h : leadsIn .stepped (lines.map .str) n s = some s') : s.1 + n ≤ s'.1 := by
  induction n generalizing s with
  | zero =>
    cases h
    simp
  | succ n ih =>
    rw [leadsIn] at h
    obtain ⟨u, hu, hrest⟩ := Option.bind_eq_some_iff.1 h
    have hlt := lt_of_leads hforward hs hu
    have hle := ih (by omega) hrest
    push_cast
    omega

lemma not_circles_of_forward (hs : -1 ≤ s.1) : ¬ Circles .stepped (lines.map .str) s := by
  rintro ⟨n, m, s', hn, hm⟩
  have hle := add_le_of_leadsIn hforward hs hn
  have hcircle := add_le_of_leadsIn hforward (by omega) hm
  push_cast at hcircle
  omega

end

lemma heard_take_of_leadsIn (hquiet : ∀ s ∈ lines, s.toList.head? ≠ some '!') {a k : Nat}
    (h : leadsIn .stepped (lines.map .str) k ((a : Int) - 1, draws) = some s) :
    s = (((a + k : Nat) : Int) - 1, draws) ∧
      Script.heard (lines.take (a + k)) = Script.heard (lines.take a) := by
  induction k generalizing a with
  | zero =>
    cases h
    exact ⟨rfl, rfl⟩
  | succ k ih =>
    rw [leadsIn] at h
    obtain ⟨u, hu, hrest⟩ := Option.bind_eq_some_iff.1 h
    have hpos : DialogueStyle.stepped.position ((a : Int) - 1) = a := by
      change (a : Int) - 1 + 1 = a
      omega
    rw [leads?] at hu
    dsimp only at hu
    rw [hpos] at hu
    split at hu
    · cases hu
    · obtain ⟨line, hl, hturn⟩ := Option.bind_eq_some_iff.1 hu
      rw [entry?_natCast, List.getElem?_map] at hl
      obtain ⟨text, ht, rfl⟩ := Option.map_eq_some_iff.1 hl
      rw [Line.turn?] at hturn
      split at hturn
      · rename_i hemp
        cases hturn
        have hrest' : leadsIn .stepped (lines.map .str) k (((a + 1 : Nat) : Int) - 1, draws) = some s := by
          rw [show (((a + 1 : Nat) : Int) - 1) = a by omega]
          exact hrest
        obtain ⟨heq, hheard⟩ := ih hrest'
        rw [show a + (k + 1) = a + 1 + k by omega]
        refine ⟨heq, hheard.trans ?_⟩
        rw [List.take_add_one, ht, hemp]
        simp [Script.heard]
      · rw [if_neg (hquiet text (List.mem_of_getElem? ht))] at hturn
        cases hturn

end Dialogue

/-! ## Presses -/

namespace World

def line? (w : World) (id : PartId) : Option Int := (w.talk? id).map Dialogue.line

/-- What the box of a dialogue shows as said. -/
def content? (w : World) (id : PartId) : Option Json := (w.talk? id).bind fun d => w.words? d.content

end World

namespace Game

open World Dialogue

variable {w u : World} {id : PartId} {d : Dialogue} {bag : Bag} {input : Input}

def GoesOn (input : Input) : Prop := goesOn input = true ∧ leavingKeys.any input.isFresh = false

/-- A dialogue in the stepped style is at a line of its script, or has not begun, or has closed. -/
structure Stepping (w : World) (id : PartId) (d : Dialogue) (bag : Bag) (lines : List String) :
    Prop where
  talk : w.InTalk id d bag
  style : d.style = .stepped
  script : w.lines? d.script = some (lines.map .str)
  started : -1 ≤ d.line
  inside : id ∈ w.active → d.line < lines.length

lemma Stepping.exists_further (h : Stepping w id d bag lines) (hforward : Script.Forward lines)
    (hmem : id ∈ w.active) :
    ∃ u d' bag', (nextLine id).runOn w = (.ok (), u) ∧ Stepping u id d' bag' lines ∧
      d.line < d'.line ∧ d'.content = d.content ∧
      ∃ k s, leadsIn .stepped (lines.map .str) k (d.line, w.random) = some s ∧ d'.line = s.1 + 1 ∧
        ∀ text, lines[d'.line.toNat]? = some text → text ≠ "" ∧ (text.toList.head? ≠ some '!' →
          id ∈ u.active ∧ u.words? d.content = some (.str (Line.spoken text))) := by
  have hcircles := not_circles_of_forward (s := (d.line, w.random)) hforward h.started
  rw [← rest?_eq_none_iff] at hcircles
  obtain ⟨s, hs⟩ := Option.ne_none_iff_exists'.1 hcircles
  obtain ⟨k, -, hleadsIn, -⟩ := restIn_eq_some hs
  obtain ⟨r, u, hrun, -, hshow⟩ := exists_nextLine h.talk h.script (h.style ▸ hs)
  have hle := add_le_of_leadsIn hforward h.started hleadsIn
  have hstarted := h.started
  obtain ⟨i, hi⟩ : ∃ i : Nat, s.1 + 1 = i := ⟨(s.1 + 1).toNat, by dsimp only at hle; omega⟩
  have hpos : d.style.position s.1 = i := by rw [h.style]; exact hi
  have hlt : d.line < i := by dsimp only at hle; omega
  rw [hpos] at hshow
  have hls : u.lines? d.script = some (lines.map .str) := by
    rw [← h.script]
    exact eq_of_offstage hshow.same (lines? · d.script) fun x => by cases d.script <;> rfl
  obtain ⟨hstate, hinside⟩ : d.shownAt (lines.map .str) i = { d with line := (i : Int) } ∧
      (id ∈ u.active → (i : Int) < lines.length) := by
    refine ⟨?_, fun hmem' => ?_⟩
    · rw [shownAt]
      cases lineAt? (lines.map .str) i with
      | none => rfl
      | some text => exact Line.leaves_of_stepped text h.style
    · exact Int.lt_of_not_ge fun hend => (hshow.ended (by rwa [List.length_map])).2 hmem'
  have htalk := hshow.talk
  rw [hstate] at htalk
  have hat {text : String} (ht : lines[i]? = some text) :
      lineAt? (lines.map .str) i = some text := by
    have hbound := (List.getElem?_eq_some_iff.1 ht).1
    rw [lineAt?, List.length_map, if_neg (by omega), entry?_natCast, List.getElem?_map, ht]
    rfl
  have hok : r = .ok () := by
    cases ht : lines[i]? with
    | none =>
      have hend := List.getElem?_eq_none_iff.1 ht
      exact (hshow.ended (by rw [List.length_map]; omega)).1 hmem
    | some text =>
      by_cases hm : text.toList.head? = some '!'
      · obtain ⟨c, hc, hnot, -⟩ := hforward i text ht hm
        exact (hshow.done text (hat ht)).2 c hc hnot hmem
      · exact (hshow.heard text (hat ht) hm).1
  rw [hrun, hok]
  refine ⟨u, _, _, rfl, ⟨htalk, h.style, hls, hstarted.trans hlt.le, hinside⟩, hlt, rfl, k, s, hleadsIn,
    hi.symm, fun text ht => ?_⟩
  rw [Int.toNat_natCast] at ht
  refine ⟨(hshow.done text (hat ht)).1, fun hm => ?_⟩
  obtain ⟨-, hact, hwds⟩ := hshow.heard text (hat ht) hm
  exact ⟨by rw [hact]; exact hmem, hwds⟩

/-! ### Presses in a row -/

/-- What is heard after so many presses of a script without commands: the lines that are not empty,
in order, and then nothing more. -/
structure Reading (u : World) (id : PartId) (d : Dialogue) (lines : List String) (n : Nat) : Prop where
  active : id ∈ u.active ↔ n < (Script.heard lines).length
  words : ∀ text, (Script.heard lines)[n]? = some text →
    u.words? d.content = some (.str (Line.spoken text))
  count : id ∈ u.active → (Script.heard (lines.take (d.line + 1).toNat)).length = n + 1

structure Pressed (u : World) (id : PartId) (d : Dialogue) (bag : Bag) (lines : List String) (n : Nat) :
    Prop where
  stepping : Stepping u id d bag lines
  far : id ∈ u.active → (n : Int) ≤ d.line
  reading : (∀ s ∈ lines, s.toList.head? ≠ some '!') → Reading u id d lines n

lemma heard_getElem? {text : String} (ht : lines[i]? = some text) (hne : text ≠ "") :
    (Script.heard lines)[(Script.heard (lines.take i)).length]? = some text := by
  obtain ⟨hi, rfl⟩ := List.getElem?_eq_some_iff.1 ht
  have hspl : lines = lines.take i ++ lines[i] :: lines.drop (i + 1) := by simp
  have hheard : Script.heard lines =
      Script.heard (lines.take i) ++ lines[i] :: Script.heard (lines.drop (i + 1)) := by
    have hone : Script.heard (lines[i] :: lines.drop (i + 1)) =
        lines[i] :: Script.heard (lines.drop (i + 1)) := List.filter_cons_of_pos (by simpa using hne)
    rw [← hone, Script.heard, Script.heard, Script.heard, ← List.filter_append, ← hspl]
  rw [hheard]
  simp

lemma Stepping.exists_pressed (h : Stepping w id d bag lines) (hforward : Script.Forward lines)
    (hmem : id ∈ w.active) (hfar : (n : Int) ≤ d.line + 1)
    (hcnt : (∀ s ∈ lines, s.toList.head? ≠ some '!') →
      (Script.heard (lines.take (d.line + 1).toNat)).length = n) :
    ∃ u d' bag', (nextLine id).runOn w = (.ok (), u) ∧ Pressed u id d' bag' lines n ∧
      d.line < d'.line := by
  obtain ⟨u, d', bag', hrun, hstep, hlt, hcont, k, s, hleadsIn, hl, hshn⟩ :=
    h.exists_further hforward hmem
  refine ⟨u, d', bag', hrun, ⟨hstep, fun _ => by omega, fun hquiet => ?_⟩, hlt⟩
  have hstarted := h.started
  obtain ⟨a, ha⟩ : ∃ a : Nat, d.line + 1 = a := ⟨(d.line + 1).toNat, by omega⟩
  have hcnt := hcnt hquiet
  rw [ha, Int.toNat_natCast] at hcnt
  rw [show d.line = (a : Int) - 1 by omega] at hleadsIn
  obtain ⟨rfl, hheard⟩ := heard_take_of_leadsIn hquiet hleadsIn
  have hi : d'.line = ((a + k : Nat) : Int) := by rw [hl]; dsimp only; omega
  rw [hi, Int.toNat_natCast] at hshn
  cases ht : lines[a + k]? with
  | none =>
    have hend : lines.length ≤ a + k := List.getElem?_eq_none_iff.1 ht
    have hclose : id ∉ u.active := fun hmem' => by
      have := hstep.inside hmem'
      omega
    have hall : (Script.heard lines).length = n := by
      rw [← hcnt, ← hheard, List.take_of_length_le hend]
    refine ⟨⟨fun hmem' => absurd hmem' hclose, fun hn => by omega⟩, fun text hn => ?_,
      fun hmem' => absurd hmem' hclose⟩
    rw [List.getElem?_eq_none_iff.2 (by omega)] at hn
    cases hn
  | some text =>
    obtain ⟨hne, hheardAt⟩ := hshn text ht
    obtain ⟨hact, hwds⟩ := hheardAt (hquiet text (List.mem_of_getElem? ht))
    have hat := heard_getElem? ht hne
    rw [hheard, hcnt] at hat
    refine ⟨⟨fun _ => (List.getElem?_eq_some_iff.1 hat).1, fun _ => hact⟩, fun text' hn => ?_, fun _ => ?_⟩
    · cases hat.symm.trans hn
      rw [hcont, hwds]
    · rw [hi, show (((a + k : Nat) : Int) + 1).toNat = a + k + 1 by omega, List.take_add_one, ht]
      have hone : Script.heard (lines.take (a + k) ++ [text]) =
          Script.heard (lines.take (a + k)) ++ [text] := by simp [Script.heard, hne]
      rw [Option.toList_some, hone, hheard, List.length_append, hcnt, List.length_singleton]

lemma Stepping.withInput (h : Stepping w id d bag lines) (input : Input) :
    Stepping { w with input } id d bag lines :=
  ⟨h.talk.congr rfl rfl rfl rfl rfl, h.style, h.script, h.started, h.inside⟩

lemma Stepping.run_press (h : Stepping w id d bag lines) (hmem : id ∈ w.active)
    (hgoes : goesOn input = true) :
    (pressKeys id input).runOn w = (nextLine id >>= fun _ =>
      if leavingKeys.any input.isFresh then closeDialogue id else pure ()).runOn { w with input } := by
  have hd : ({ w with input } : World).talk? id = some d := h.talk.voiced.talk
  rw [pressKeys, run_modify_bind, run_get_bind, if_pos hmem, updateDialogue, run_get_bind,
    bind_ok (run_dialogue hd), h.style]
  dsimp only
  rw [if_pos hgoes]

lemma run_press_of_notMem (hnot : id ∉ w.active) (input : Input) :
    (pressKeys id input).runOn w = (.ok (), { w with input }) := by
  rw [pressKeys, run_modify_bind, run_get_bind, if_neg hnot]
  rfl

section

variable (h : Pressed w id d bag lines n)
include h

lemma Pressed.exists_press
    (hforward : Script.Forward lines) (hmem : id ∈ w.active) (hgoes : GoesOn input) :
    ∃ u d' bag', (pressKeys id input).runOn w = (.ok (), u) ∧ Pressed u id d' bag' lines (n + 1) ∧
      d.line < d'.line := by
  obtain ⟨u, d', bag', hrun, hpress, hlt⟩ := (h.stepping.withInput input).exists_pressed hforward hmem
    (n := n + 1) (by have := h.far hmem; omega) fun hquiet => (h.reading hquiet).count hmem
  refine ⟨u, d', bag', ?_, hpress, hlt⟩
  rw [h.stepping.run_press hmem hgoes.1, bind_ok hrun, hgoes.2]
  rfl

lemma Pressed.of_closed (hnot : id ∉ w.active)
    (input : Input) : Pressed { w with input } id d bag lines (n + 1) := by
  refine ⟨h.stepping.withInput input, fun hmem => absurd hmem hnot, fun hquiet => ?_⟩
  have hreading := h.reading hquiet
  have hle : (Script.heard lines).length ≤ n := Nat.le_of_not_lt fun hlt => hnot (hreading.active.2 hlt)
  refine ⟨⟨fun hmem => absurd hmem hnot, fun hlt => by omega⟩, fun text ht => ?_,
    fun hmem => absurd hmem hnot⟩
  rw [List.getElem?_eq_none_iff.2 (by omega)] at ht
  cases ht

lemma Pressed.exists_presses
    (hforward : Script.Forward lines) (inputs : List Input) (hgoes : ∀ input ∈ inputs, GoesOn input) :
    ∃ u d' bag', (inputs.forM (pressKeys id)).runOn w = (.ok ⟨⟩, u) ∧
      Pressed u id d' bag' lines (n + inputs.length) := by
  induction inputs generalizing w d bag n with
  | nil => exact ⟨w, d, bag, rfl, h⟩
  | cons input inputs ih =>
    have hrest := fun i hi => hgoes i (.tail _ hi)
    obtain ⟨v, d1, bag1, hrun, hpress⟩ : ∃ v d1 bag1, (pressKeys id input).runOn w = (.ok (), v) ∧
        Pressed v id d1 bag1 lines (n + 1) := by
      by_cases hmem : id ∈ w.active
      · obtain ⟨v, d1, bag1, hrun, hpress, -⟩ := h.exists_press hforward hmem (hgoes input (.head _))
        exact ⟨v, d1, bag1, hrun, hpress⟩
      · exact ⟨_, d, bag, run_press_of_notMem hmem input, h.of_closed hmem input⟩
    obtain ⟨u, d', bag', hruns, hpress'⟩ := ih hpress hrest
    refine ⟨u, d', bag', ?_, ?_⟩
    · rw [run_forM_cons, bind_ok hrun, hruns]
    · rw [List.length_cons, show n + (inputs.length + 1) = n + 1 + inputs.length by omega]
      exact hpress'

lemma Pressed.press_ends (hforward : Script.Forward lines) (hmem : id ∈ w.active)
    (hgoes : goesOn input = true) : ((pressKeys id input).runOn w).1 ≠ .error .endless := by
  obtain ⟨u, d', bag', hrun, hpress, -⟩ := (h.stepping.withInput input).exists_pressed hforward hmem
    (n := n + 1) (by have := h.far hmem; omega) fun hquiet => (h.reading hquiet).count hmem
  rw [h.stepping.run_press hmem hgoes, bind_ok hrun]
  split
  · obtain ⟨r, v, hclose, hends, -⟩ := exists_closeDialogue hpress.stepping.talk
    rw [hclose]
    exact hends
  · nofun

end

lemma exists_open_pressed {items : List PartId} (h : w.Ready bag items) {script : Script}
    (hls : w.lines? script = some (lines.map .str)) (hforward : Script.Forward lines)
    (name : String) :
    ∃ id u d bag', (openDialogue .stepped script (.str name)).runOn w = (.ok id, u) ∧
      Pressed u id d bag' lines 0 := by
  obtain ⟨id, u, d, hopen, hfr, htalk, hmem, hsame, -⟩ := exists_openDialogue h .stepped script name
  have hscr : u.lines? d.script = some (lines.map .str) := by
    rw [hfr.script, ← hls]
    exact eq_of_offstage hsame (lines? · script) fun x => by cases script <;> rfl
  have hstep : Stepping u id d bag lines :=
    ⟨htalk, hfr.style, hscr, by rw [hfr.line], fun _ => by rw [hfr.line]; omega⟩
  obtain ⟨v, d', bag', hrun, hpress, -⟩ := hstep.exists_pressed hforward hmem
    (n := 0) (by rw [hfr.line]; decide) fun _ => by rw [hfr.line]; rfl
  refine ⟨id, v, d', bag', ?_, hpress⟩
  rw [hopen, bind_ok hrun]
  rfl

/-- **A dialogue in the stepped style goes through its script and closes.**  It opens, whatever the
random numbers. After any number of presses, one more press comes to its end, and leads further
into the script unless it closes the dialogue. After as many presses as there are lines it is
closed. Without commands, what is heard after each press is the next line that is not empty, and the
press after the last one closes the dialogue. -/
theorem stepped_dialogue_goes_through {items : List PartId} (h : w.Ready bag items) {script : Script}
    (hlines : w.lines? script = some (lines.map .str)) (hforward : Script.Forward lines)
    (name : String) : ∃ id w₀, (openDialogue .stepped script (.str name)).runOn w = (.ok id, w₀) ∧
      ∀ inputs : List Input, (∀ input ∈ inputs, GoesOn input) →
        ∃ u, (inputs.forM (pressKeys id)).runOn w₀ = (.ok ⟨⟩, u) ∧
          (∀ input, goesOn input = true → id ∈ u.active →
            ((pressKeys id input).runOn u).1 ≠ .error .endless) ∧
          (∀ input, GoesOn input → id ∈ u.active → ∃ v, (pressKeys id input).runOn u = (.ok (), v) ∧
            (id ∈ v.active → ∃ l l', u.line? id = some l ∧ v.line? id = some l' ∧ l < l')) ∧
          (lines.length ≤ inputs.length → id ∉ u.active) ∧
          ((∀ s ∈ lines, s.toList.head? ≠ some '!') →
            (id ∈ u.active ↔ inputs.length < (Script.heard lines).length) ∧
            ∀ text, (Script.heard lines)[inputs.length]? = some text →
              u.content? id = some (.str (Line.spoken text))) := by
  obtain ⟨id, w₀, d0, bag0, hopen, hpressed0⟩ := exists_open_pressed h hlines hforward name
  refine ⟨id, w₀, hopen, fun inputs hgoes => ?_⟩
  obtain ⟨u, d, bag, hruns, hpressed⟩ := hpressed0.exists_presses hforward inputs hgoes
  rw [Nat.zero_add] at hpressed
  have hd := hpressed.stepping.talk.voiced.talk
  refine ⟨u, hruns, fun input hinput hmem => hpressed.press_ends hforward hmem hinput,
    fun input hinput hmem => ?_, fun hall hmem => ?_, fun hquiet => ?_⟩
  · obtain ⟨v, d', bag', hrun, hpressed', hlt⟩ := hpressed.exists_press hforward hmem hinput
    have hd' := hpressed'.stepping.talk.voiced.talk
    exact ⟨v, hrun, fun _ => ⟨d.line, d'.line, by rw [line?, hd]; rfl, by rw [line?, hd']; rfl, hlt⟩⟩
  · have hfar := hpressed.far hmem
    have hinside := hpressed.stepping.inside hmem
    omega
  · have hreading := hpressed.reading hquiet
    refine ⟨hreading.active, fun text htext => ?_⟩
    rw [content?, hd]
    exact hreading.words text htext

/-- A short script: an empty line, a jump to one of two lines, and an end. -/
def porch : List String := ["Hello there", "", "! random 4 5", "- Not now", "$ A door closes", "! end"]

lemma forward_porch : Script.Forward porch := by
  intro i s hs hm
  match i with
  | 0 | 1 | 3 | 4 =>
    cases hs
    exact absurd hm (by decide)
  | 2 =>
    cases hs
    exact ⟨.random [4, 5], by decide, nofun, by decide⟩
  | 5 =>
    cases hs
    exact ⟨.finish, by decide, nofun, nofun⟩
  | _ + 6 => cases hs

/-- On the porch of a new world, six presses close the dialogue. -/
theorem stepped_dialogue_goes_through_porch : Script.Forward porch ∧
    ∃ id w₀, (openDialogue .stepped (.own (.arr (porch.map .str))) (.str "Bob")).runOn {} = (.ok id, w₀) ∧
      ∀ inputs : List Input, (∀ input ∈ inputs, GoesOn input) → 6 ≤ inputs.length →
        ∃ u, (inputs.forM (pressKeys id)).runOn w₀ = (.ok ⟨⟩, u) ∧ id ∉ u.active := by
  have hlines : ({} : World).lines? (.own (.arr (porch.map .str))) = some (porch.map .str) := rfl
  obtain ⟨id, w₀, hopen, hpresses⟩ :=
    stepped_dialogue_goes_through ready_new_world hlines forward_porch "Bob"
  refine ⟨forward_porch, id, w₀, hopen, fun inputs hgoes hall => ?_⟩
  obtain ⟨u, hruns, -, -, hclosed, -⟩ := hpresses inputs hgoes
  exact ⟨u, hruns, hclosed hall⟩

end Game

end TileQuest
