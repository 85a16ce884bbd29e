import TileQuest.Proofs.Talk.Answers
import TileQuest.Proofs.Talk.Box
import TileQuest.Proofs.Talk.Opening

/-!
# Sending what was typed

In the typed style the player ends what is typed with the enter key. Then it is answered, and the
dialogue shows the line that its walk comes to, which is the reply as long as no line jumped. A line
that does not wait for an answer is looked at once more in the same frame, since the enter key also
goes on (`Game.exists_enterFrame`).
-/

namespace TileQuest

/-- What the player carries after the line that the walk comes to, if it comes to one. -/
def Inventory.gainOn (inventory : Inventory) (lines : List Json) (s : Int × List Int) : Inventory :=
  ((Dialogue.rest? .typed lines s).map fun s' => inventory.gainAt lines s'.1).getD inventory

/-- What the player carries after a frame in which the enter key was pressed: the line that the walk
comes to is looked at twice, unless it waits for an answer. -/
def Inventory.gainFrom (inventory : Inventory) (lines : List Json) (s : Int × List Int) : Inventory :=
  match Dialogue.rest? .typed lines s with
  | some s' => (inventory.gainAt lines s'.1).gainAt lines s'.1
  | none => inventory

namespace Game

open World Dialogue

variable {w u : World} {id : PartId} {d : Dialogue} {bag : Bag} {lines lines' script : List Json}
variable {name text : String} {position : Int}

/-! ## Sending -/

def cleared (d : Dialogue) : Dialogue := { d with typed := "", isTyping := false, isWaiting := false }

lemma exists_send (h : w.InTalk id d bag) (hmem : id ∈ w.active)
    (hs : d.style = .typed) (hls : w.lines? d.script = some script)
    {name : String} (hn : d.npcName = .str name) (said : String) :
    ∃ u script' agent?, (send id said).runOn w = (nextLine id).runOn u ∧
      Answered id w u d (cleared { d with script := script', agent? }) bag name said script := by
  obtain ⟨u, script', agent?, hanswer, hans⟩ := exists_answer h hmem hls hn said
  have hemp : (u.withTalk id ({ · with typed := "" })).InTalk id
      { d with script := script', agent?, typed := "" } _ := hans.talk.withTalk rfl
  obtain ⟨v, htyp, hvoice, htold, -⟩ := exists_setTyping hemp.voiced hs false
  refine ⟨v.withTalk id ({ · with isWaiting := false }), script', agent?, ?_, ?_⟩
  · rw [send, bind_ok hanswer, bind_ok (run_modifyDialogue _ _ _), bind_ok htyp,
      bind_ok (run_modifyDialogue _ _ _)]
  · refine hans.of_told (((told_withTalk u id _).trans htold).trans (told_withTalk v id _)) ?_ rfl rfl
    exact talk?_withTalk_self hvoice.talk _

lemma run_handleTyping_enter (hd : w.talk? id = some d) (hne : d.typed ≠ "")
    (hback : w.input.isFresh .backspace = false) (henter : w.input.isFresh .enter = true) :
    (handleTyping id).runOn w = (send id d.typed).runOn w := by
  have hsome : (!d.typed.isEmpty) = true := by simpa using hne
  rw [handleTyping, run_get_bind, bind_ok (run_dialogue hd), hback, henter]
  dsimp only
  rw [if_neg (by simp), if_pos rfl, if_pos hsome]

/-! ## The rest of a frame -/

/-- The escape key closes a dialogue. -/
def escape (id : PartId) (input : Input) : Game Unit := do
  if input.isFresh .escape then closeDialogue id

/-- What a frame of the typed style ends with: the dialogue goes on unless it waits for an answer, and
the escape key closes it. -/
def goOn (id : PartId) (input : Input) : Game Unit := do
  let d ← dialogue id
  if !d.isWaiting && goesOn input then nextLine id >>= fun _ => escape id input else escape id input

lemma run_updateDialogue_typed (hd : w.talk? id = some d) (hs : d.style = .typed) :
    (updateDialogue id).runOn w = (if d.isTyping then handleTyping id >>= fun _ => goOn id w.input
      else goOn id w.input).runOn w := by
  rw [updateDialogue, run_get_bind, bind_ok (run_dialogue hd), hs]
  dsimp only
  rw [bind_ok (run_dialogue hd)]
  rfl

structure Typing (w : World) (id : PartId) (d : Dialogue) (bag : Bag) (lines : List Json) : Prop where
  talk : w.InTalk id d bag
  style : d.style = .typed
  script : w.lines? d.script = some lines

lemma Typing.of_offstage {d' : Dialogue} {bag' : Bag} (h : Typing w id d bag lines)
    (htalk : u.InTalk id d' bag') (hsame : u.offstage = w.offstage) (hs : d'.style = d.style)
    (hscr : d'.script = d.script) : Typing u id d' bag' lines where
  talk := htalk
  style := hs.trans h.style
  script := by
    rw [hscr, ← h.script]
    exact lines?_congr (eq_of_offstage hsame World.castLines fun _ => rfl) _

lemma Typing.of_showed {r : Except Fault Unit} (h : Typing w id d bag lines)
    (hshow : Showed id w u d bag lines position r) : Typing u id (d.shownAt lines position)
      { bag with inventory := bag.inventory.gainAt lines position } lines := by
  obtain ⟨isWaiting, isTyping, typed, hshn⟩ := d.shownAt_eq lines position
  exact h.of_offstage hshow.talk hshow.same (by rw [hshn]) (by rw [hshn])

lemma exists_escape (h : Typing w id d bag lines) (input : Input) :
    ∃ r u, (escape id input).runOn w = (r, u) ∧ r ≠ .error .endless ∧ Typing u id d bag lines := by
  rw [escape]
  split
  · obtain ⟨r, u, hclose, hends, -, -, hsame, -, htalk⟩ := exists_closeDialogue h.talk
    exact ⟨r, u, hclose, hends, h.of_offstage htalk hsame rfl rfl⟩
  · exact ⟨.ok (), w, rfl, nofun, h⟩

lemma gainAt_of_waiting (hd : d.isWaiting = false)
    (h : (d.shownAt lines position).isWaiting = true) (inventory : Inventory) :
    inventory.gainAt lines position = inventory := by
  rw [shownAt] at h
  rw [Inventory.gainAt]
  cases hl : lineAt? lines position with
  | none => rfl
  | some text =>
    rw [hl] at h
    by_cases hm : text.toList.head? = some '!'
    · have hsame : (Line.leaves text { d with line := position }).isWaiting = d.isWaiting := by
        rw [Line.leaves, if_pos hm]
      exact absurd (hsame.symm.trans h) (by rw [hd]; simp)
    · exact if_neg hm

lemma exists_goOn (h : Typing w id d bag lines) (input : Input) :
    ∃ r u d', (goOn id input).runOn w = (r, u) ∧
      (r = .error .endless ↔ (!d.isWaiting && goesOn input) = true ∧
        rest? .typed lines (d.line, w.random) = none) ∧
      Typing u id d' { bag with inventory :=
        if !d.isWaiting && goesOn input then bag.inventory.gainOn lines (d.line, w.random)
        else bag.inventory } lines := by
  rw [goOn, bind_ok (run_dialogue h.talk.voiced.talk)]
  by_cases hgoes : (!d.isWaiting && goesOn input) = true
  · rw [if_pos hgoes, if_pos hgoes, Inventory.gainOn]
    cases hrest : rest? .typed lines (d.line, w.random) with
    | none =>
      obtain ⟨s, hrun⟩ := run_nextLine_of_circles h.talk.voiced.talk h.script (h.style ▸ hrest)
      exact ⟨.error .endless, _, _, by rw [run_bind, hrun], by simp [hgoes],
        h.of_offstage (h.talk.walked s) rfl rfl rfl⟩
    | some s =>
      obtain ⟨r, u, hrun, -, hshow⟩ := exists_nextLine h.talk h.script (h.style ▸ hrest)
      have hpos : d.style.position s.1 = s.1 := by rw [h.style]; rfl
      rw [hpos] at hshow
      have htyp := h.of_showed hshow
      cases r with
      | error fault =>
        exact ⟨.error fault, u, _, by rw [run_bind, hrun],
          ⟨fun heq => absurd heq hshow.ends, fun hnone => (nomatch hnone.2)⟩, htyp⟩
      | ok =>
        obtain ⟨r, v, hesc, hends, htyp'⟩ := exists_escape htyp input
        exact ⟨r, v, _, by rw [bind_ok hrun, hesc],
          ⟨fun heq => absurd heq hends, fun hnone => (nomatch hnone.2)⟩, htyp'⟩
  · rw [if_neg hgoes, if_neg hgoes]
    obtain ⟨r, v, hesc, hends, htyp⟩ := exists_escape h input
    exact ⟨r, v, _, hesc, ⟨fun heq => absurd heq hends, fun hnone => absurd hnone.1 hgoes⟩, htyp⟩

/-- The player presses the enter key in an open dialogue of the typed style and has typed something. -/
structure Enters (w : World) (id : PartId) (d : Dialogue) (bag : Bag) (name : String) : Prop where
  talk : w.InTalk id d bag
  active : id ∈ w.active
  style : d.style = .typed
  typing : d.isTyping = true
  said : d.typed ≠ ""
  name : d.npcName = .str name
  enter : w.input.isFresh .enter = true
  notBack : w.input.isFresh .backspace = false

lemma exists_enterFrame (h : Enters w id d bag name) (hls : w.lines? d.script = some lines)
    (hls' : lines' = (if Reply.closes d.typed (w.heard d) then [] else lines) ++ w.comment d) :
    ∃ r u d', (updateDialogue id).runOn w = (r, u) ∧
      (r = .error .endless ↔ rest? .typed lines' (d.line, w.random) = none) ∧
      Typing u id d' { bag with inventory :=
        (Reply.sold name d.typed (w.heard d) bag.inventory).gainFrom lines' (d.line, w.random) }
        lines' := by
  obtain ⟨u1, script, agent?, hsend, hans⟩ :=
    exists_send h.talk h.active h.style hls h.name d.typed
  have htyped := run_handleTyping_enter h.talk.voiced.talk h.said h.notBack h.enter
  have hgoes : goesOn w.input = true := by rw [goesOn, h.enter, Bool.or_true]
  obtain ⟨d1, hd1⟩ : ∃ d1, cleared { d with script, agent? } = d1 := ⟨_, rfl⟩
  have hclear : d1.line = d.line ∧ d1.isWaiting = false := by
    rw [← hd1]
    exact ⟨rfl, rfl⟩
  have htyp : Typing u1 id d1
      { bag with inventory := Reply.sold name d.typed (w.heard d) bag.inventory } lines' := by
    rw [← hd1]
    exact ⟨hans.talk, h.style, hls' ▸ hans.script⟩
  rw [run_updateDialogue_typed h.talk.voiced.talk h.style, if_pos h.typing, Inventory.gainFrom,
    ← hclear.1, ← hans.random]
  cases hrest : rest? .typed lines' (d1.line, u1.random) with
  | none =>
    obtain ⟨s, hrun⟩ :=
      run_nextLine_of_circles htyp.talk.voiced.talk htyp.script (htyp.style ▸ hrest)
    refine ⟨.error .endless, _, _, by rw [run_bind, htyped, hsend, hrun], by simp,
      htyp.of_offstage (htyp.talk.walked s) rfl rfl rfl⟩
  | some s =>
    obtain ⟨r, u2, hrun, hrand, hshow⟩ :=
      exists_nextLine htyp.talk htyp.script (htyp.style ▸ hrest)
    have hpos : d1.style.position s.1 = s.1 := by rw [htyp.style]; rfl
    rw [hpos] at hshow
    have htyping2 := htyp.of_showed hshow
    cases r with
    | error fault =>
      refine ⟨.error fault, u2, d1.shownAt lines' s.1, by rw [run_bind, htyped, hsend, hrun], ?_, ?_⟩
      · exact ⟨fun heq => absurd heq hshow.ends, nofun⟩
      · simp only [hshow.kept nofun] at htyping2 ⊢
        exact htyping2
    | ok =>
      obtain ⟨isWaiting, isTyping, typed, hshn⟩ := d1.shownAt_eq lines' s.1
      have hrests : rest? .typed lines' ((d1.shownAt lines' s.1).line, u2.random) = some s := by
        rw [hshn, hrand]
        exact rest?_of_rests (leads?_rest hrest)
      obtain ⟨r, v, d', hgo, hends, htyp'⟩ := exists_goOn htyping2 w.input
      rw [hrests] at hends
      refine ⟨r, v, d', by rw [run_bind, htyped, hsend, hrun]; exact hgo, ?_, ?_⟩
      · exact ⟨fun heq => (nomatch (hends.1 heq).2), nofun⟩
      · rw [hgoes, Bool.and_true, Inventory.gainOn, hrests] at htyp'
        dsimp only at htyp' ⊢
        cases hwaits : (d1.shownAt lines' s.1).isWaiting with
        | true =>
          rw [hwaits, gainAt_of_waiting hclear.2 hwaits] at htyp'
          rw [gainAt_of_waiting hclear.2 hwaits, gainAt_of_waiting hclear.2 hwaits]
          exact htyp'
        | false =>
          rw [hwaits] at htyp'
          exact htyp'

/-! ## What a frame comes to -/

/-- The player was asked, typed something and presses the enter key alone, and what is said can be
kept. -/
structure Sends (w : World) (id : PartId) (d : Dialogue) (bag : Bag) (name : String) : Prop
    extends Enters w id d bag name where
  keeps : w.Keeps
  waiting : d.isWaiting = true
  only : ∀ key ≠ .enter, w.input.isFresh key = false

lemma exists_sends (name said : String) (hsaid : said ≠ "") (outcomes : List Outcome) :
    ∃ w id d, Sends w id d { inventory := .empty 20 } name ∧ d.typed = said ∧ d.line = -1 ∧
      d.agent? = none ∧ w.outcomes = outcomes ∧ w.reservedNames = [] ∧
      w.lines? d.script = some [.str "Hello"] ∧ w.random = [] := by
  let w0 : World := { outcomes, input := { fresh := [.enter] } }
  have hrdy : w0.Ready { inventory := .empty 20 } [] :=
    ⟨⟨rfl, Inventory.empty_counted 20, nofun, nofun⟩, nofun, nofun, Nat.zero_le _⟩
  obtain ⟨id, u, d, -, hfr, htalk, hmem, hsame, hrand, -⟩ :=
    exists_openDialogue hrdy .typed (.own (.arr [.str "Hello"])) name
  have hls : u.lines? d.script = some [.str "Hello"] := by rw [hfr.script]; rfl
  have hrest : rest? d.style [.str "Hello"] (d.line, u.random) = some (d.line, u.random) := by
    rw [hfr.style, hfr.line]
    exact rest?_of_rests rfl
  obtain ⟨r, v, -, hrand', hshow⟩ := exists_nextLine htalk hls hrest
  have hpos : d.style.position d.line = -1 := by rw [hfr.style, hfr.line]; rfl
  rw [hpos] at hshow
  -- the character said hello and waits for an answer
  have hshn : d.shownAt [.str "Hello"] (-1) =
      { d with line := -1, isWaiting := true, isTyping := true, typed := "" } := if_pos hfr.style
  have hvoice := hshow.talk
  rw [hshn] at hvoice
  have hact : v.active = u.active := (hshow.heard "Hello" rfl (by decide)).2.1
  have hsame' : v.offstage = w0.offstage := hshow.same.trans hsame
  have hinp : v.input = w0.input := eq_of_offstage hsame' World.input fun _ => rfl
  refine ⟨v.withTalk id ({ · with typed := said }), id,
    { d with line := -1, isWaiting := true, isTyping := true, typed := said },
    ⟨⟨hvoice.withTalk rfl, hact ▸ hmem, hfr.style, rfl, hsaid, hfr.name, ?_, ?_⟩,
      ⟨?_, ?_⟩, rfl, ?_⟩, rfl, rfl, hfr.agent, ?_, ?_, ?_, ?_⟩
  · change v.input.isFresh .enter = true
    rw [hinp]
    rfl
  · change v.input.isFresh .backspace = false
    rw [hinp]
    rfl
  · rw [show (v.withTalk id ({ · with typed := said })).chats = w0.chats from
      eq_of_offstage hsame' World.chats fun _ => rfl]
    nofun
  · rw [show (v.withTalk id ({ · with typed := said })).disk = w0.disk from
      eq_of_offstage hsame' World.disk fun _ => rfl]
    exact ⟨_, rfl⟩
  · intro key hkey
    change v.input.isFresh key = false
    rw [hinp]
    simpa [w0, Input.isFresh] using hkey
  · exact eq_of_offstage hsame' World.outcomes fun _ => rfl
  · exact eq_of_offstage hsame' World.reservedNames fun _ => rfl
  · change v.lines? d.script = _
    rw [hfr.script]
    rfl
  · exact hrand'.trans hrand

/-- A line that the character says, whatever it is. -/
def IsPlain (text : String) : Prop :=
  text ≠ "" ∧ text.toList.head? ∉ [some '!', some '-', some '$']

instance (text : String) : Decidable (IsPlain text) := inferInstanceAs (Decidable (_ ∧ _))

lemma entry?_concat {α : Type} (xs : List α) (x : α) : entry? (xs ++ [x]) (-1) = some x := by
  simp [ entry?, signedIndex?]

lemma leads?_of_plain (hplain : IsPlain text) (before : List Json) (draws : List Int) :
    leads? .typed (before ++ [.str text]) (-1, draws) = none := by
  obtain ⟨hne, hmarks⟩ := hplain
  simp only [List.mem_cons, List.not_mem_nil, or_false, not_or] at hmarks
  rw [leads?]
  change (if ((before ++ [Json.str text]).length : Int) ≤ -1 then none else
    ( entry? (before ++ [Json.str text]) (-1)).bind fun line => Line.turn? line (-1) draws) = none
  rw [if_neg (by omega), entry?_concat, Option.bind_some, Line.turn?, if_neg hne, if_neg hmarks.1]

lemma exists_plainFrame (h : Sends w id d bag name) (hl : d.line = -1)
    (hls : w.lines? d.script = some script) (ht : Reply.line w.reply = .str text)
    (hplain : IsPlain text) : ∃ u d', (updateDialogue id).runOn w = (.ok (), u) ∧
      Answered id w u d d' bag name d.typed script ∧ d'.fixed = d.fixed ∧ d'.isWaiting = true ∧
      d'.typed = "" ∧ d'.line = -1 ∧ u.words? d'.content = some (.str text) := by
  have hleads := leads?_of_plain hplain
  obtain ⟨hne, hmarks⟩ := hplain
  simp only [List.mem_cons, List.not_mem_nil, or_false, not_or] at hmarks
  obtain ⟨u, script', agent?, hsend, hans⟩ :=
    exists_send h.talk h.active h.style hls h.name d.typed
  obtain ⟨d1, hd1⟩ : ∃ d1, cleared { d with script := script', agent? } = d1 := ⟨_, rfl⟩
  rw [hd1] at hans
  have hd1style : d1.style = .typed := by rw [← hd1]; exact h.style
  have hd1line : d1.line = -1 := by rw [← hd1]; exact hl
  have hscr := hans.script
  obtain ⟨before, hbef⟩ : ∃ before,
      (if Reply.closes d.typed w.reply then [] else script) = before := ⟨_, rfl⟩
  rw [h.keeps.comment, h.keeps.heard, ht, hbef] at hscr
  have hlen : ¬ ((before ++ [Json.str text]).length : Int) ≤ -1 := by omega
  have hrests : leads? d1.style (before ++ [.str text]) (d1.line, u.random) = none := by
    rw [hd1style, hd1line, hleads]
  obtain ⟨v, hspeech, hvoice, htold, hwds⟩ :=
    exists_speech hans.talk.voiced hne hmarks.1 (nextLineIn 0 id)
  have hnext : (nextLine id).runOn u = (.ok (), v) := by
    have hpos : d1.style.position d1.line = d1.line := by rw [hd1style]; rfl
    rw [run_nextLine_of_rest hans.talk.voiced.talk hscr (rest?_of_rests hrests),
      walked_self hans.talk.voiced.talk, run_nextLineIn_succ hans.talk.voiced.talk, hpos,
      walked_self hans.talk.voiced.talk, run_lookAt hans.talk.voiced.talk hscr, hd1line,
      if_neg hlen, run_lift_bind (entry_eq_ok (entry?_concat before (Json.str text)))]
    exact hspeech
  have hleaves : Line.leaves text d1 = { d1 with isWaiting := true, isTyping := true, typed := "" } := by
    rw [Line.leaves, if_neg hmarks.1, if_neg (not_or.2 hmarks.2), Dialogue.asking, if_pos hd1style]
  have hspoken : Line.spoken text = text := if_neg (not_or.2 hmarks.2)
  rw [hleaves] at hvoice
  have htyped := run_handleTyping_enter h.talk.voiced.talk h.said (h.only _ (by simp)) h.enter
  have hesc : w.input.isFresh .escape = false := h.only _ (by simp)
  refine ⟨v, _, ?_, hans.of_told htold hvoice.talk rfl rfl, ?_, rfl, rfl, hd1line, ?_⟩
  · rw [run_updateDialogue_typed h.talk.voiced.talk h.style, if_pos h.typing,
      bind_ok (htyped.trans (hsend.trans hnext)), goOn, bind_ok (run_dialogue hvoice.talk),
      if_neg (by simp), escape, hesc]
    rfl
  · rw [← hd1]
    rfl
  · rw [hspoken] at hwds
    exact hwds

/-- **What a frame does in which the player sends what was typed**, as long as the reply is plain. The
model is called once, twice or three times, with the same question and history, and again only after
a refusal. One line is appended to the script, or to none if what was said closes the dialogue: that
line is shown, and the dialogue waits for the next answer. What the reply sells is added to what the
player carries, unless what was said closes the dialogue. Nothing else changes. -/
theorem sent_message_is_answered (h : Sends w id d bag name) (hline : d.line = -1)
    {script : List Json} (hlines : w.lines? d.script = some script)
    (hplain : ∀ reply line rest, w.reply = .ok (some reply) → reply.response = line :: rest →
      ∃ text, line = .str text ∧ IsPlain text) :
    ∃ u d' text history k, (updateDialogue id).runOn w = (.ok (), u) ∧
      u.calls = List.replicate k { query := .str d.typed, history } ++ w.calls ∧
      u.outcomes = w.outcomes.drop k ∧ 1 ≤ k ∧ k ≤ 3 ∧
      (∀ i, i + 1 < k → ∃ refusal, w.outcomes[i]? = some (.refused refusal)) ∧
      (∀ a ∈ d.agent?, history = a.messages) ∧
      u.talk? id = some d' ∧ Reply.line w.reply = .str text ∧
      u.lines? d'.script = some ((if Reply.closes d.typed w.reply then [] else script) ++ [.str text]) ∧
      u.words? d'.content = some (.str text) ∧ d'.fixed = d.fixed ∧ d'.isWaiting = true ∧
      d'.typed = "" ∧ d'.line = -1 ∧ (id ∈ u.active ↔ Reply.closes d.typed w.reply = false) ∧
      u.bags[0]? = some { bag with inventory := Reply.sold name d.typed w.reply bag.inventory } ∧
      u.backstage = w.backstage := by
  obtain ⟨text, htext, htextPlain⟩ : ∃ text, Reply.line w.reply = .str text ∧ IsPlain text := by
    match hreply : w.reply with
    | .error _ => exact ⟨_, rfl, by decide⟩
    | .ok none => exact ⟨_, rfl, by decide⟩
    | .ok (some { response := [], .. }) => exact ⟨_, rfl, by decide⟩
    | .ok (some { response := line :: rest, .. }) =>
      obtain ⟨text, rfl, htextPlain⟩ := hplain _ line rest hreply rfl
      exact ⟨text, rfl, htextPlain⟩
  obtain ⟨u, d', hrun, hanswered, hfixed, hwaiting, htyped, hline', hwords⟩ :=
    exists_plainFrame h hline hlines htext htextPlain
  obtain ⟨history, hhistory, hcalls⟩ := hanswered.asked
  obtain ⟨items, hstocked, -⟩ := hanswered.talk.stocked
  have hholds := hstocked.holds
  have houtcomes := hanswered.outcomes
  have hactive := hanswered.active
  have hscript := hanswered.script
  rw [h.keeps.attempts] at hcalls houtcomes
  rw [h.keeps.heard] at hholds hactive hscript
  rw [h.keeps.comment, htext] at hscript
  exact ⟨u, d', text, history, _, hrun, hcalls, houtcomes, Outcome.attempts_pos 2 _,
    Outcome.attempts_le 2 _, fun i hi => Outcome.refused_of_lt_attempts hi, hhistory,
    hanswered.talk.voiced.talk, htext, hscript, hwords, hfixed, hwaiting, htyped, hline', hactive,
    hholds, hanswered.same⟩

/-! ### A sale -/

/-- What the model answers to say something, and perhaps to sell something. -/
def replyText (line : String) (isSell : Bool) : String :=
  "\x7b\"response\": [\"" ++ line ++ "\"], \"isSell\": " ++ (if isSell then "true" else "false") ++
    ", \"tools_used\": []\x7d"

lemma reply_of_replyText {line : String} {isSell : Bool}
    (hprs : Json.parse (replyText line isSell) =
      .ok (.obj [("response", .arr [.str line]), ("isSell", .bool isSell), ("tools_used", .arr [])]))
    (houts : w.outcomes = [.refused "busy", .answer (.obj [("output", .str (replyText line isSell))])])
    (hres : w.reservedNames = []) :
    w.reply = .ok (some { response := [.str line], isSell, toolsUsed := [] }) := by
  rw [reply, houts, hres]
  change Except.ok (Json.parse (replyText line isSell) >>= Reply.ofJson []).toOption = _
  rw [hprs]
  rfl

def deal : Reply := { response := [.str "Here you are"], isSell := true, toolsUsed := [] }

lemma exists_deal (said : String) (hsaid : said ≠ "") :
    ∃ w id d, Sends w id d { inventory := .empty 20 } "Nancy" ∧ d.typed = said ∧ d.line = -1 ∧
      w.lines? d.script = some [.str "Hello"] ∧ w.reply = .ok (some deal) := by
  obtain ⟨w, id, d, hsends, htyped, hl, -, houts, hres, hls, -⟩ :=
    exists_sends "Nancy" said hsaid
      [.refused "busy", .answer (.obj [("output", .str (replyText "Here you are" true))])]
  refine ⟨w, id, d, hsends, htyped, hl, hls, ?_⟩
  exact reply_of_replyText (by decide +kernel) houts hres

theorem sent_message_is_answered_deal : ∃ w id d u d', Sends w id d { inventory := .empty 20 } "Nancy" ∧
    d.line = -1 ∧ w.reply = .ok (some deal) ∧ (updateDialogue id).runOn w = (.ok (), u) ∧
    u.talk? id = some d' ∧ u.words? d'.content = some (.str "Here you are") ∧
    u.bags[0]?.map Bag.inventory = some ((Inventory.empty 20).add ItemType.all[0] (.ofInt 1)).inventory := by
  obtain ⟨w, id, d, hsends, htyped, hline, hlines, hreply⟩ := 
    exists_deal "A diamond, please" nofun
  obtain ⟨u, d', text, -, -, hrun, -, -, -, -, -, -, hd', htext, -, hwords, -, -, -, -, -, hbag, -⟩ :=
    sent_message_is_answered hsends hline hlines (by
      intro reply line rest hreply' hresponse
      cases hreply.symm.trans hreply'
      cases hresponse
      exact ⟨_, rfl, by decide⟩)
  rw [hreply] at htext
  cases htext
  refine ⟨w, id, d, u, d', hsends, hline, hreply, hrun, hd', hwords, ?_⟩
  rw [hbag, hreply, htyped]
  rfl

/-- Nancy sells nothing to somebody who says goodbye, though the reply sells something. -/
theorem farewell_sells_nothing : ∃ w id d u, Sends w id d { inventory := .empty 20 } "Nancy" ∧
    d.line = -1 ∧ d.typed = "bye" ∧ w.reply = .ok (some deal) ∧
    (updateDialogue id).runOn w = (.ok (), u) ∧ u.bags[0]?.map Bag.inventory = some (.empty 20) ∧
    ((Inventory.empty 20).add ItemType.all[0] (.ofInt 1)).inventory ≠ .empty 20 := by
  obtain ⟨w, id, d, hsends, htyped, hline, hlines, hreply⟩ := exists_deal "bye" nofun
  have htext : Reply.line w.reply = .str "Here you are" := by rw [hreply]; rfl
  obtain ⟨u, d', hrun, hanswered, -⟩ := exists_plainFrame hsends hline hlines htext (by decide)
  obtain ⟨items, hstocked, -⟩ := hanswered.talk.stocked
  refine ⟨w, id, d, u, hsends, hline, htyped, hreply, hrun, ?_, ?_⟩
  · rw [hstocked.holds, hsends.keeps.heard, htyped, hreply]
    rfl
  · decide +kernel

end Game

end TileQuest
