import TileQuest.Proofs.Talk.Sending

/-!
# Whether showing a line ends

Showing the next line ends unless the walk through the script goes in a circle
(`Game.nextLine_endless_iff`). In the typed style an empty line leads to itself, and a jump may lead
to itself, too. This says for each frame of a dialogue, and for its opening, whether they come to an
end (`Game.showing_ends_iff`). A script whose last line is empty does not even open
(`Game.trailing_newline_endless`).
-/

namespace TileQuest

/-- What was typed is sent with such keys. -/
def Dialogue.sends (d : Dialogue) (input : Input) : Bool :=
  d.isTyping && !d.typed.isEmpty && input.isFresh .enter && !input.isFresh .backspace

namespace Game

open World Dialogue

variable {w u : World} {id : PartId} {d : Dialogue} {bag : Bag} {lines : List Json} {name : String}

/-! ## Frames in which nothing is sent -/

lemma exists_setTyped (h : Typing w id d bag lines) (typed : String) :
    ∃ u, (setTyped id typed).runOn w = (.ok (), u) ∧ u.random = w.random ∧
      Typing u id { d with typed } bag lines := by
  obtain ⟨label, hl⟩ := h.talk.voiced.typing h.style
  have hset : (w.withTalk id ({ · with typed })).InTalk id { d with typed } bag := h.talk.withTalk rfl
  have hmem : label ∈ ({ d with typed } : Dialogue).labels :=
    List.mem_append_right _ (Option.mem_toList.2 hl)
  obtain ⟨u, hrun, hvoice, htold, -⟩ :=
    exists_tell hset.voiced hmem (if typed.isEmpty then typingHint else typed)
  have hsame := offstage_of_told htold
  refine ⟨u, ?_, htold.field_eq World.random fun _ => rfl, ?_⟩
  · rw [setTyped, bind_ok (run_modifyDialogue _ _ _),
      bind_ok (run_dialogue hset.voiced.talk), hl, bind_ok (run_orAbsent_some _ _),
      say]
    exact hrun
  · exact h.of_offstage (hset.of_told htold hvoice.talk rfl) hsame rfl rfl

lemma exists_handleTyping (h : Typing w id d bag lines) (htyp : d.isTyping = true)
    (hsends : d.sends w.input = false) :
    ∃ u typed, (handleTyping id).runOn w = (.ok (), u) ∧ u.random = w.random ∧
      Typing u id { d with typed } bag lines := by
  have hsame : ∃ u typed, (pure () : Game Unit).runOn w = (.ok (), u) ∧ u.random = w.random ∧
      Typing u id { d with typed } bag lines := ⟨w, d.typed, rfl, rfl, h⟩
  have hset (typed : String) : ∃ u typed', (setTyped id typed).runOn w = (.ok (), u) ∧
      u.random = w.random ∧ Typing u id { d with typed := typed' } bag lines := by
    obtain ⟨u, hrun⟩ := exists_setTyped h typed
    exact ⟨u, typed, hrun⟩
  rw [handleTyping, run_get_bind, bind_ok (run_dialogue h.talk.voiced.talk)]
  dsimp only
  split
  · exact hset _
  · rename_i hback
    split
    · rename_i henter
      rw [sends, htyp, henter, Bool.eq_false_iff.2 hback] at hsends
      rw [if_neg (by simpa using hsends)]
      exact hsame
    · split
      · split
        · exact hset _
        · exact hsame
      · exact hsame

lemma exists_frame (h : Typing w id d bag lines) (hsends : d.sends w.input = false) :
    ∃ r u d' bag', (updateDialogue id).runOn w = (r, u) ∧
      (r = .error .endless ↔ (!d.isWaiting && goesOn w.input) = true ∧
        Circles .typed lines (d.line, w.random)) ∧ Typing u id d' bag' lines := by
  simp only [← rest?_eq_none_iff]
  rw [run_updateDialogue_typed h.talk.voiced.talk h.style]
  by_cases htyp : d.isTyping = true
  · obtain ⟨u, typed, hrun, hrand, htyp'⟩ := exists_handleTyping h htyp hsends
    obtain ⟨r, v, d', hgo, hends, htyp''⟩ := exists_goOn htyp' w.input
    rw [hrand] at hends
    rw [if_pos htyp, bind_ok hrun]
    exact ⟨r, v, d', _, hgo, hends, htyp''⟩
  · obtain ⟨r, v, d', hgo, hends, htyp'⟩ := exists_goOn h w.input
    rw [if_neg htyp]
    exact ⟨r, v, d', _, hgo, hends, htyp'⟩

/-! ## Openings and frames -/

/-- The script of a dialogue in a frame: a reply is added to it if something is sent. -/
def scriptFor (w : World) (d : Dialogue) (lines : List Json) : List Json :=
  if d.sends w.input then (if Reply.closes d.typed (w.heard d) then [] else lines) ++ w.comment d
  else lines

lemma Typing.exists_enters (h : Typing w id d bag lines) (hact : id ∈ w.active)
    (hsends : d.sends w.input = true) : ∃ name, Enters w id d bag name := by
  obtain ⟨name, hn⟩ := h.talk.voiced.name
  simp only [sends, Bool.and_eq_true, Bool.not_eq_true', String.isEmpty_eq_false_iff] at hsends
  obtain ⟨⟨⟨htyp, hsaid⟩, henter⟩, hback⟩ := hsends
  exact ⟨name, h.talk, hact, h.style, htyp, hsaid, hn, henter, hback⟩

lemma exists_opening {items : List PartId} (h : w.Ready bag items) (lines : List Json)
    (name : String) :
    ∃ r u, (openDialogue .typed (.own (.arr lines)) (.str name)).runOn w = (r, u) ∧
      (r = .error .endless ↔ Circles .typed lines (-1, w.random)) ∧
      ∀ id, r = .ok id → ∃ d bag', Typing u id d bag' lines := by
  obtain ⟨id, u, d, hopen, hfr, htalk, -, -, hrand, -⟩ :=
    exists_openDialogue h .typed (.own (.arr lines)) name
  have hscr : d.script = .own (.arr lines) := by
    rw [hfr.script]
    cases lines <;> rfl
  have htyp : Typing u id d bag lines := ⟨htalk, hfr.style, by rw [hscr]; rfl⟩
  rw [hopen, ← rest?_eq_none_iff, ← hfr.line, ← hrand]
  cases hrest : rest? .typed lines (d.line, u.random) with
  | none =>
    obtain ⟨s, hrun⟩ :=
      run_nextLine_of_circles htalk.voiced.talk htyp.script (hfr.style ▸ hrest)
    exact ⟨.error .endless, _, by rw [run_bind, hrun], by simp, nofun⟩
  | some s =>
    obtain ⟨r, v, hrun, -, hshow⟩ :=
      exists_nextLine htalk htyp.script (hfr.style ▸ hrest)
    cases r with
    | error fault =>
      refine ⟨.error fault, v, by rw [run_bind, hrun], ⟨fun heq => ?_, nofun⟩, nofun⟩
      cases heq
      exact absurd rfl hshow.ends
    | ok =>
      refine ⟨.ok id, v, by rw [bind_ok hrun]; rfl, by simp, fun id' hid => ?_⟩
      cases hid
      exact ⟨_, _, htyp.of_showed hshow⟩

/-- **Whether showing a line ends.**  Opening a dialogue of the typed style never ends exactly if the
walk from its last line goes in a circle. A frame of an open dialogue never ends exactly if
something is sent, or the dialogue goes on, and the walk from the line that it is at goes in a circle,
the reply being the last line of the script. Every frame leaves the dialogue so that this can be said
of the next one. -/
theorem showing_ends_iff (w : World) (bag : Bag) (lines : List Json) :
    (∀ items, w.Ready bag items → ∀ name, ∃ r u,
      (openDialogue .typed (.own (.arr lines)) (.str name)).runOn w = (r, u) ∧
        (r = .error .endless ↔ Circles .typed lines (-1, w.random)) ∧
        ∀ id, r = .ok id → ∃ d bag', Typing u id d bag' lines) ∧
    ∀ id d, Typing w id d bag lines → id ∈ w.active → ∃ r u d' bag',
      (updateDialogue id).runOn w = (r, u) ∧
        (r = .error .endless ↔ (d.sends w.input || !d.isWaiting && goesOn w.input) = true ∧
          Circles .typed (scriptFor w d lines) (d.line, w.random)) ∧
        Typing u id d' bag' (scriptFor w d lines) := by
  refine ⟨fun items hready name => exists_opening hready lines name, fun id d h hactive => ?_⟩
  cases hsends : d.sends w.input with
  | false =>
    obtain ⟨r, u, d', bag', hrun, hends, htyping⟩ := exists_frame h hsends
    rw [scriptFor, hsends, if_neg (by simp), Bool.false_or]
    exact ⟨r, u, d', bag', hrun, hends, htyping⟩
  | true =>
    obtain ⟨name, henters⟩ := h.exists_enters hactive hsends
    obtain ⟨r, u, d', hrun, hends, htyping⟩ := exists_enterFrame henters h.script rfl
    rw [scriptFor, hsends, if_pos rfl, Bool.true_or, ← rest?_eq_none_iff]
    exact ⟨r, u, d', _, hrun, by rw [hends]; simp, htyping⟩

/-- In a new world a dialogue that greets the player opens, and the frame never ends in which an empty
reply comes. -/
theorem showing_ends_iff_hello :
    ((openDialogue .typed (.own (.arr [.str "Hello"])) (.str "Bob")).runOn {}).1 ≠ .error .endless ∧
    ∃ w id d, Sends w id d { inventory := .empty 20 } "Bob" ∧
      w.reply = .ok (some { response := [.str ""], isSell := false, toolsUsed := [] }) ∧
      ((updateDialogue id).runOn w).1 = .error .endless := by
  constructor
  · obtain ⟨r, u, hrun, hends, -⟩ :=
      (showing_ends_iff {} _ [.str "Hello"]).1 _ ready_new_world "Bob"
    rw [hrun]
    intro hendless
    exact absurd (rest?_eq_none_iff.2 (hends.1 hendless)) (by decide)
  · obtain ⟨w, id, d, hsends, htyped, hline, -, houtcomes, hreserved, hlines, hrandom⟩ :=
      exists_sends "Bob" "Hi" nofun
        [.refused "busy", .answer (.obj [("output", .str (replyText "" false))])]
    have hreply := reply_of_replyText (by decide +kernel) houtcomes hreserved
    refine ⟨w, id, d, hsends, hreply, ?_⟩
    obtain ⟨r, u, _, _, hrun, hends, -⟩ := (showing_ends_iff w _ [.str "Hello"]).2 id d
      ⟨hsends.talk, hsends.style, hlines⟩ hsends.active
    have hsent : d.sends w.input = true := by
      rw [sends, hsends.typing, hsends.enter, hsends.notBack, htyped]
      rfl
    rw [hrun]
    refine hends.2 ⟨by rw [hsent]; rfl, ?_⟩
    rw [scriptFor, hsent, if_pos rfl, hsends.keeps.comment, hsends.keeps.heard, hreply, hline, hrandom,
      htyped]
    exact rest?_eq_none_iff.1 (by decide)

/-- **A script that ends with an empty line does not open.** -/
theorem trailing_newline_endless :
    ((openDialogue .typed (.own (.arr [.str "Hello", .str ""])) (.str "Bob")).runOn {}).1 =
      .error .endless := by
  obtain ⟨r, u, hrun, hends, -⟩ := exists_opening ready_new_world [.str "Hello", .str ""] "Bob"
  rw [hrun]
  exact hends.2 (rest?_eq_none_iff.1 (by decide))

end Game

end TileQuest
