import TileQuest.Proofs.Chat.Exchange
import TileQuest.Proofs.Talk.Sending

/-!
# Encounters with characters

A run of encounters meets characters, opens dialogues with lines of their own, and goes through
frames of dialogues with any keys pressed, in any order (`Encounter`). After a fault the run goes on
with the world as the fault left it.
-/

namespace TileQuest

open World Game

variable {e : Encounter}

/-! ## Runs -/

/-- Something that happens with characters. -/
inductive Encounter where
  /-- Somebody talks to a character of the cast, from some distance. -/
  | meet (name : String) (user : EntityId) (distance : Json)
  | visit (name : String) (lines : Json)
  | frame (id : PartId) (input : Input)

namespace Encounter

/-- What happens. -/
def step : Encounter → Game Unit
  | meet name user distance => talk (.str name) (castScript (.str name)) user distance
  | visit name lines => do let _ ← openDialogue .typed (.own lines) (.str name)
  | frame id input => pressKeys id input

/-- The character has a name that can be that of a file. -/
def IsNamed : Encounter → Prop
  | meet name _ _ | visit name _ => IsFileName name
  | frame _ _ => True

/-- What becomes of conversations. -/
def Effect : Encounter → World → Shelf → World → Shelf → Prop
  | meet name _ _ | visit name _ => Meeting name
  | frame id _ => Exchange id

lemma does_step (h : e.IsNamed) : Does Backing.Serves e.Effect fun _ => e.step := by
  cases e with
  | meet name user distance =>
    have hopen (script : Script) : Blind (do let _ ← openDialogue .typed script (.str name)) :=
      (blind_openTyped h script).bind fun _ => .pure _
    exact .lift_bind (P := Meeting name) _ fun _ => .ite ((does_castScript h).bind_blind hopen)
      (.blind (blind_tellEntity user _))
  | visit name lines =>
    exact .blind (P := Meeting name) ((blind_openTyped h _).bind fun _ => .pure _)
  | frame id input =>
    intro v s hv
    by_cases hmem : id ∈ v.active
    · obtain ⟨r, v', s', hv', hexchange, hrun⟩ := does_updateDialogue id { v with input } s hv
      refine ⟨r, v', s', hv', hexchange.of_side fun _ => rfl, fun c hc => ?_⟩
      obtain ⟨c', hc', hback, hc⟩ := hrun c ⟨hc.ready, hc.holds⟩
      have hmem' : id ∈ ({ v.backed c with input } : World).active := hmem
      refine ⟨c', hc', hback, ?_⟩
      rw [step, pressKeys, run_modify_bind, run_get_bind, if_pos hmem']
      exact hc
    · refine ⟨.ok (), { v with input }, s, hv, .kept fun _ _ ha => .inl ha, fun c hc =>
        ⟨c, ⟨hc.ready, hc.holds⟩, rfl, ?_⟩⟩
      have hmem' : ¬id ∈ ({ v.backed c with input } : World).active := hmem
      rw [step, pressKeys, run_modify_bind, run_get_bind, if_neg hmem']
      rfl

end Encounter

namespace World

variable {name : String} {mode : ServerMode}

def after (w : World) (e : Encounter) : World := (e.step.runOn w).2

/-- What comes of all that happens, one after the other, and the world at the end. -/
def undergo : World → List Encounter → List (Except Fault Unit) × World
  | w, [] => ([], w)
  | w, e :: es => ((e.step.runOn w).1 :: ((w.after e).undergo es).1, ((w.after e).undergo es).2)

/-- What a character would come to a conversation with. -/
def recalls (w : World) (name : String) : History :=
  match ((newAgent (.str name)).runOn w).1 with
  | .ok a => a.messages
  | .error _ => []

/-! ## Worlds and the places of their conversations -/

/-- Where the world keeps its conversations, and what was written down. -/
def backing (w : World) : Backing :=
  { backend := w.chats.place, chats := w.chats, disk := w.disk, log := w.log }

/-- The world without the places of its conversations, and nothing written down. -/
def unbacked (w : World) : World :=
  { w with parts := w.parts.map (Owned.backed .server), chats := {}, disk := {}, log := [] }

/-- Conversations can be kept, none of those that are kept is spoilt, every side of a conversation
is kept where conversations are kept, and all names can be those of files. -/
structure Tidy (w : World) : Prop where
  named : w.Named
  placed : ∀ i a, w.side? i = some a → a.backend = w.chats.place
  kept : ∃ s, Backing.Serves w s w.backing

variable {v w w' : World} {c : Backing} {s : Shelf}

lemma recalls_backed (h : c.Ready s) (hn : IsFileName name) (v : World) :
    (v.backed c).recalls name = s name := by
  obtain ⟨c', -, -, hrun⟩ := exists_newAgent_backed h hn v
  rw [recalls, hrun]
  rfl

lemma unbacked_backed (v : World) (c : Backing) : (v.backed c).unbacked = v.unbacked := by
  have hps : (v.parts.map (Owned.backed c.backend)).map (Owned.backed .server) =
      v.parts.map (Owned.backed .server) := by
    rw [Array.map_map]
    exact congrArg v.parts.map (funext fun o => Owned.backed_backed _ _ o)
  rw [unbacked, backed]
  dsimp only
  rw [hps]
  rfl

lemma words?_backed (v : World) (c : Backing) (q : PartId) :
    (v.backed c).words? q = v.words? q := by
  rw [words?, words?, getElem?_backed, Option.bind_map]
  congr 2
  funext o
  obtain ⟨p, owner?, unreadable?, lost⟩ := o
  cases p <;> rfl

lemma side?_backed (v : World) (c : Backing) (i : PartId) :
    (v.backed c).side? i = (v.side? i).map ({ · with backend := c.backend }) := by
  rw [side?, side?, talk?_backed]
  cases v.talk? i <;> rfl

lemma Tidy.map_backed (h : w.Tidy) : w.parts.map (Owned.backed w.chats.place) = w.parts := by
  refine Array.ext_getElem? fun i => ?_
  rw [Array.getElem?_map]
  cases ho : w.parts[i]? with
  | none => rfl
  | some o =>
    refine congrArg some ?_
    obtain ⟨p, owner?, unreadable?, lost⟩ := o
    cases p with
    | dialogue d =>
      have hd : w.talk? ⟨i⟩ = some d := talk?_eq_some.2 ⟨_, ho, rfl⟩
      have ha : d.agent?.map ({ · with backend := w.chats.place }) = d.agent? := by
        cases hside : d.agent? with
        | none => rfl
        | some a => rw [← h.placed ⟨i⟩ a (side?_eq_some.2 ⟨d, hd, hside⟩)]; rfl
      simp only [Owned.backed, Part.backed, ha]
    | _ => rfl

lemma Tidy.eq_backed (hw' : w'.Tidy) (h : w.unbacked = w'.unbacked) :
    w' = w.hushed.backed w'.backing := by
  have hps : w.parts.map (Owned.backed w'.chats.place) = w'.parts := by
    have hmap (parts : Array Owned) : parts.map (Owned.backed w'.chats.place) =
        (parts.map (Owned.backed .server)).map (Owned.backed w'.chats.place) := by
      rw [Array.map_map]
      exact congrArg parts.map (funext fun o => (Owned.backed_backed _ _ o).symm)
    have hsame : w.parts.map (Owned.backed .server) = w'.parts.map (Owned.backed .server) :=
      congrArg World.parts h
    rw [hmap, hsame, ← hmap, hw'.map_backed]
  calc w' = { w'.unbacked with
        parts := w'.parts, chats := w'.chats, disk := w'.disk, log := w'.log } := rfl
    _ = { w.unbacked with
        parts := w'.parts, chats := w'.chats, disk := w'.disk, log := w'.log } := by rw [h]
    _ = w.hushed.backed w'.backing := by
      rw [← hps]
      rfl

lemma exists_undergo {es : List Encounter} (hes : ∀ e ∈ es, e.IsNamed) (hv : v.Named) (s : Shelf) :
    ∃ rs v' s', v'.Named ∧ ∀ c, Backing.Serves v s c →
      ∃ c', Backing.Serves v' s' c' ∧ (v.backed c).undergo es = (rs, v'.backed c') := by
  induction es generalizing v s with
  | nil => exact ⟨[], v, s, hv, fun c hc => ⟨c, hc, rfl⟩⟩
  | cons e es ih =>
    obtain ⟨r, u, t, hu, -, hrun⟩ := Encounter.does_step (hes e (.head _)) v s hv
    obtain ⟨rs, v', s', hv', hruns⟩ := ih (fun e he => hes e (.tail _ he)) hu t
    refine ⟨r :: rs, v', s', hv', fun c hc => ?_⟩
    obtain ⟨c1, hc1, -, hstep⟩ := hrun c hc
    obtain ⟨c', hc', hundergo⟩ := hruns c1 hc1
    refine ⟨c', hc', ?_⟩
    rw [undergo, after, hstep]
    dsimp only
    rw [hundergo]

lemma Tidy.named_hushed (h : w.Tidy) : w.hushed.Named := h.named

lemma Tidy.serves (hw' : w'.Tidy) (hsame : w.unbacked = w'.unbacked)
    (hkept : ∀ name, IsFileName name → w'.recalls name = s name) :
    Backing.Serves w.hushed s w'.backing := by
  obtain ⟨s', hs'⟩ := hw'.kept
  have hshelf (name : String) (hn : IsFileName name) : s' name = s name := by
    rw [← hkept name hn, ← recalls_backed hs'.ready hn w'.hushed, ← hw'.eq_backed rfl]
  obtain ⟨hrdy, hholds⟩ := hs'.congr hshelf
  refine ⟨hrdy, fun i a ha => ?_⟩
  have hside := side?_backed w.hushed w'.backing i
  rw [← hw'.eq_backed hsame, ha] at hside
  exact hholds i _ hside

/-- **The places of conversations are interchangeable.**  Take two tidy worlds that differ in nothing
but the places of their conversations, and let the same conversations be kept in both. Whatever
happens with characters, the same comes of it in both, and afterwards the model was called in the
same way, the same is to be read, the same is in all inventories, and the same conversations are
kept. In fact nothing differs but the places. -/
theorem backends_interchangeable {w w' : World} (hw : w.Tidy) (hw' : w'.Tidy)
    (hsame : w.unbacked = w'.unbacked)
    (hkept : ∀ name, IsFileName name → w.recalls name = w'.recalls name)
    (es : List Encounter) (hes : ∀ e ∈ es, e.IsNamed) : (w.undergo es).1 = (w'.undergo es).1 ∧
      (w.undergo es).2.calls = (w'.undergo es).2.calls ∧
      (∀ q, (w.undergo es).2.words? q = (w'.undergo es).2.words? q) ∧
      (w.undergo es).2.bags = (w'.undergo es).2.bags ∧ (∀ name, IsFileName name →
        (w.undergo es).2.recalls name = (w'.undergo es).2.recalls name) ∧
      (w.undergo es).2.unbacked = (w'.undergo es).2.unbacked := by
  obtain ⟨rs, v, s, -, hrun⟩ := exists_undergo hes hw.named_hushed w.recalls
  obtain ⟨c, hc, hundergo⟩ := hrun _ (hw.serves rfl fun _ _ => rfl)
  obtain ⟨c', hc', hundergo'⟩ := hrun _ (hw'.serves hsame fun name hname => (hkept name hname).symm)
  rw [← hw.eq_backed rfl] at hundergo
  rw [← hw'.eq_backed hsame] at hundergo'
  rw [hundergo, hundergo']
  refine ⟨rfl, rfl, fun q => ?_, rfl, fun name hname => ?_, ?_⟩
  · rw [words?_backed, words?_backed]
  · rw [recalls_backed hc.ready hname, recalls_backed hc'.ready hname]
  · rw [unbacked_backed, unbacked_backed]

def newGame (mode : ServerMode) : World :=
  { chats := { mode }
    outcomes := [.refused "busy", .answer (.obj [("output", .str (replyText "Good" false))]),
      .answer (.obj [("output", .str (replyText "Fine" false))])] }

lemma unbacked_newGame (mode mode' : ServerMode) :
    (newGame mode).unbacked = (newGame mode').unbacked := rfl

lemma talk?_newGame (mode : ServerMode) (i : PartId) : (newGame mode).talk? i = none := rfl

lemma serves_newGame (h : mode ≠ .readOnly) :
    Backing.Serves (newGame mode) (fun _ => []) (newGame mode).backing := by
  let disk : Disk := Disk.initial.put ["content", "chat_data"] .folder
  have hfold : Disk.initial.makeFolders Disk.chatFolder = .ok disk := rfl
  have hshelves : disk.Shelves fun _ => [] := by
    refine ⟨rfl, rfl, fun name _ => .inr ⟨?_, rfl⟩⟩
    rw [Disk.node?_put_of_ne (by simp)]
    simp [Disk.node?, Disk.initial, Disk.isAroundTop, Disk.outerTop]
  refine ⟨⟨disk, ⟨h, rfl, ?_⟩, fun _ => hfold⟩, fun i a ha => ?_⟩
  · cases mode with
    | readOnly => exact absurd rfl h
    | up => exact fun _ _ => rfl
    | down | missing => exact hshelves
  · rw [side?, talk?_newGame] at ha
    cases ha

lemma tidy_newGame (h : mode ≠ .readOnly) : (newGame mode).Tidy := by
  refine ⟨fun i d hd => ?_, fun i a ha => ?_, _, serves_newGame h⟩
  · rw [talk?_newGame] at hd
    cases hd
  · rw [side?, talk?_newGame] at ha
    cases ha

lemma recalls_newGame (h : mode ≠ .readOnly)
    (hn : IsFileName name) : (newGame mode).recalls name = [] := by
  rw [(tidy_newGame h).eq_backed rfl]
  exact recalls_backed (serves_newGame h).ready hn _

/-- Nancy is met and hears something, is met again, and hears something more in the first
dialogue. -/
def smallTalk : List Encounter :=
  [.meet "Nancy" ⟨0⟩ 10, .frame ⟨6⟩ { fresh := [.char 'a'] }, .frame ⟨6⟩ { fresh := [.enter] },
    .meet "Nancy" ⟨0⟩ 10, .frame ⟨6⟩ { fresh := [.char 'b'] }, .frame ⟨6⟩ { fresh := [.enter] }]

lemma isNamed_of_mem_smallTalk (he : e ∈ smallTalk) : e.IsNamed := by
  have hnancy : IsFileName "Nancy" := by decide
  simp only [smallTalk, List.mem_cons, List.not_mem_nil, or_false] at he
  rcases he with rfl | rfl | rfl | rfl | rfl | rfl
  · exact hnancy
  · trivial
  · trivial
  · exact hnancy
  · trivial
  · trivial

/-- It makes no difference to the talk with Nancy whether the server is up, down or missing. -/
theorem backends_interchangeable_nancy : ((newGame .up).undergo smallTalk).2.calls.length = 3 ∧
    ((newGame .up).undergo smallTalk).2.calls = ((newGame .down).undergo smallTalk).2.calls ∧
    ((newGame .up).undergo smallTalk).2.calls = ((newGame .missing).undergo smallTalk).2.calls ∧
    ((newGame .up).undergo smallTalk).2.recalls "Nancy" =
      ((newGame .down).undergo smallTalk).2.recalls "Nancy" ∧
    ((newGame .up).undergo smallTalk).2.recalls "Nancy" =
      ((newGame .missing).undergo smallTalk).2.recalls "Nancy" := by
  have hup : ServerMode.up ≠ .readOnly := nofun
  have hdown : ServerMode.down ≠ .readOnly := nofun
  have hmissing : ServerMode.missing ≠ .readOnly := nofun
  obtain ⟨-, hcalls, -, -, hrecalls, -⟩ := backends_interchangeable (tidy_newGame hup)
    (tidy_newGame hdown) (unbacked_newGame _ _)
    (fun name hname => (recalls_newGame hup hname).trans (recalls_newGame hdown hname).symm)
    smallTalk fun _ => isNamed_of_mem_smallTalk
  obtain ⟨-, hcalls', -, -, hrecalls', -⟩ := backends_interchangeable (tidy_newGame hup)
    (tidy_newGame hmissing) (unbacked_newGame _ _)
    (fun name hname => (recalls_newGame hup hname).trans (recalls_newGame hmissing hname).symm)
    smallTalk fun _ => isNamed_of_mem_smallTalk
  exact ⟨by decide +kernel, hcalls, hcalls', hrecalls "Nancy" (by decide),
    hrecalls' "Nancy" (by decide)⟩

end World

end TileQuest
