import TileQuest.Proofs.Chat.Agents
import TileQuest.Proofs.Talk.Box

/-!
# Answers

What the player types goes to the model, which is called again after a refusal, but three times at
most (`Outcome.attempts`). The first thing that it says becomes the last line of the script. Where
the call fails or the reply cannot be read, there is another line instead (`Reply.line`). Besides, a
farewell closes the dialogue and empties its script, and otherwise something may be sold
(`Reply.sold`). A reply that cannot be kept is followed by an excuse (`World.comment`).
-/

namespace TileQuest

variable {w u : World} {id : PartId} {d : Dialogue} {bag : Bag} {log : List Notice}

lemma lookup_store_self {α : Type} (table : List (String × α)) (name : String) (value : α) :
    lookup (store table name value) name = .ok value := by
  induction table with
  | nil => simp [store, lookup]
  | cons row rest ih =>
    rw [store]
    split
    · simp [lookup]
    · rename_i hne
      rw [lookup, List.find?_cons_of_neg (by simpa using hne)]
      exact ih

/-! ## What comes of a reply -/

def Cast.sells? (name : String) : Option ItemType :=
  if isNamed name "nancy" then ItemType.all[0]?
  else if isNamed name "albert" then ItemType.all[1]?
  else none

namespace Reply

/-- The line that comes of a reply, of one that cannot be read, or of a call that failed. -/
def line : Except Fault (Option Reply) → Json
  | .error _ => .str "Sorry, I didn't understand that."
  | .ok none => .str "I'm not sure how to respond to that."
  | .ok (some { response := [], .. }) => .str "..."
  | .ok (some { response := line :: _, .. }) => line

/-- The model said something. -/
def speaks : Except Fault (Option Reply) → Bool
  | .ok (some { response := _ :: _, .. }) => true
  | _ => false

def closes (said : String) (reply : Except Fault (Option Reply)) : Bool :=
  reply.isOk && Game.farewells.contains said

/-- What the player carries after a character replied. -/
def sold (name said : String) (reply : Except Fault (Option Reply)) (inventory : Inventory) :
    Inventory :=
  match reply with
  | .ok (some { isSell := true, .. }) =>
    if Game.farewells.contains said then inventory
    else ((Cast.sells? name).map fun t => (inventory.add t (.ofInt 1)).inventory).getD inventory
  | _ => inventory

end Reply

/-! ## What conversations change -/

namespace World

variable {v : World} {f g : Dialogue → Dialogue}

/-- A dialogue was changed, and besides nothing but what is kept of conversations, what the model
was asked, and what the cast has to say. -/
def Consulted (id : PartId) (f : Dialogue → Dialogue) (w u : World) : Prop :=
  ∃ disk server log outcomes calls castLines, u = { w.withTalk id f with
    disk, chats := { w.chats with server }, log, outcomes, calls, castLines }

lemma Consulted.trans (h : Consulted id f w u) (h' : Consulted id g u v) :
    Consulted id (fun d => g (f d)) w v := by
  obtain ⟨disk, server, log, outcomes, calls, castLines, rfl⟩ := h
  obtain ⟨disk', server', log', outcomes', calls', castLines', rfl⟩ := h'
  refine ⟨disk', server', log', outcomes', calls', castLines', ?_⟩
  rw [← withTalk_withTalk w id f g]
  rfl

lemma Consulted.of_eq (hd : w.talk? id = some d) (hf : f d = d) {disk : Disk}
    {server : List (Json × History)} {outcomes : List Outcome} {calls : List Call}
    {castLines : List (String × List Json)} :
    Consulted id f w { w with disk, chats := { w.chats with server }, log, outcomes, calls, castLines } :=
  ⟨disk, server, log, outcomes, calls, castLines, by rw [withTalk_of_eq hd hf]⟩

/-- What a world is besides what dialogues and conversations with the model change in it. -/
def backstage (w : World) : World :=
  { w.offstage with
    disk := {}, chats := { w.chats with server := [] }, outcomes := [], calls := [], castLines := [] }

lemma backstage_of_offstage (h : u.offstage = w.offstage) : u.backstage = w.backstage :=
  congrArg (fun x : World => { x with
    disk := {}, chats := { x.chats with server := [] }, outcomes := [], calls := [], castLines := [] }) h

/-- What comes of the question that the player asks next. -/
def reply (w : World) : Except Fault (Option Reply) :=
  (Outcome.attempts 2 w.outcomes).2.map fun j => (Reply.ofAnswer w.reservedNames j).toOption

/-- The character of a dialogue can be asked: it was there before, or its conversation is found. -/
def reaches (w : World) (d : Dialogue) : Bool := d.agent?.isSome || w.opens

def heard (w : World) (d : Dialogue) : Except Fault (Option Reply) :=
  if w.reaches d then w.reply else .error .unreachable

/-- How often the model is called for it. -/
def attempts (w : World) (d : Dialogue) : Nat :=
  if w.reaches d then (Outcome.attempts 2 w.outcomes).1 else 0

/-- A dialogue hears something that cannot be kept. -/
def loses (w : World) (d : Dialogue) : Bool :=
  w.chats.mode = .readOnly && d.agent?.all (·.backend = .server) && Reply.speaks (w.heard d)

/-- The lines that come of what a dialogue hears: one, and an excuse if it cannot be kept. -/
def comment (w : World) (d : Dialogue) : List Json :=
  Reply.line (w.heard d) :: if w.loses d then [Reply.line (.error .unreachable)] else []

lemma loses_of_error {fault : Fault} (h : w.heard d = .error fault) : w.loses d = false := by
  rw [loses, h]
  exact Bool.and_false _

lemma comment_of_keeps (h : w.loses d = false) : w.comment d = [Reply.line (w.heard d)] := by
  rw [comment, h, if_neg (by simp)]

lemma Keeps.heard (h : w.Keeps) (d : Dialogue) : w.heard d = w.reply := by
  rw [World.heard, reaches, h.opens, Bool.or_true, if_pos rfl]

lemma Keeps.attempts (h : w.Keeps) (d : Dialogue) :
    w.attempts d = (Outcome.attempts 2 w.outcomes).1 := by
  rw [World.attempts, reaches, h.opens, Bool.or_true, if_pos rfl]

lemma Keeps.comment (h : w.Keeps) (d : Dialogue) : w.comment d = [Reply.line w.reply] := by
  have hm : decide (w.chats.mode = .readOnly) = false := decide_eq_false h.writable
  rw [comment_of_keeps (by rw [loses, hm, Bool.false_and, Bool.false_and]), h.heard]

lemma lines?_congr (h : u.castLines = w.castLines) (script : Script) :
    u.lines? script = w.lines? script := by
  unfold lines?
  rw [h]

lemma Consulted.asked (h : Consulted id f w u) (log : List Notice) (outcomes : List Outcome)
    (calls : List Call) : Consulted id f w { u with log, outcomes, calls } := by
  obtain ⟨disk, server, _, _, _, castLines, rfl⟩ := h
  exact ⟨disk, server, log, outcomes, calls, castLines, rfl⟩

lemma Consulted.withLog (h : Consulted id f w u) (log : List Notice) :
    Consulted id f w { u with log } :=
  h.asked log u.outcomes u.calls

lemma Consulted.of_log (h : Consulted id f { w with log } u) : Consulted id f w u := by
  obtain ⟨disk, server, log', outcomes, calls, castLines, rfl⟩ := h
  exact ⟨disk, server, log', outcomes, calls, castLines, rfl⟩

section

variable (h : Consulted id f w u)
include h

lemma Consulted.mode : u.chats.mode = w.chats.mode := by
  obtain ⟨disk, server, log, outcomes, calls, castLines, rfl⟩ := h
  rfl

lemma Consulted.same : u.backstage = w.backstage := by
  obtain ⟨disk, server, log, outcomes, calls, castLines, rfl⟩ := h
  rfl

lemma Consulted.stage :
    u.active = w.active ∧ u.random = w.random ∧ u.reservedNames = w.reservedNames := by
  obtain ⟨disk, server, log, outcomes, calls, castLines, rfl⟩ := h
  exact ⟨rfl, rfl, rfl⟩

lemma Consulted.congr (hd : w.talk? id = some d) (hfg : f d = g d) : Consulted id g w u := by
  obtain ⟨disk, server, log, outcomes, calls, castLines, rfl⟩ := h
  exact ⟨disk, server, log, outcomes, calls, castLines, by rw [withTalk_congr hd hfg]⟩

end

lemma InTalk.of_consulted (h : w.InTalk id d bag) (hu : Consulted id f w u)
    (hf : (f d).fixed = d.fixed) : u.InTalk id (f d) bag := by
  obtain ⟨disk, server, log, outcomes, calls, castLines, rfl⟩ := hu
  exact (h.withTalk hf).congr rfl rfl rfl rfl rfl

end World

namespace Game

open World Dialogue

variable {lines : List Json} {name said : String}

lemma exists_dialogueAgent (h : w.Voiced id d) (hreach : w.reaches d = true) :
    ∃ agent u, (dialogueAgent id).runOn w = (.ok agent, u) ∧ (∀ a ∈ d.agent?, a = agent) ∧
      (w.chats.mode = .readOnly → d.agent?.all (·.backend = .server) = decide (agent.backend = .server)) ∧
      Consulted id ({ · with agent? := some agent }) w u ∧ u.outcomes = w.outcomes ∧
      u.calls = w.calls ∧ u.castLines = w.castLines := by
  obtain ⟨name, hn⟩ := h.name
  rw [dialogueAgent, bind_ok (run_dialogue h.talk)]
  cases hagent : d.agent? with
  | some agent =>
    exact ⟨agent, w, rfl, fun a ha => (Option.some.inj ha).symm, fun _ => rfl,
      .of_eq h.talk (by rw [← hagent]), rfl, rfl, rfl⟩
  | none =>
    rw [reaches, hagent] at hreach
    obtain ⟨backend, disk, log, history, hnew, hsrv⟩ := exists_newAgent hreach name
    rw [hn]
    dsimp only
    rw [bind_ok hnew, bind_ok (run_modifyDialogue _ _ _)]
    exact ⟨_, _, rfl, nofun, fun hm => (decide_eq_true (hsrv hm)).symm,
      ⟨disk, w.chats.server, log, w.outcomes, w.calls, w.castLines, rfl⟩, rfl, rfl, rfl⟩

lemma exists_dialogueAgent_of_not (h : w.Voiced id d) (hreach : w.reaches d = false) :
    ∃ fault log, (dialogueAgent id).runOn w = (.error fault, { w with log }) := by
  obtain ⟨name, hn⟩ := h.name
  rw [reaches, Bool.or_eq_false_iff, Option.isSome_eq_false_iff, Option.isNone_iff_eq_none] at hreach
  obtain ⟨fault, log, hback⟩ := exists_chooseBackend_of_not hreach.2
  refine ⟨fault, log, ?_⟩
  rw [dialogueAgent, bind_ok (run_dialogue h.talk), hreach.1]
  dsimp only
  rw [run_bind, newAgent, run_bind, hback]

lemma exists_addLine (hd : w.talk? id = some d) (hlines : w.lines? d.script = some lines)
    (line : Json) :
    ∃ script u, (addLine id line).runOn w = (.ok (), u) ∧ Consulted id ({ · with script }) w u ∧
      u.lines? script = some (lines ++ [line]) ∧ u.outcomes = w.outcomes ∧ u.calls = w.calls := by
  rw [addLine, bind_ok (run_dialogue hd)]
  cases hscr : d.script with
  | own script =>
    rw [hscr] at hlines
    cases script with
    | arr items =>
      cases hlines
      exact ⟨.own (.arr (lines ++ [line])), _, rfl,
        ⟨w.disk, w.chats.server, w.log, w.outcomes, w.calls, w.castLines, rfl⟩, rfl, rfl, rfl⟩
    | _ => cases hlines
  | cast name =>
    rw [hscr, lines?] at hlines
    cases hlook : lookup w.castLines name with
    | error fault => rw [hlook] at hlines; cases hlines
    | ok found =>
      rw [hlook] at hlines
      cases hlines
      dsimp only
      rw [run_get_bind, run_lift_bind hlook]
      refine ⟨.cast name, _, rfl, .of_eq hd (by rw [← hscr]), ?_, rfl, rfl⟩
      rw [lines?]
      dsimp only
      rw [lookup_store_self]
      rfl

lemma exists_remember (id : PartId) (agent : Agent) (said : Json) (w : World) :
    ∃ agent' u, (remember id agent said).runOn w =
      (if w.chats.mode = .readOnly ∧ agent.backend = .server then .error .unreachable else .ok (), u) ∧
      Consulted id ({ · with agent? := some agent' }) w u ∧ u.outcomes = w.outcomes ∧
      u.calls = w.calls ∧ u.castLines = w.castLines := by
  let agent' := agent.hear said .null
  let set := w.withTalk id ({ · with agent? := some agent' })
  obtain ⟨disk, server, log, hsave⟩ :=
    exists_saveChat agent'.backend agent'.name agent'.messages set
  refine ⟨agent', _, ?_, ⟨disk, server, log, w.outcomes, w.calls, w.castLines, rfl⟩, rfl, rfl, rfl⟩
  rw [remember]
  dsimp only
  rw [bind_ok (run_modifyDialogue _ _ _)]
  exact hsave

lemma exists_takeReply (hd : w.talk? id = some d) (hlines : w.lines? d.script = some lines)
    (agent : Agent) (said : Json) (reply? : Option Reply) :
    ∃ script agent? u, (takeReply id agent said reply?).runOn w =
      (if (w.chats.mode = .readOnly ∧ agent.backend = .server) ∧ Reply.speaks (.ok reply?) then
        .error .unreachable else .ok (), u) ∧
      Consulted id ({ · with script, agent? }) w u ∧
      u.lines? script = some (lines ++ [Reply.line (.ok reply?)]) ∧ u.outcomes = w.outcomes ∧
      u.calls = w.calls := by
  obtain ⟨script, u, hadd, hcons, hscr, houts, hcalls⟩ :=
    exists_addLine hd hlines (Reply.line (.ok reply?))
  have hkept := hcons.congr (g := ({ · with script, agent? := d.agent? })) hd rfl
  unfold takeReply
  match reply? with
  | none =>
    refine ⟨script, d.agent?, _, ?_, hkept.withLog (.line
      "Error: Could not get structured response from agent" :: u.log), hscr, houts, hcalls⟩
    dsimp only [Reply.line] at hadd ⊢
    rw [bind_ok hadd, if_neg fun h => Bool.false_ne_true h.2]
    rfl
  | some { response := [], .. } =>
    rw [if_neg fun h => Bool.false_ne_true h.2]
    exact ⟨script, d.agent?, u, hadd, hkept, hscr, houts, hcalls⟩
  | some { response := line :: rest, .. } =>
    obtain ⟨agent', v, hremember, hcons', houts', hcalls', hcast⟩ :=
      exists_remember id agent said u
    rw [hcons.mode] at hremember
    have hscr' := (lines?_congr hcast script).trans hscr
    dsimp only [Reply.line] at hadd ⊢
    rw [bind_ok hadd, run_bind, hremember]
    by_cases hloses : w.chats.mode = .readOnly ∧ agent.backend = .server
    · rw [if_pos hloses, if_pos ⟨hloses, rfl⟩]
      exact ⟨script, some agent', v, rfl, hcons.trans hcons', hscr',
        houts'.trans houts, hcalls'.trans hcalls⟩
    · rw [if_neg hloses, if_neg fun h => hloses h.1]
      exact ⟨script, some agent', _, rfl, (hcons.trans hcons').withLog
        (.line ("Agent response: " ++ line.shown) :: v.log), hscr',
        houts'.trans houts, hcalls'.trans hcalls⟩

/-! ## Sales and farewells -/

lemma sale?_eq (name : String) : (sale? name).map Command.ofLine =
    (Cast.sells? name).map fun t => .ok (.give t 1) := by
  rw [sale?, Cast.sells?]
  split
  · rfl
  · split
    · rfl
    · rfl

lemma sold_of_farewell (h : farewells.contains said = true)
    (reply : Except Fault (Option Reply)) (inventory : Inventory) :
    Reply.sold name said reply inventory = inventory := by
  unfold Reply.sold
  split
  · rw [if_pos h]
  · rfl

lemma exists_sale (h : w.InTalk id d bag) (hn : d.npcName = .str name) :
    ∃ u, (do match sale? (← orAbsent (← dialogue id).npcName.str?) with
        | some line => command id (.str line)
        | none => return : Game Unit).runOn w = (.ok (), u) ∧
      u.InTalk id d { bag with inventory := ((Cast.sells? name).map fun t =>
        (bag.inventory.add t (.ofInt 1)).inventory).getD bag.inventory } ∧
      u.active = w.active ∧ u.random = w.random ∧ u.offstage = w.offstage := by
  have hsale := sale?_eq name
  rw [bind_ok (run_dialogue h.voiced.talk), hn]
  change ∃ u, (match sale? name with
    | some line => command id (.str line)
    | none => pure () : Game Unit).runOn w = (.ok (), u) ∧ _
  cases hsells : Cast.sells? name with
  | none =>
    rw [hsells, Option.map_none, Option.map_eq_none_iff] at hsale
    rw [hsale]
    exact ⟨w, rfl, h, rfl, rfl, rfl⟩
  | some t =>
    rw [hsells, Option.map_some, Option.map_eq_some_iff] at hsale
    obtain ⟨line, hl, hcmd⟩ := hsale
    obtain ⟨u, hrun, hsame, hact, hrand, htalk⟩ :=
      exists_giveItems h (mem_all_of_ofLine hcmd) 1
    refine ⟨u, ?_, htalk, hact, hrand, hsame⟩
    rw [hl]
    dsimp only
    rw [command, runCommand, run_lift_bind hcmd]
    exact hrun

lemma exists_actOnReply (h : w.InTalk id d bag) (hmem : id ∈ w.active)
    (hn : d.npcName = .str name) (said : String) (reply? : Option Reply) :
    ∃ u, (actOnReply id (.str said) reply?).runOn w = (.ok (), u) ∧
      u.InTalk id { d with script := if farewells.contains said then .own (.arr []) else d.script }
        { bag with inventory := Reply.sold name said (.ok reply?) bag.inventory } ∧
      (id ∈ u.active ↔ farewells.contains said = false) ∧ u.random = w.random ∧
      u.offstage = w.offstage := by
  rw [actOnReply]
  change ∃ u, (if farewells.contains said = true then _ else _ : Game Unit).runOn w = (.ok (), u) ∧ _
  by_cases hbye : farewells.contains said = true
  · rw [if_pos hbye, if_pos hbye, sold_of_farewell hbye, hbye]
    have hemptied : (w.withTalk id ({ · with script := .own (.arr []) })).InTalk id
        { d with script := .own (.arr []) } bag := h.withTalk rfl
    obtain ⟨r, u, hclose, -, hok, hclosed, hsame, hrand, htalk⟩ := exists_closeDialogue hemptied
    refine ⟨u, ?_, htalk, ⟨fun hmem' => absurd hmem' hclosed, nofun⟩, hrand, hsame⟩
    rw [bind_ok (run_modifyDialogue _ _ _)]
    exact hclose.trans (by rw [hok hmem])
  · rw [if_neg hbye, if_neg hbye, Bool.eq_false_iff.2 hbye]
    by_cases hsell : (reply?.map (·.isSell)).getD false = true
    · rw [if_pos hsell]
      obtain ⟨u, hrun, htalk, hact, hrand, hsame⟩ := exists_sale h hn
      refine ⟨u, hrun, ?_, ⟨fun _ => rfl, fun _ => hact ▸ hmem⟩, hrand, hsame⟩
      obtain ⟨⟨response, isSell, tools⟩, rfl⟩ : ∃ reply, reply? = some reply := by
        cases reply? with
        | none => cases hsell
        | some reply => exact ⟨reply, rfl⟩
      cases (hsell : isSell = true)
      rw [Reply.sold, if_neg hbye]
      exact htalk
    · rw [if_neg hsell]
      refine ⟨w, rfl, ?_, ⟨fun _ => rfl, fun _ => hmem⟩, rfl, rfl⟩
      have hsold : Reply.sold name said (.ok reply?) bag.inventory = bag.inventory := by
        unfold Reply.sold
        split
        · rename_i heq
          cases heq
          exact absurd rfl hsell
        · rfl
      rw [hsold]
      exact h

/-! ## The answer as a whole -/

structure Answered (id : PartId) (w u : World) (d d' : Dialogue) (bag : Bag) (name said : String)
    (lines : List Json) : Prop where
  talk : u.InTalk id d' { bag with inventory := Reply.sold name said (w.heard d) bag.inventory }
  script : u.lines? d'.script =
    some ((if Reply.closes said (w.heard d) then [] else lines) ++ w.comment d)
  active : id ∈ u.active ↔ Reply.closes said (w.heard d) = false
  asked : ∃ history, (∀ a ∈ d.agent?, history = a.messages) ∧
    u.calls = List.replicate (w.attempts d) { query := .str said, history } ++ w.calls
  outcomes : u.outcomes = w.outcomes.drop (w.attempts d)
  random : u.random = w.random
  same : u.backstage = w.backstage

lemma Answered.of_told {v : World} {d' d'' : Dialogue}
    (h : Answered id w u d d' bag name said lines) (htold : Told id u v) (hd : v.talk? id = some d'')
    (hfix : d''.fixed = d'.fixed) (hscr : d''.script = d'.script) :
    Answered id w v d d'' bag name said lines where
  talk := h.talk.of_told htold hd hfix
  script := by
    rw [hscr, lines?_congr (htold.field_eq World.castLines fun _ => rfl), h.script]
  active := by
    rw [htold.field_eq World.active fun _ => rfl]
    exact h.active
  asked := by
    rw [htold.field_eq World.calls fun _ => rfl]
    exact h.asked
  outcomes := (htold.field_eq World.outcomes fun _ => rfl).trans h.outcomes
  random := (htold.field_eq World.random fun _ => rfl).trans h.random
  same := (backstage_of_offstage (offstage_of_told htold)).trans h.same

lemma exists_asked (h : w.Voiced id d) (hreach : w.reaches d = true) (said : String) :
    ∃ agent u u', (dialogueAgent id).runOn w = (.ok agent, u) ∧
      (runAgent agent (.str said)).runOn u = ((Outcome.attempts 2 w.outcomes).2, u') ∧
      (∀ a ∈ d.agent?, a = agent) ∧
      (w.chats.mode = .readOnly → d.agent?.all (·.backend = .server) = decide (agent.backend = .server)) ∧
      Consulted id ({ · with agent? := some agent }) w u' ∧
      u'.castLines = w.castLines ∧ u'.outcomes = w.outcomes.drop (Outcome.attempts 2 w.outcomes).1 ∧
      u'.calls = List.replicate (Outcome.attempts 2 w.outcomes).1
        { query := .str said, history := agent.messages } ++ w.calls := by
  obtain ⟨agent, u, ha, hold, hsrv, hcons, houts, hcalls, hcast⟩ :=
    exists_dialogueAgent h hreach
  obtain ⟨log, hask⟩ := exists_ask (.str said) agent.messages 2 1 u
  rw [houts, hcalls] at hask
  exact ⟨agent, u, _, ha, hask, hold, hsrv, hcons.asked _ _ _, hcast, rfl, rfl⟩

lemma exists_excuse (hd : w.talk? id = some d) (hlines : w.lines? d.script = some lines)
    (fault : Fault) :
    ∃ script u, (do
        note (.fault "Error processing player input: " fault "")
        addLine id (.str "Sorry, I didn't understand that.") : Game Unit).runOn w = (.ok (), u) ∧
      Consulted id ({ · with script }) w u ∧
      u.lines? script = some (lines ++ [Reply.line (.error .unreachable)]) ∧
      u.outcomes = w.outcomes ∧ u.calls = w.calls := by
  let noted : World := { w with log := .fault "Error processing player input: " fault "" :: w.log }
  obtain ⟨script, u, hadd, hcons, hscr, houts, hcalls⟩ :=
    exists_addLine (w := noted) hd hlines (.str "Sorry, I didn't understand that.")
  refine ⟨script, u, ?_, hcons.of_log, hscr, houts, hcalls⟩
  rw [run_note_bind]
  exact hadd

section

variable (h : w.InTalk id d bag) (hmem : id ∈ w.active) (hlines : w.lines? d.script = some lines)
include h hmem hlines

lemma exists_answer_of_not (name said : String) (hreach : w.reaches d = false) :
    ∃ u script agent?, (answer id (.str said)).runOn w = (.ok (), u) ∧
      Answered id w u d { d with script, agent? } bag name said lines := by
  obtain ⟨fault, log, ha⟩ := exists_dialogueAgent_of_not h.voiced hreach
  have hheard : w.heard d = .error .unreachable := by
    rw [heard, hreach, if_neg (by simp)]
  have hatt : w.attempts d = 0 := by rw [attempts, hreach, if_neg (by simp)]
  have hcom := comment_of_keeps (loses_of_error hheard)
  obtain ⟨script, u, hexcuse, hcons, hscr, houts, hcalls⟩ :=
    exists_excuse (w := { w with log }) (h.congr rfl rfl rfl rfl rfl).voiced.talk hlines fault
  obtain ⟨hact, hrand, -⟩ := hcons.of_log.stage
  have hnone : d.agent? = none := by
    rw [reaches, Bool.or_eq_false_iff] at hreach
    simpa using hreach.1
  refine ⟨u, script, d.agent?, ?_, ?_, ?_, ?_, ?_, ?_, hrand, hcons.of_log.same⟩
  · rw [answer, run_tryCatch, run_bind, ha]
    exact hexcuse
  · rw [hheard]
    exact h.of_consulted hcons.of_log rfl
  · rw [hcom, hheard]
    exact hscr
  · rw [hheard, hact]
    exact ⟨fun _ => rfl, fun _ => hmem⟩
  · rw [hatt, hnone]
    exact ⟨[], nofun, hcalls⟩
  · rw [hatt]
    exact houts

lemma exists_answer (hn : d.npcName = .str name) (said : String) :
    ∃ u script agent?, (answer id (.str said)).runOn w = (.ok (), u) ∧
      Answered id w u d { d with script, agent? } bag name said lines := by
  cases hreach : w.reaches d with
  | false => exact exists_answer_of_not h hmem hlines name said hreach
  | true =>
  have hheard : w.heard d = w.reply := by rw [heard, hreach, if_pos rfl]
  have hatt : w.attempts d = (Outcome.attempts 2 w.outcomes).1 := by
    rw [attempts, hreach, if_pos rfl]
  obtain ⟨agent, u1, u2, hagent, hask, hold, hsrv, hcons, hcast, houts, hcalls⟩ :=
    exists_asked h.voiced hreach said
  have htalk : u2.InTalk id { d with agent? := some agent } bag :=
    h.of_consulted (f := ({ · with agent? := some agent })) hcons rfl
  obtain ⟨hactive, hrand, hreserved⟩ := hcons.stage
  have hlines2 := (lines?_congr hcast d.script).trans hlines
  have hhistory : ∀ a ∈ d.agent?, agent.messages = a.messages := fun a ha => by rw [hold a ha]
  rw [answer, run_tryCatch, bind_ok hagent]
  cases hres : (Outcome.attempts 2 w.outcomes).2 with
  | error fault =>
    -- the call failed, and the player is told so
    rw [hres] at hask
    have hrep : w.reply = .error fault := by rw [reply, hres]; rfl
    have hcom := comment_of_keeps (loses_of_error (hheard.trans hrep))
    obtain ⟨script, u, hexcuse, hcons', hscr, houts', hcalls'⟩ :=
      exists_excuse htalk.voiced.talk hlines2 fault
    obtain ⟨hactive', hrand', -⟩ := hcons'.stage
    refine ⟨u, script, some agent, ?_, ?_, ?_, ?_, ⟨agent.messages, hhistory, ?_⟩, ?_,
      hrand'.trans hrand, hcons'.same.trans hcons.same⟩
    · rw [run_bind, hask]
      exact hexcuse
    · rw [hheard, hrep]
      exact htalk.of_consulted (f := ({ · with script })) hcons' rfl
    · rw [hcom, hheard, hrep]
      exact hscr
    · rw [hheard, hrep, hactive']
      exact ⟨fun _ => rfl, fun _ => hactive ▸ hmem⟩
    · rw [hatt]
      exact hcalls'.trans hcalls
    · rw [hatt]
      exact houts'.trans houts
  | ok j =>
    rw [hres] at hask
    obtain ⟨log, hprs⟩ := exists_structuredReply j u2
    obtain ⟨reply?, hreply?⟩ : ∃ reply?, (Reply.ofAnswer u2.reservedNames j).toOption = reply? :=
      ⟨_, rfl⟩
    rw [hreply?] at hprs
    have hrep : w.reply = .ok reply? := by
      rw [reply, hres, ← hreserved, ← hreply?]
      rfl
    have hparsed : ({ u2 with log } : World).InTalk id { d with agent? := some agent } bag :=
      htalk.congr rfl rfl rfl rfl rfl
    obtain ⟨u4, hact, htalk4, hactive4, hrandom4, hsame4⟩ :=
      exists_actOnReply hparsed (by rw [hactive]; exact hmem) hn said reply?
    have hlines4 : u4.lines? (if farewells.contains said then .own (.arr []) else d.script) =
        some (if farewells.contains said then [] else lines) := by
      split
      · rfl
      · exact (lines?_congr (eq_of_offstage hsame4 World.castLines fun _ => rfl) _).trans hlines2
    have hmode4 : u4.chats.mode = w.chats.mode := by
      rw [show u4.chats = u2.chats from eq_of_offstage hsame4 World.chats fun _ => rfl, hcons.mode]
    obtain ⟨script, agent?, u, htake, hcons', hscr, houts', hcalls'⟩ :=
      exists_takeReply htalk4.voiced.talk hlines4 agent (.str said) reply?
    have htalk5 := htalk4.of_consulted (f := ({ · with script, agent? })) hcons' rfl
    obtain ⟨hactive', hrand', -⟩ := hcons'.stage
    have hcalls5 := hcalls'.trans ((eq_of_offstage hsame4 World.calls fun _ => rfl).trans hcalls)
    have houtcomes5 :=
      houts'.trans ((eq_of_offstage hsame4 World.outcomes fun _ => rfl).trans houts)
    have hsame5 := hcons'.same.trans ((backstage_of_offstage hsame4).trans hcons.same)
    rw [hmode4] at htake
    by_cases hloses : (w.chats.mode = .readOnly ∧ agent.backend = .server) ∧ Reply.speaks (.ok reply?)
    · -- the reply cannot be kept, and an excuse follows it
      have hcom : w.comment d = [Reply.line (.ok reply?), Reply.line (.error .unreachable)] := by
        have hcond : w.loses d = true := by
          rw [loses, hsrv hloses.1.1, hheard, hrep, decide_eq_true hloses.1.1,
            decide_eq_true hloses.1.2, hloses.2]
          rfl
        rw [comment, hcond, if_pos rfl, hheard, hrep]
      obtain ⟨script', u', hexcuse, hcons'', hscr', houts'', hcalls''⟩ :=
        exists_excuse htalk5.voiced.talk hscr .unreachable
      obtain ⟨hactive'', hrand'', -⟩ := hcons''.stage
      refine ⟨u', script', agent?, ?_, ?_, ?_, ?_, ⟨agent.messages, hhistory, ?_⟩, ?_,
        hrand''.trans (hrand'.trans (hrandom4.trans hrand)), hcons''.same.trans hsame5⟩
      · rw [bind_ok hask, bind_ok hprs, bind_ok hact, htake, if_pos hloses]
        exact hexcuse
      · rw [hheard, hrep]
        exact htalk5.of_consulted (f := ({ · with script := script' })) hcons'' rfl
      · rw [hcom, hheard, hrep]
        refine hscr'.trans ?_
        rw [List.append_assoc]
        rfl
      · rw [hheard, hrep, hactive'', hactive']
        exact hactive4
      · rw [hatt]
        exact hcalls''.trans hcalls5
      · rw [hatt]
        exact houts''.trans houtcomes5
    · have hcom : w.comment d = [Reply.line (.ok reply?)] := by
        have hcond : w.loses d = false := by
          rw [Bool.eq_false_iff]
          intro hcond
          rw [loses, hheard, hrep, Bool.and_eq_true, Bool.and_eq_true, decide_eq_true_iff] at hcond
          rw [hsrv hcond.1.1, decide_eq_true_iff] at hcond
          exact hloses hcond
        rw [comment_of_keeps hcond, hheard, hrep]
      refine ⟨u, script, agent?, ?_, ?_, ?_, ?_, ⟨agent.messages, hhistory, ?_⟩, ?_,
        hrand'.trans (hrandom4.trans hrand), hsame5⟩
      · rw [bind_ok hask, bind_ok hprs, bind_ok hact, htake, if_neg hloses]
      · rw [hheard, hrep]
        exact htalk5
      · rw [hcom, hheard, hrep]
        exact hscr
      · rw [hheard, hrep, hactive']
        exact hactive4
      · rw [hatt]
        exact hcalls5
      · rw [hatt]
        exact houtcomes5

end

end Game

end TileQuest
