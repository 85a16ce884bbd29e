import TileQuest.Chat.Agent
import TileQuest.Proofs.Outcome

/-!
# A character's side of a conversation

What the player types goes to the model, which is called again after a refusal, but three times at
most (`Outcome.attempts`). A conversation is kept on the server or in a file (`World.kept`): a new
side of it starts from what was kept, and keeping it never stands in the way of the game unless the
server takes nothing.
-/

namespace TileQuest

variable {w : World}

/-! ## Calls of the model -/

namespace Outcome

/-- What a call comes to. -/
def result : Outcome → Except Fault Json
  | .refused text => .error (.service text)
  | .failed text => .error (.model text)
  | .answer j => .ok j

/-- How often the model is called, with so many more attempts after a refusal, and what the last
call comes to. -/
def attempts : Nat → List Outcome → Nat × Except Fault Json
  | _, [] => (1, .error .noAnswer)
  | more + 1, .refused _ :: rest => ((attempts more rest).1 + 1, (attempts more rest).2)
  | _, outcome :: _ => (1, outcome.result)

lemma attempts_le (more : Nat) (outcomes : List Outcome) :
    (attempts more outcomes).1 ≤ more + 1 := by
  fun_induction attempts more outcomes with
  | case1 | case3 => exact Nat.succ_le_succ (Nat.zero_le _)
  | case2 more text rest ih => exact Nat.succ_le_succ ih

lemma attempts_pos (more : Nat) (outcomes : List Outcome) : 0 < (attempts more outcomes).1 := by
  fun_cases attempts more outcomes <;> exact Nat.succ_pos _

lemma refused_of_lt_attempts {more i : Nat} {outcomes : List Outcome}
    (h : i + 1 < (attempts more outcomes).1) : ∃ text, outcomes[i]? = some (.refused text) := by
  fun_induction attempts more outcomes generalizing i with
  | case1 | case3 => exact absurd h (by simp)
  | case2 more text rest ih =>
    cases i with
    | zero => exact ⟨text, rfl⟩
    | succ i => exact ih (Nat.lt_of_succ_lt_succ h)

end Outcome

namespace Game

open World

lemma run_invoke (query : Json) (history : History) (w : World) :
    (invoke query history).runOn w = ((Outcome.attempts 0 w.outcomes).2,
      { w with outcomes := w.outcomes.drop 1, calls := { query, history } :: w.calls }) := by
  rw [invoke, run_modify_bind, run_get_bind]
  cases houts : w.outcomes with
  | nil => rfl
  | cons outcome rest => cases outcome <;> rfl

lemma exists_ask (query : Json) (history : History) (more pause : Nat) (w : World) :
    ∃ log, (ask query history more pause).runOn w = ((Outcome.attempts more w.outcomes).2,
      { w with
        log, outcomes := w.outcomes.drop (Outcome.attempts more w.outcomes).1
        calls := List.replicate (Outcome.attempts more w.outcomes).1 { query, history } ++ w.calls }) := by
  induction more generalizing pause w with
  | zero =>
    have hone : (Outcome.attempts 0 w.outcomes).1 = 1 :=
      Nat.le_antisymm (Outcome.attempts_le 0 _) (Outcome.attempts_pos 0 _)
    rw [hone]
    exact ⟨w.log, run_invoke query history w⟩
  | succ more ih =>
    rw [ask, run_tryCatch, run_invoke]
    cases houts : w.outcomes with
    | nil => exact ⟨w.log, rfl⟩
    | cons outcome rest =>
      cases outcome with
      | refused text =>
        let asked : World := { w with
          outcomes := rest, calls := { query, history } :: w.calls
          log := .sleep pause :: .fault "API Error: " (.service text)
            (". Retrying in " ++ toString pause ++ " seconds...") :: w.log }
        obtain ⟨log, hrun⟩ := ih (pause * 2) asked
        refine ⟨log, hrun.trans ?_⟩
        have hcalls (k : Nat) (call : Call) : List.replicate k call ++ call :: w.calls =
            List.replicate (k + 1) call ++ w.calls := by
          rw [List.replicate_succ', List.append_assoc, List.singleton_append]
        dsimp only [asked]
        rw [hcalls]
        rfl
      | failed text => exact ⟨w.log, rfl⟩
      | answer j => exact ⟨w.log, rfl⟩

lemma exists_structuredReply (answer : Json) (w : World) :
    ∃ log, (structuredReply answer).runOn w =
      (.ok (Reply.ofAnswer w.reservedNames answer).toOption, { w with log }) := by
  rw [structuredReply, run_tryCatch, run_get_bind]
  cases hrep : Reply.ofAnswer w.reservedNames answer with
  | error fault => exact ⟨_, rfl⟩
  | ok reply => exact ⟨w.log, rfl⟩

end Game

/-! ## What is kept -/

namespace World

/-- What is kept of a conversation in some place: nothing if there is none or it cannot be read. -/
def kept (w : World) : Backend → String → History
  | .server, name => (w.chats.find? (.str name)).getD []
  | .files folder, name =>
    (w.disk.read (Backend.path folder name) >>= FileData.history).toOption.getD []

/-- Conversations can be found: the server answers, or there is a folder for their files. -/
def opens (w : World) : Bool :=
  match w.chats.mode with
  | .missing | .down => (w.disk.makeFolders Disk.chatFolder).isOk
  | _ => true

/-- Conversations can be kept: the server takes them, or there is a folder for them. -/
structure Keeps (w : World) : Prop where
  writable : w.chats.mode ≠ .readOnly
  folder : ∃ disk, w.disk.makeFolders Disk.chatFolder = .ok disk

lemma Keeps.opens {w : World} (h : w.Keeps) : w.opens = true := by
  obtain ⟨disk, hd⟩ := h.folder
  unfold World.opens
  split
  · rw [hd]
    rfl
  · rw [hd]
    rfl
  · rfl

end World

namespace Game

open World

lemma run_note_bind {α : Type} (n : Notice) (f : Unit → Game α) (w : World) :
    (note n >>= f).runOn w = (f ()).runOn { w with log := n :: w.log } := rfl

lemma run_openFiles {folder : String} {disk : Disk} (h : w.disk.makeFolders folder = .ok disk) :
    (openFiles folder).runOn w = (.ok (.files folder), { w with disk }) := by
  rw [openFiles, run_get_bind, run_lift_bind h]
  rfl

lemma exists_chooseBackend (h : w.opens = true) :
    ∃ backend disk log, chooseBackend.runOn w = (.ok backend, { w with disk, log }) ∧
      (w.chats.mode = .readOnly → backend = .server) := by
  have hopen (log : List Notice) (hok : (w.disk.makeFolders Disk.chatFolder).isOk = true) :
      ∃ disk, (openFiles Disk.chatFolder).runOn { w with log } =
        (.ok (.files Disk.chatFolder), { w with disk, log }) := by
    cases hd : w.disk.makeFolders Disk.chatFolder with
    | error fault => rw [hd] at hok; cases hok
    | ok disk => exact ⟨disk, run_openFiles (w := { w with log }) hd⟩
  rw [opens] at h
  rw [chooseBackend, run_get_bind]
  cases hm : w.chats.mode with
  | missing =>
    rw [hm] at h
    dsimp only
    rw [print, run_note_bind]
    obtain ⟨disk, hrun⟩ := hopen _ h
    exact ⟨_, _, _, hrun, nofun⟩
  | down =>
    rw [hm] at h
    dsimp only
    rw [run_note_bind]
    obtain ⟨disk, hrun⟩ := hopen _ h
    exact ⟨_, _, _, hrun, nofun⟩
  | _ => exact ⟨.server, w.disk, _, rfl, fun _ => rfl⟩

lemma exists_chooseBackend_of_not (h : w.opens = false) :
    ∃ fault log, chooseBackend.runOn w = (.error fault, { w with log }) := by
  have hopen (log : List Notice) (hok : (w.disk.makeFolders Disk.chatFolder).isOk = false) :
      ∃ fault, (openFiles Disk.chatFolder).runOn { w with log } = (.error fault, { w with log }) := by
    cases hd : w.disk.makeFolders Disk.chatFolder with
    | error fault =>
      refine ⟨fault, ?_⟩
      rw [openFiles, run_get_bind, run_bind, run_lift, hd]
    | ok disk => rw [hd] at hok; cases hok
  rw [opens] at h
  rw [chooseBackend, run_get_bind]
  cases hm : w.chats.mode with
  | missing =>
    rw [hm] at h
    dsimp only
    rw [print, run_note_bind]
    obtain ⟨fault, hrun⟩ := hopen _ h
    exact ⟨_, _, hrun⟩
  | down =>
    rw [hm] at h
    dsimp only
    rw [run_note_bind]
    obtain ⟨fault, hrun⟩ := hopen _ h
    exact ⟨_, _, hrun⟩
  | _ => rw [hm] at h; cases h

lemma exists_readChat (path key : String) (w : World) :
    ∃ log, (readChat path key).runOn w = (w.disk.read path >>= FileData.history, { w with log }) := by
  rw [readChat, run_get_bind]
  cases w.disk.read path with
  | error fault => exact ⟨w.log, rfl⟩
  | ok data =>
    rw [run_lift_bind rfl, ok_bind]
    cases data.history with
    | error fault => exact ⟨w.log, rfl⟩
    | ok history => exact ⟨_, rfl⟩

lemma exists_loadChat (backend : Backend) (name : String) (w : World) :
    ∃ log, (loadChat backend (.str name)).runOn w = (.ok (w.kept backend name), { w with log }) := by
  cases backend with
  | server =>
    have hkey : (giveKey (.str name)).runOn w = (.ok (), w) := rfl
    rw [loadChat, bind_ok hkey, run_get_bind, kept]
    cases w.chats.find? (.str name) with
    | some history => exact ⟨_, rfl⟩
    | none => exact ⟨_, rfl⟩
  | files folder =>
    have hshn : (Json.str name).shown = name := rfl
    rw [loadChat, run_get_bind, kept]
    rw [hshn]
    split
    · obtain ⟨log, hread⟩ := exists_readChat (Backend.path folder name) name w
      rw [run_tryCatch, hread]
      cases w.disk.read (Backend.path folder name) >>= FileData.history with
      | error fault => exact ⟨_, rfl⟩
      | ok history => exact ⟨log, rfl⟩
    · rename_i hhas
      rw [Disk.read]
      cases hfind : w.disk.find (Backend.path folder name) with
      | error fault => exact ⟨_, rfl⟩
      | ok found => exact absurd (by rw [Disk.has, hfind]; rfl) hhas

lemma exists_newAgent (h : w.opens = true) (name : String) :
    ∃ backend disk log history, (newAgent (.str name)).runOn w =
      (.ok { name, backend, history? := some history }, { w with disk, log }) ∧
      (w.chats.mode = .readOnly → backend = .server) := by
  obtain ⟨backend, disk, log, hback, hsrv⟩ := exists_chooseBackend h
  obtain ⟨log', hl⟩ := exists_loadChat backend name { w with disk, log }
  refine ⟨backend, disk, log', kept { w with disk, log } backend name, ?_, hsrv⟩
  rw [newAgent, bind_ok hback, bind_ok hl]
  rfl

lemma exists_saveChat (backend : Backend) (name : String) (history : History) (w : World) :
    ∃ disk server log, (saveChat backend (.str name) history).runOn w =
      (if w.chats.mode = .readOnly ∧ backend = .server then .error .unreachable else .ok (),
        { w with disk, chats := { w.chats with server }, log }) := by
  cases backend with
  | server =>
    rw [saveChat, run_get_bind]
    by_cases hm : w.chats.mode = .readOnly
    · rw [if_pos hm, if_pos ⟨hm, rfl⟩]
      exact ⟨w.disk, w.chats.server, w.log, rfl⟩
    · rw [if_neg hm, if_neg fun h => hm h.1]
      exact ⟨_, _, _, rfl⟩
  | files folder =>
    rw [saveChat, run_tryCatch, writeChat, run_get_bind, if_neg (by simp)]
    cases hwrite : w.disk.write (Backend.path folder (Json.str name).shown) (.chat history) with
    | error fault => exact ⟨w.disk, w.chats.server, _, rfl⟩
    | ok disk => exact ⟨disk, w.chats.server, _, rfl⟩

end Game

end TileQuest
