import Mathlib.Logic.Function.Basic
import TileQuest.Proofs.Chat.Agents
import TileQuest.Proofs.Chat.Backing

/-!
# Conversations by name

Whatever the place, what is kept is a conversation for every name (`Backing.Holds`), and nobody can
tell the places apart: a character comes to a conversation with what is kept under its name
(`Game.exists_newAgent_backed`), and to keep a conversation changes what is kept under that name and
no other (`Game.exists_saveChat_backed`).
-/

namespace TileQuest

variable {c : Backing} {name : String} {store store' : String → History}

/-! ## Files of conversations -/

def chatFile (name : String) : String := name ++ ".pkl"

lemma IsFileName.not_mem_slash (h : IsFileName name) : '/' ∉ (chatFile name).toList := by
  simp [chatFile, h.1]

lemma chatFile_injective : Function.Injective chatFile := by
  intro name other h
  have hlist := congrArg String.toList h
  rw [chatFile, chatFile, String.toList_append, String.toList_append] at hlist
  exact String.toList_inj.1 (List.append_cancel_right hlist)

lemma path_chatFolder (h : IsFileName name) : Backend.path Disk.chatFolder name =
    Text.join "/" ["content", "chat_data", chatFile name] := by
  have hhead : (name ++ ".pkl").toList.head? ≠ some '/' := fun hslash =>
    h.not_mem_slash (List.mem_of_mem_head? hslash)
  have hfolder : ¬(Disk.chatFolder.isEmpty || Disk.chatFolder.toList.getLast? = some '/') = true := by
    decide
  have hjoin : Text.join "/" ["content", "chat_data", chatFile name] =
      "content" ++ "/" ++ ("chat_data" ++ "/" ++ chatFile name) := rfl
  rw [Backend.path, if_neg hhead, if_neg hfolder, hjoin, chatFile,
    show Disk.chatFolder = "content" ++ "/" ++ "chat_data" from by decide]
  simp only [String.append_assoc]

lemma split_path (h : IsFileName name) : Text.split '/' (Backend.path Disk.chatFolder name) =
    ["content", "chat_data", chatFile name] := by
  rw [path_chatFolder h]
  refine Text.split_join (List.cons_ne_nil _ _) fun piece hpiece => ?_
  rcases List.mem_cons.1 hpiece with rfl | hpiece
  · decide
  rcases List.mem_cons.1 hpiece with rfl | hpiece
  · decide
  rw [List.mem_singleton.1 hpiece]
  exact h.not_mem_slash

lemma checkPath_path (h : IsFileName name) :
    Disk.checkPath (Backend.path Disk.chatFolder name) = .ok () := by
  have hjoin : Text.join "/" ["content", "chat_data", chatFile name] =
      "content/chat_data/" ++ chatFile name := by
    change "content" ++ "/" ++ ("chat_data" ++ "/" ++ chatFile name) = _
    rw [show "content/chat_data/" = "content" ++ "/" ++ "chat_data" ++ "/" from by decide]
    simp only [String.append_assoc]
  have hsize := h.2.2
  rw [path_chatFolder h, hjoin, Disk.checkPath, if_neg, if_neg, if_neg]
  · rw [String.utf8ByteSize_append]
    have hfolder : "content/chat_data/".utf8ByteSize = 18 := by decide
    rw [Disk.maxNameSize] at hsize
    rw [hfolder, Disk.maxPathSize, chatFile]
    omega
  · simp [chatFile]
  · simp [chatFile, h.2.1]

namespace Disk

variable {d : Disk}

/-- The folders of conversations are there, and of every name that can be that of a file there is
the conversation, or no file where it is empty. -/
structure Shelves (d : Disk) (store : String → History) : Prop where
  outer : d.node? ["content"] = some .folder
  inner : d.node? ["content", "chat_data"] = some .folder
  chats : ∀ name, IsFileName name →
    d.node? ["content", "chat_data", chatFile name] = some (.file (.chat (store name))) ∨
      d.node? ["content", "chat_data", chatFile name] = none ∧ store name = []

namespace Shelves

lemma enter_outer (h : d.Shelves store) : d.enter [] "content" = .ok ["content"] := by
  rw [enter, if_neg (by decide), if_neg (by decide), show [] ++ ["content"] = ["content"] from rfl,
    h.outer]
  rfl

lemma walk (h : d.Shelves store) :
    d.walk [] ["content", "chat_data"] = .ok ["content", "chat_data"] := by
  have hinner : d.enter ["content"] "chat_data" = .ok ["content", "chat_data"] := by
    rw [enter, if_neg (by decide), if_neg (by decide),
      show ["content"] ++ ["chat_data"] = ["content", "chat_data"] from rfl, h.inner]
    rfl
  rw [Disk.walk, List.foldlM_cons, h.enter_outer, ok_bind, List.foldlM_cons, hinner, ok_bind]
  rfl

lemma follow (h : d.Shelves store) (hn : IsFileName name) :
    d.follow (Backend.path chatFolder name) =
      .ok (.named ["content", "chat_data"] (chatFile name) false) := by
  have hpath : (Backend.path chatFolder name).toList.head? = some 'c' := by
    rw [path_chatFolder hn]
    simp [Text.join]
  have hemp : (chatFile name).isEmpty = false := by simp [chatFile]
  have hdot : chatFile name ≠ "." := fun heq => by
    have hlen := congrArg (fun s : String => s.toList.length) heq
    simp [chatFile] at hlen
  have hdots : chatFile name ≠ ".." := fun heq => by
    have hlen := congrArg (fun s : String => s.toList.length) heq
    simp [chatFile] at hlen
  rw [Disk.follow, checkPath_path hn, ok_bind, hpath, split_path hn]
  simp only [List.reverse_cons, List.reverse_nil, List.nil_append, List.cons_append,
    List.dropWhile_cons, hemp, Bool.false_eq_true, if_false]
  rw [if_neg (by decide), h.walk, ok_bind, if_neg hdot, if_neg hdots]
  rfl

lemma isOrdinary (name : String) : IsOrdinary ["content", "chat_data", chatFile name] := by
  simp [IsOrdinary, isAroundTop, outerTop]

lemma checkName (hn : IsFileName name) : Disk.checkName (chatFile name) = .ok () :=
  if_neg (Nat.not_lt.2 hn.2.2)

lemma read (h : d.Shelves store) (hname : IsFileName name) :
    (d.read (Backend.path chatFolder name) >>= FileData.history).toOption.getD [] = store name := by
  rw [Disk.read, Disk.find, h.follow hname, ok_bind]
  dsimp only
  rw [checkName hname, ok_bind]
  rcases h.chats name hname with hn | ⟨hn, hstore⟩
  · rw [show ["content", "chat_data"] ++ [chatFile name] = ["content", "chat_data", chatFile name]
      from rfl, hn]
    rfl
  · rw [show ["content", "chat_data"] ++ [chatFile name] = ["content", "chat_data", chatFile name]
      from rfl, hn, hstore]
    rfl

lemma write (h : d.Shelves store) (hname : IsFileName name) (history : History) :
    ∃ d', d.write (Backend.path chatFolder name) (.chat history) = .ok d' ∧
      d'.Shelves (Function.update store name history) := by
  have hn : d.node? ["content", "chat_data", chatFile name] ≠ some .folder := by
    rcases h.chats name hname with hn | ⟨hn, -⟩
    · rw [hn]
      nofun
    · rw [hn]
      nofun
  have hs : d.fileSpot (Backend.path chatFolder name) =
      .ok ["content", "chat_data", chatFile name] := by
    rw [fileSpot, h.follow hname, ok_bind]
    dsimp only
    rw [checkName hname]
    dsimp only [List.cons_append, List.nil_append]
    cases hat : d.node? ["content", "chat_data", chatFile name] with
    | none => rfl
    | some node =>
      cases node with
      | folder => exact absurd hat hn
      | file data => rfl
  refine ⟨d.put ["content", "chat_data", chatFile name] (.file (.chat history)), ?_, ?_, ?_, ?_⟩
  · rw [Disk.write, hs]
    rfl
  · rw [node?_put_of_ne (by simp)]
    exact h.outer
  · rw [node?_put_of_ne (by simp)]
    exact h.inner
  · intro other hoth
    by_cases heq : other = name
    · subst heq
      rw [Function.update_self, node?_put_self (isOrdinary other)]
      exact .inl rfl
    · have hne : ["content", "chat_data", chatFile other] ≠
          ["content", "chat_data", chatFile name] := by
        simpa using fun hf => heq (chatFile_injective hf)
      rw [Function.update_of_ne heq, node?_put_of_ne hne]
      exact h.chats other hoth

lemma congr (h : d.Shelves store) (hsame : ∀ name, IsFileName name → store name = store' name) :
    d.Shelves store' :=
  ⟨h.outer, h.inner, fun name hn => by rw [← hsame name hn]; exact h.chats name hn⟩

lemma makeFolders (h : d.Shelves store) : d.makeFolders chatFolder = .ok d := by
  have hcont : d.find "content" = .ok (["content"], .folder) := by
    rw [find, show d.follow "content" = .ok (.named [] "content" false) from rfl, ok_bind]
    dsimp only [List.nil_append]
    rw [h.outer]
    rfl
  have hfol : d.follow chatFolder = .ok (.named ["content"] "chat_data" false) := by
    have hwalk : d.walk [] ["content"] = .ok ["content"] := by
      rw [Disk.walk, List.foldlM_cons, h.enter_outer]
      rfl
    rw [Disk.follow, show Text.split '/' chatFolder = ["content", "chat_data"] from by decide]
    exact congrArg (· >>= fun here => pure (Goal.named here "chat_data" false)) hwalk
  have hchats : d.find chatFolder = .ok (["content", "chat_data"], .folder) := by
    rw [find, hfol, ok_bind]
    dsimp only [List.cons_append, List.nil_append]
    rw [h.inner]
    rfl
  rw [Disk.makeFolders, show beginnings chatFolder = ["content"] from by decide, List.foldlM_cons,
    has, hcont]
  change (if d.isFolder chatFolder = true then pure d else d.makeFolder chatFolder) = .ok d
  rw [isFolder, hchats]
  rfl

end Shelves

end Disk

/-! ## What is kept -/

lemma Json.equal_str (j : Json) (s : String) : j.equal (.str s) = decide (j = .str s) := by
  cases j <;> rfl

namespace ChatStore

/-- Where conversations are kept. -/
def place (c : ChatStore) : Backend :=
  match c.mode with
  | .missing | .down => .files Disk.chatFolder
  | _ => .server

lemma find?_keep (c : ChatStore) (name other : String) (history : History) :
    ({ c with server := keep c.server (.str name) history } : ChatStore).find? (.str other) =
      if other = name then some history else c.find? (.str other) := by
  have hrs (rows : List (Json × History)) :
      ((keep rows (.str name) history).find? fun row => row.1.equal (.str other)).map (·.2) =
        if other = name then some history
        else (rows.find? fun row => row.1.equal (.str other)).map (·.2) := by
    induction rows with
    | nil => grind [keep, Json.equal_str]
    | cons row rows ih => grind [keep, Json.equal_str]
  exact hrs c.server

end ChatStore

/-- The conversations that are kept, by name, in a place that is open. -/
structure Backing.Holds (c : Backing) (store : String → History) : Prop where
  writable : c.chats.mode ≠ .readOnly
  place : c.backend = c.chats.place
  kept : match c.backend with
    | .server => ∀ name, IsFileName name → (c.chats.find? (.str name)).getD [] = store name
    | .files _ => c.disk.Shelves store

/-- The conversations that are kept, by name, once their place is open. -/
def Backing.Ready (c : Backing) (store : String → History) : Prop :=
  ∃ disk, Holds { c with disk } store ∧
    (c.backend ≠ .server → c.disk.makeFolders Disk.chatFolder = .ok disk)

namespace Backing

section

variable (h : c.Holds store)
include h

lemma Holds.backend_eq :
    c.backend = .server ∧ c.chats.mode = .up ∨ c.backend = .files Disk.chatFolder ∧
      (c.chats.mode = .down ∨ c.chats.mode = .missing) := by
  have hplace := h.place
  rw [ChatStore.place] at hplace
  cases hm : c.chats.mode with
  | readOnly => exact absurd hm h.writable
  | up => rw [hm] at hplace; exact .inl ⟨hplace, rfl⟩
  | down => rw [hm] at hplace; exact .inr ⟨hplace, .inl rfl⟩
  | missing => rw [hm] at hplace; exact .inr ⟨hplace, .inr rfl⟩

lemma Holds.server (hback : c.backend = .server) (hn : IsFileName name) :
    (c.chats.find? (.str name)).getD [] = store name := by
  have hkept := h.kept
  rw [hback] at hkept
  exact hkept name hn

lemma Holds.files {folder : String} (hback : c.backend = .files folder) :
    c.disk.Shelves store := by
  have hkept := h.kept
  rw [hback] at hkept
  exact hkept

lemma Holds.ready : c.Ready store := by
  refine ⟨c.disk, h, fun hback => ?_⟩
  rcases h.backend_eq with ⟨hsrv, -⟩ | ⟨hfiles, -⟩
  · exact absurd hsrv hback
  · exact (h.files hfiles).makeFolders

lemma Holds.congr
    (hsame : ∀ name, IsFileName name → store name = store' name) : c.Holds store' := by
  refine ⟨h.writable, h.place, ?_⟩
  rcases h.backend_eq with ⟨hback, -⟩ | ⟨hback, -⟩
  · rw [hback]
    exact fun name hn => (h.server hback hn).trans (hsame name hn)
  · rw [hback]
    exact (h.files hback).congr hsame

lemma Holds.of_log (log : List Notice) : Holds { c with log } store :=
  ⟨h.writable, h.place, h.kept⟩

lemma Holds.kept_eq (hn : IsFileName name) (v : World) :
    (v.backed c).kept c.backend name = store name := by
  rcases h.backend_eq with ⟨hback, -⟩ | ⟨hback, -⟩
  · rw [hback]
    exact h.server hback hn
  · rw [hback]
    exact (h.files hback).read hn

end

end Backing

namespace World

def hushed (v : World) : World := { v with log := [] }

end World

namespace Game

open World

lemma exists_chooseBackend_backed (h : c.Ready store) (v : World) :
    ∃ c', c'.Holds store ∧ c'.backend = c.backend ∧
      chooseBackend.runOn (v.backed c) = (.ok c.backend, v.hushed.backed c') := by
  obtain ⟨disk, hholds, hfold⟩ := h
  have hopen (log : List Notice) (hback : c.backend = .files Disk.chatFolder) :
      (openFiles Disk.chatFolder).runOn { v.backed c with log } =
        (.ok c.backend, v.hushed.backed { c with disk, log }) := by
    have hd : c.disk.makeFolders Disk.chatFolder = .ok disk :=
      hfold (by rw [hback]; nofun)
    exact (run_openFiles (w := { v.backed c with log }) hd).trans
      (Prod.ext (congrArg Except.ok hback.symm) rfl)
  rcases hholds.backend_eq with ⟨hback, hm⟩ | ⟨hback, hm⟩
  · refine ⟨{ c with log := .line "Using Redis for chat storage" :: (v.backed c).log },
      ⟨hholds.writable, hholds.place, ?_⟩, rfl, ?_⟩
    · have hsrv (name : String) (hn : IsFileName name) :
          (c.chats.find? (.str name)).getD [] = store name := hholds.server hback hn
      dsimp only at hback ⊢
      rw [hback]
      exact hsrv
    · have hchats : (v.backed c).chats.mode = .up := hm
      rw [chooseBackend, run_get_bind, hchats]
      exact Prod.ext (congrArg Except.ok hback.symm) rfl
  · have hrun : ∃ log, chooseBackend.runOn (v.backed c) =
        (.ok c.backend, v.hushed.backed { c with disk, log }) := by
      rw [chooseBackend, run_get_bind]
      rcases hm with hm | hm
      · have hchats : (v.backed c).chats.mode = .down := hm
        rw [hchats]
        dsimp only
        rw [run_note_bind]
        exact ⟨_, hopen _ hback⟩
      · have hchats : (v.backed c).chats.mode = .missing := hm
        rw [hchats]
        dsimp only
        rw [print, run_note_bind]
        exact ⟨_, hopen _ hback⟩
    obtain ⟨log, hrun⟩ := hrun
    exact ⟨{ c with disk, log }, hholds.of_log log, rfl, hrun⟩

lemma exists_newAgent_backed (h : c.Ready store) (hn : IsFileName name) (v : World) :
    ∃ c', c'.Holds store ∧ c'.backend = c.backend ∧ (newAgent (.str name)).runOn (v.backed c) =
      (.ok { name, backend := c.backend, history? := some (store name) }, v.hushed.backed c') := by
  obtain ⟨c1, hholds, hback, hchoose⟩ := exists_chooseBackend_backed h v
  obtain ⟨log, hl⟩ := exists_loadChat c.backend name (v.hushed.backed c1)
  refine ⟨{ c1 with log }, hholds.of_log log, hback, ?_⟩
  rw [← hback, hholds.kept_eq hn] at hl
  rw [newAgent, bind_ok hchoose, ← hback, bind_ok hl]
  rfl

lemma exists_saveChat_backed (h : c.Holds store) (hn : IsFileName name) (history : History)
    (v : World) : ∃ c', c'.Holds (Function.update store name history) ∧ c'.backend = c.backend ∧
      (saveChat c.backend (.str name) history).runOn (v.backed c) =
        (.ok (), v.hushed.backed c') := by
  rcases h.backend_eq with ⟨hback, hm⟩ | ⟨hback, hm⟩
  · let chats : ChatStore :=
      { c.chats with server := ChatStore.keep c.chats.server (.str name) history }
    let log := Notice.line ("Chat saved under key: " ++ name) :: (v.backed c).log
    refine ⟨{ c with chats, log }, ⟨h.writable, h.place, ?_⟩, rfl, ?_⟩
    · dsimp only
      rw [hback]
      intro other hoth
      rw [ChatStore.find?_keep]
      by_cases heq : other = name
      · rw [if_pos heq, heq, Function.update_self]
        rfl
      · rw [if_neg heq, Function.update_of_ne heq]
        exact h.server hback hoth
    · have hwritable : ¬(v.backed c).chats.mode = .readOnly := h.writable
      have hsave : saveChat c.backend = saveChat .server := congrArg saveChat hback
      rw [hsave, saveChat, run_get_bind, if_neg hwritable]
      rfl
  · obtain ⟨disk, hwrite, hshelves⟩ := (h.files hback).write hn history
    let log := Notice.line ("Chat saved under key: " ++ name) :: (v.backed c).log
    refine ⟨{ c with disk, log }, ⟨h.writable, h.place, ?_⟩, rfl, ?_⟩
    · dsimp only
      rw [hback]
      exact hshelves
    · have hd : (v.backed c).disk.write (Backend.path Disk.chatFolder name) (.chat history) =
          .ok disk := hwrite
      have hsave : saveChat c.backend = saveChat (.files Disk.chatFolder) :=
        congrArg saveChat hback
      rw [hsave, saveChat, run_tryCatch, writeChat, run_get_bind,
        show (Json.str name).shown = name from rfl, run_lift_bind hd]
      rfl

end Game

end TileQuest
