import TileQuest.World.Basic

/-!
# Keeping conversations

A conversation is kept under a key, on the chat server or in a file. Reading what is not there
gives an empty conversation. Files report what goes wrong and go on; the server does not. The
server takes any value but an array or an object as a key; a file is called by the key's text.
-/

namespace TileQuest

def Backend.path (folder key : String) : String :=
  let name := key ++ ".pkl"
  if name.toList.head? = some '/' then name
  else if folder.isEmpty || folder.toList.getLast? = some '/' then folder ++ name
  else folder ++ "/" ++ name

namespace ChatStore

/-- The server takes a value as a key. -/
def accepts : Json → Bool
  | .arr _ | .obj _ => false
  | _ => true

/-- The conversation that the server keeps under a key. -/
def find? (c : ChatStore) (key : Json) : Option History :=
  (c.server.find? fun row => row.1.equal key).map (·.2)

/-- Conversations with one kept under a key: in place if the key is there, at the end if not. -/
def keep (rows : List (Json × History)) (key : Json) (history : History) :
    List (Json × History) :=
  match rows with
  | [] => [(key, history)]
  | row :: rest =>
    if row.1.equal key then (row.1, history) :: rest else row :: keep rest key history

/-- Conversations without the one kept under a key. -/
def drop (rows : List (Json × History)) (key : Json) : List (Json × History) :=
  rows.filter fun row => !row.1.equal key

/-- The keys on the server, in order. Keys of different sorts have no order. -/
def keys (c : ChatStore) : Except Fault (List Json) :=
  let keys := c.server.map (·.1)
  if keys.length ≤ 1 || keys.all (·.str?.isSome) || keys.all (·.toScalar.toBool) then
    .ok (keys.mergeSort fun a b => (a.atMost b).toOption.getD false)
  else .error .wrongSort

end ChatStore

def FileData.history : FileData → Except Fault History
  | chat history => .ok history
  | bytes [] => .error .chatCutShort
  | bytes _ => .error .notAChat

namespace Game

def modifyServer (f : List (Json × History) → List (Json × History)) : Game Unit :=
  modify fun w => { w with chats := { w.chats with server := f w.chats.server } }

def giveKey (key : Json) : Game Unit := do
  if !ChatStore.accepts key then throw .wrongSort

/-- Files of a folder to keep conversations in. The folder is made if it is not there. -/
def openFiles (folder : String) : Game Backend := do
  let disk ← (← get).disk.makeFolders folder
  modify ({ · with disk })
  return .files folder

/-! ## Saving -/

def reportSaved (key : String) : Game Unit := print ("Chat saved under key: " ++ key)

def writeChat (path key : String) (history : History) : Game Unit := do
  let disk ← (← get).disk.write path (.chat history)
  modify ({ · with disk })
  reportSaved key

def saveChat (backend : Backend) (key : Json) (history : History) : Game Unit := do
  match backend with
  | .server =>
    if (← get).chats.mode = .readOnly then throw .unreachable
    giveKey key
    modifyServer (ChatStore.keep · key history)
    reportSaved key.shown
  | .files folder =>
    tryCatch (writeChat (Backend.path folder key.shown) key.shown history) fun fault =>
      note (.fault "Error saving chat: " fault "")

/-! ## Loading -/

def reportLoaded (key : String) : Game Unit := print ("Chat loaded from key: " ++ key)

def reportNew (key : String) : Game Unit :=
  print ("No existing chat found for key: " ++ key ++ ". Creating new chat history.")

def readChat (path key : String) : Game History := do
  let history ← (← (← get).disk.read path).history
  reportLoaded key
  return history

def loadChat (backend : Backend) (key : Json) : Game History := do
  match backend with
  | .server =>
    giveKey key
    match (← get).chats.find? key with
    | some history =>
      reportLoaded key.shown
      return history
    | none =>
      reportNew key.shown
      return []
  | .files folder =>
    let path := Backend.path folder key.shown
    if (← get).disk.has path then
      tryCatch (readChat path key.shown) fun fault => do
        note (.fault "Error loading chat: " fault "")
        return []
    else
      reportNew key.shown
      return []

/-! ## Deleting -/

def reportDeleted (key : String) : Game Unit := print ("Chat deleted for key: " ++ key)

def deleteFile (path key : String) : Game Unit := do
  let disk ← (← get).disk.delete path
  modify ({ · with disk })
  reportDeleted key

def deleteChat (backend : Backend) (key : Json) : Game Unit := do
  match backend with
  | .server =>
    giveKey key
    modifyServer (ChatStore.drop · key)
    reportDeleted key.shown
  | .files folder =>
    let path := Backend.path folder key.shown
    if (← get).disk.has path then
      tryCatch (deleteFile path key.shown) fun fault =>
        note (.fault "Error deleting chat: " fault "")

end Game

end TileQuest
