import TileQuest.Area.Forest
import TileQuest.Chat.Reply
import TileQuest.Chat.Storage

/-!
# Talking to the model

A character's side of a conversation: it starts from what was kept, asks the model with up to
three attempts when the service refuses, and keeps what was said.
-/

namespace TileQuest

/-- What is said: the first of a list, or the value itself. -/
def Json.firstSaid : Json → Json
  | .arr (first :: _) => first
  | j => j

namespace Agent

def add (history : History) (role : Role) (said : Json) : History :=
  history ++ [{ role, text := said }]

/-- The character after the player said something and, perhaps, the character answered. A
conversation that was dropped starts anew. -/
def hear (a : Agent) (said reply : Json) : Agent :=
  let said := said.firstSaid
  let history := if said.isTruthy then add a.messages .human said else a.messages
  let history := if reply.isTruthy then add history .ai reply.firstSaid else history
  { a with history? := some history }

end Agent

namespace Game

/-- Choose where the conversations of a character are kept. -/
def chooseBackend : Game Backend := do
  match (← get).chats.mode with
  | .missing =>
    print "Redis not available. Using local storage for chat history."
    openFiles Disk.chatFolder
  | .down =>
    note (.fault "Redis connection failed: " .unreachable ". Falling back to local storage.")
    openFiles Disk.chatFolder
  | _ =>
    print "Using Redis for chat storage"
    return .server

/-- A new side of a conversation for a character. What is no name is found out only after the
conversation was read. -/
def newAgent (name : Json) : Game Agent := do
  let backend ← chooseBackend
  let history ← loadChat backend name
  return { name := ← orAbsent name.str?, backend, history? := some history }

def keepChat (a : Agent) : Game Unit := saveChat a.backend (.str a.name) a.messages

/-! ## Asking -/

def invoke (query : Json) (history : History) : Game Json := do
  modify fun w => { w with calls := { query, history } :: w.calls }
  match (← get).outcomes with
  | [] => throw .noAnswer
  | outcome :: rest =>
    modify ({ · with outcomes := rest })
    match outcome with
    | .refused text => throw (.service text)
    | .failed text => throw (.model text)
    | .answer j => return j

/-- Call the model, with so many more attempts after a refusal and so long a pause before the
next one. -/
def ask (query : Json) (history : History) : (more pause : Nat) → Game Json
  | 0, _ => invoke query history
  | more + 1, pause =>
    tryCatch (invoke query history) fun fault =>
      match fault with
      | .service text => do
        note (.fault "API Error: " (.service text)
          (". Retrying in " ++ toString pause ++ " seconds..."))
        note (.sleep pause)
        ask query history more (pause * 2)
      | fault => throw fault

def runAgent (a : Agent) (query : Json) : Game Json := ask query a.messages 2 1

/-- The reply in what the model answered. What is wrong with it is only reported. -/
def structuredReply (answer : Json) : Game (Option Reply) :=
  tryCatch (do return some (← Reply.ofAnswer (← get).reservedNames answer)) fun fault => do
    note (.fault "Error parsing response: " fault "")
    return none

def useModelTool (tool : Cast.Tool) (query : Json) : Game String :=
  match tool with
  | .neighbors => return Cast.neighborInfo (← orAbsent query.str?)
  | .search => return ""
  | .trees => forestReport

end Game

end TileQuest
