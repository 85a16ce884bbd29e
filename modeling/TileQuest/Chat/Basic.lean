import TileQuest.Cast.Character
import TileQuest.Json.Arithmetic

/-!
# Conversations and where they are kept

A conversation is a list of messages. Conversations are kept on a chat server, or in files of a
folder when the server cannot be used. What the language model will answer is given as a list of
outcomes, and every call of the model is written down.
-/

namespace TileQuest

inductive Role where
  | human
  | ai
deriving DecidableEq, Inhabited

structure Message where
  role : Role
  text : Json
deriving DecidableEq, Inhabited

abbrev History := List Message

inductive ServerMode where
  | down
  | up
  | readOnly
  | missing
deriving DecidableEq, Inhabited

/-- Where a character's conversation is kept. -/
inductive Backend where
  | server
  | files (folder : String)
deriving DecidableEq, Inhabited

structure ChatStore where
  mode : ServerMode := .down
  server : List (Json × History) := []
deriving Inhabited

/-- What comes of a call of the model. -/
inductive Outcome where
  | refused (text : String)
  | failed (text : String)
  | answer (j : Json)
deriving Inhabited

/-- A call of the model: the question and the conversation it came with. -/
structure Call where
  query : Json
  history : History
deriving DecidableEq, Inhabited

/-- A character's side of a conversation with the model. -/
structure Agent where
  name : String
  backend : Backend
  history? : Option History
deriving Inhabited

def Agent.character (a : Agent) : Cast.Character := .ofName a.name

/-- The conversation that goes with a question. -/
def Agent.messages (a : Agent) : History := a.history?.getD []

end TileQuest
