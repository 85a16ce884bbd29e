import TileQuest.Json.Parser
import TileQuest.Text.LetterCase

/-!
# Replies of the model

A reply is a JSON object with a list of things to say, whether something is sold, and the tools
that were used. Truth values may also be given as numbers or words, and tool names as numbers. No
member can have a reserved name.
-/

namespace TileQuest

structure Reply where
  response : List Json
  isSell : Bool
  toolsUsed : List String
deriving Inhabited

namespace Reply

def truth? : Json → Option Bool
  | .bool b => some b
  | .num x => if x.same 1 then some true else if x.same 0 then some false else none
  | .str s =>
    let word := String.ofList (Text.lowerAscii s)
    if ["1", "on", "t", "true", "y", "yes"].contains word then some true
    else if ["0", "off", "f", "false", "n", "no"].contains word then some false
    else none
  | _ => none

def name? : Json → Option String
  | .str s => some s
  | .num x => some (x.text)
  | .bool b => some (if b then "True" else "False")
  | _ => none

def ofMembers? (j : Json) : Option Reply := do
  let response ← match j.member? "response" with
    | some (.arr items) => some items
    | _ => none
  let isSell ← (j.member? "isSell").bind truth?
  let tools ← match j.member? "tools_used" with
    | some (.arr items) => items.mapM name?
    | _ => none
  return { response, isSell, toolsUsed := tools }

/-- The reply that a JSON value stands for, none of whose members has a reserved name. -/
def ofJson (reserved : List String) (j : Json) : Except Fault Reply :=
  match j with
  | .obj members =>
    if members.any (reserved.contains ·.1) then .error .wrongSort
    else
      match ofMembers? j with
      | some reply => .ok reply
      | none => .error .badReply
  | _ => .error .wrongSort

def ofAnswer (reserved : List String) (answer : Json) : Except Fault Reply :=
  match answer with
  | .obj _ =>
    match answer.member? "output" with
    | some (.str text) => do ofJson reserved (← Json.parse text)
    | _ => .error .wrongSort
  | _ => .error .absent

end Reply

end TileQuest
