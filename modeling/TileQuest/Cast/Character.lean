import TileQuest.Cast.Instructions
import TileQuest.Cast.Neighbors

/-!
# The cast

Four characters answer through the language model. Each has instructions and tools; a name that
is none of theirs, in any case of letters, is played by Nancy.
-/

namespace TileQuest.Cast

inductive Character where
  | nancy
  | albert
  | bob
  | amy
deriving DecidableEq, Inhabited

/-- Two texts are the same but for the case of letters, the second being plain and small. -/
def isNamed (name word : String) : Bool := Text.lowerAscii name == word.toList

def Character.ofName (name : String) : Character :=
  if isNamed name "albert" then .albert
  else if isNamed name "bob" then .bob
  else if isNamed name "amy" then .amy
  else .nancy

/-- What the language model may look up. -/
inductive Tool where
  | neighbors
  | search
  | trees
deriving DecidableEq, Inhabited

def Tool.name : Tool → String
  | neighbors => "get_neighbor_info"
  | search => "search"
  | trees => "get_forest_tree_info"

/-- What the model is told about a tool. -/
def Tool.description : Tool → String
  | neighbors =>
    "Provides details about other NPCs, including their names, roles, position" ++ blanks 20 ++
    "in map, and whether they can sell things or what they sell. Use this tool when asked about " ++
    blanks 20 ++ "nearby characters, neighbors, or if the player is looking to buy something or " ++
    "looking for something.\n" ++ blanks 20
  | search =>
    "Search the web for information. Use this when asked for " ++ blanks 8 ++
    "recent information like game result, weather, game information " ++ blanks 8 ++
    "and recent releases."
  | trees =>
    "Provides details about available choppable trees. Use this tool when asked about " ++
    blanks 20 ++ "forest trees or available choppable trees.\n" ++ blanks 20

def Character.tools : Character → List Tool
  | nancy => [.neighbors]
  | albert => [.neighbors, .trees]
  | bob => [.neighbors, .search, .trees]
  | amy => [.neighbors]

def Character.instructions : Character → Edition → String
  | nancy, .current => nancyCurrent
  | nancy, .earlier => nancyEarlier
  | albert, .current => albertCurrent
  | albert, .earlier => albertEarlier
  | bob, .current => bobCurrent
  | bob, .earlier => bobEarlier
  | amy, .current => amyCurrent
  | amy, .earlier => amyEarlier

/-- A message put to the model with every question, besides the instructions. -/
inductive PromptPart where
  | history
  | message (role text : String)
deriving DecidableEq, Inhabited

/-- The messages put to the model after the instructions. -/
def promptShape : List PromptPart :=
  [.history, .message "human" "\x7bquery\x7d", .message "placeholder" "\x7bagent_scratchpad\x7d"]

/-- What the characters of the cast say first. -/
def greetings : List (String × String) :=
  [("Nancy", "Hi, I'm Nancy!"), ("Albert", "Hey ya mate! Albert here!"),
    ("Amy", "Physics is everything!"), ("Bob", "I see everything!")]

end TileQuest.Cast
