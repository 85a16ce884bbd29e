import TileQuest.Text.LetterCase
import TileQuest.Text.Split

/-!
# What the characters know about each other

`Cast.neighborInfo` answers a question about the neighbors. A question that names one of them is
answered with what is known of the first one named; then the words of the question decide,
whereabouts before trades before goods.
-/

namespace TileQuest.Cast

structure Neighbor where
  name : String
  role : String
  location : String
  details : String
deriving DecidableEq, Inhabited

def nancy : Neighbor := ⟨"Nancy", "Diamond Seller", "Mid Forest", "Sells diamonds."⟩

def albert : Neighbor := ⟨"Albert", "Axe Seller", "West Forest", "Sells Axe."⟩

def bob : Neighbor := ⟨"Bob - the eye", "Know it all", "East Forest", "Knows about everything"⟩

def amy : Neighbor :=
  ⟨"Amy", "Crazy physicist", "East Forest", "A mad person who talks about physics all the time"⟩

/-- All neighbors, in the order in which they are looked through. -/
def neighbors : List Neighbor := [nancy, albert, bob, amy]

def mentions (folded : List Char) (word : String) : Bool := Text.occursIn word.toList folded

/-- A text holds a plain small word, whatever the case of its letters. -/
def tells (text word : String) : Bool := mentions (Text.lowerAscii text) word

def blanks (n : Nat) : String := String.ofList (List.replicate n ' ')

def headcount : String := "There are " ++ toString neighbors.length ++
  " NPCs available in the forest. "

/-- All that is known, in one paragraph. -/
def everything : String :=
  headcount ++
  nancy.name ++ " is a " ++ nancy.role ++ " located in " ++ blanks 8 ++ nancy.location ++
  ". Her character details indicate she " ++ blanks 12 ++ nancy.details ++ " " ++
  albert.name ++ " is a " ++ albert.role ++ " who can be " ++ blanks 8 ++ "found in " ++
  albert.location ++ ". His character details show he " ++ blanks 12 ++ albert.details ++
  bob.name ++ " has the role of " ++ bob.role ++ " and " ++ blanks 8 ++ "is located in " ++
  bob.location ++ ". His character details state he " ++ blanks 12 ++ bob.details ++
  amy.name ++ " is a " ++ amy.role ++ " situated in " ++ amy.location ++ ". " ++ blanks 16 ++
  "Her character details describe her as " ++ amy.details

/-- The answer to a question about the neighbors. -/
def neighborInfo (query : String) : String :=
  let folded := Text.lowerAscii query
  let anyOf (words : List String) : Bool := words.any (mentions folded)
  let seller? (goods : String) : Option Neighbor :=
    if mentions folded goods then neighbors.find? fun n => tells n.details goods else none
  match neighbors.find? fun n => mentions folded (String.ofList (Text.lowerAscii n.name)) with
  | some n =>
    "Information about " ++ n.name ++ ":\nRole: " ++ n.role ++ "\nLocation: " ++ n.location ++
      "\nDetails: " ++ n.details
  | none =>
    if anyOf ["where", "location", "find", "located"] then
      Text.join "\n" (neighbors.map fun n =>
        n.name ++ " (" ++ n.role ++ ") is located at " ++ n.location ++ ".")
    else if anyOf ["sell", "buy", "shop", "merchant", "role", "job"] then
      Text.join "\n" (neighbors.map fun n => n.name ++ " is a " ++ n.role ++ " - " ++ n.details)
    else
      match seller? "diamond" with
      | some n => n.name ++ " sells diamonds. Location: " ++ n.location
      | none =>
        match seller? "axe" with
        | some n => n.name ++ " sells axes. Location: " ++ n.location
        | none => if anyOf ["neighbors"] then headcount else everything

end TileQuest.Cast
