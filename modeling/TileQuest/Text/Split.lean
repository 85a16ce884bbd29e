/-!
# Cutting text into pieces

`Text.split` cuts at every occurrence of one character, `Text.join` is its inverse on pieces that
do not hold the character, and `Text.unifyNewlines` is how text files are read: a carriage return,
alone or before a line feed, counts as a line feed.
-/

namespace TileQuest.Text

/-- The pieces between the occurrences of `sep`. There is always at least one. -/
def splitChars (sep : Char) : List Char → List (List Char)
  | [] => [[]]
  | c :: rest =>
    if c = sep then [] :: splitChars sep rest
    else
      match splitChars sep rest with
      | [] => [[c]]
      | piece :: pieces => (c :: piece) :: pieces

/-- The pieces of a text between the occurrences of `sep`. -/
def split (sep : Char) (s : String) : List String :=
  (splitChars sep s.toList).map String.ofList

def join (sep : String) : List String → String
  | [] => ""
  | [piece] => piece
  | piece :: pieces => piece ++ sep ++ join sep pieces

/-- Every line end as a single line feed. -/
def unifyNewlineChars : List Char → List Char
  | '\r' :: '\n' :: rest => '\n' :: unifyNewlineChars rest
  | '\r' :: rest => '\n' :: unifyNewlineChars rest
  | c :: rest => c :: unifyNewlineChars rest
  | [] => []

/-- Every line end of a text as a single line feed. -/
def unifyNewlines (s : String) : String := String.ofList (unifyNewlineChars s.toList)

def occursIn (word : List Char) : List Char → Bool
  | [] => word.isEmpty
  | c :: rest => word.isPrefixOf (c :: rest) || occursIn word rest

def replaceLastChars? (word new : List Char) : List Char → Option (List Char)
  | [] => none
  | c :: rest =>
    match replaceLastChars? word new rest with
    | some replaced => some (c :: replaced)
    | none =>
      if word.isPrefixOf (c :: rest) then some (new ++ (c :: rest).drop word.length) else none

def replaceLast (word new text : String) : String :=
  ((replaceLastChars? word.toList new.toList text.toList).map String.ofList).getD text

end TileQuest.Text
