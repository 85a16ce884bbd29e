/-!
# Faults

What can go wrong while the game runs. A fault names its cause; the state changed before the
fault arose is kept, as the type of a step in `TileQuest.World.Basic` says.
-/

namespace TileQuest

/-- Why a step of the game broke off. -/
inductive Fault where
  | outOfRange
  /-- A name is not in the table it is looked up in. -/
  | unknownKey
  | notListed
  | badNumeral
  | notANumber
  /-- A part, or a property of it, is not there. -/
  | absent
  /-- A value is of a sort the operation does not take. -/
  | wrongSort
  | noSuchFile
  | isFolder
  /-- The name is that of a file where a folder is needed. -/
  | notAFolder
  | fileExists
  | badFileName
  | fileNameTooLong
  /-- A binary record ends early, or a number does not fit its field. -/
  | badRecord
  | notUtf8
  | divisionByZero
  /-- A number is too large for binary64, or infinite where a whole number is needed. -/
  | overflow
  | noRoom
  /-- A line of dialogue leads to itself without end. -/
  | endless
  /-- Only a map opened in the editor can be saved. -/
  | notEditing
  | noFrames
  /-- The language model's service refused the call. -/
  | service (text : String)
  /-- The language model's call failed for good. -/
  | model (text : String)
  | noAnswer
  /-- The chat server does not answer, or does not take the value. -/
  | unreachable
  | chatCutShort
  | notAChat
  | badJson
  | badReply
  | notInstalled
deriving DecidableEq, Inhabited

namespace Fault

/-- The wording of the faults that the game itself puts into words. -/
def message? : Fault → Option String
  | notEditing => some "Cannot save file, not in editor mode"
  | noFrames => some ("Frame coords needs at least one coordinate. For example, " ++
      "[(0, 0), (0, 1), (0, 2)] will be an \n                            " ++
      "animation of 3 sub-images.")
  | _ => none

/-- The text a fault came with, for the faults that reach the game with a text of their own. -/
def detail? : Fault → Option String
  | service text => some text
  | model text => some text
  | _ => none

end Fault

end TileQuest
