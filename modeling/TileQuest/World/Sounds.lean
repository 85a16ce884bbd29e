import TileQuest.World.Basic

/-!
# Sounds

A sound is a file, loaded once. All uses of one file share its volume.
-/

namespace TileQuest

namespace Game

def soundFiles : List String :=
  ["chop_tree.mp3", "mine_rock.mp3", "pick_up.mp3", "sword1.mp3", "credit.txt"]

def loadSound (file : String) (volume : Json) : Game Unit := do
  if file ∉ soundFiles then throw .noSuchFile
  modify fun w => { w with sounds := store w.sounds file volume }

def playSound (file : String) : Game Unit := do
  if (← get).isAudible then note (.sound file)

def setVolume (file : String) (volume : Json) : Game Unit :=
  modify fun w => { w with sounds := store w.sounds file volume }

end Game

end TileQuest
