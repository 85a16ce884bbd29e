import TileQuest.Fault

/-!
# What can be placed on a map

Every record of a map file starts with the number of a factory, which tells what the record makes
and which arguments it takes.
-/

namespace TileQuest

/-- A sort of entity that can be placed on a map. -/
structure Factory where
  name : String
  /-- The image that stands for it in the editor. -/
  icon : String
  argNames : List String := []
  defaults : List String := []
deriving DecidableEq, Inhabited

namespace Factory

def teleporter (name icon : String) : Factory :=
  { name, icon, argNames := ["Area File", "Player X", "Player Y"],
    defaults := ["forest.map", "1", "1"] }

def all : List Factory :=
  [{ name := "Player", icon := "player.png" },
    { name := "Pine Tree", icon := "tree.png" },
    { name := "Rock", icon := "rock.png" },
    teleporter "Teleporter Up" "teleporter_up.png",
    teleporter "Teleporter Right" "teleporter_right.png",
    teleporter "Teleporter Down" "teleporter_down.png",
    teleporter "Teleporter Left" "teleporter_left.png",
    { name := "Dropped Item", icon := "diamond.png", argNames := ["Item Type ID", "Quantity"],
      defaults := ["1", "1"] },
    { name := "NPC", icon := "npc_female1.png", argNames := ["NPC Name", "Sprite", "NPC File"],
      defaults := ["Amy", "npc_female1.png", "amy.npc"] },
    { name := "Enemy", icon := "npc_female2.png", argNames := ["Sprite"],
      defaults := ["npc_female2.png"] }]

end Factory

end TileQuest
