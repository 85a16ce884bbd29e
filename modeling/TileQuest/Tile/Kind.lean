import TileQuest.Json.Arithmetic

/-!
# Kinds of tiles

The ground is made of tiles of these kinds. A tile is the signed position of its kind in the list;
any other value has no kind.
-/

namespace TileQuest

structure TileKind where
  name : String
  image : String
  isSolid : Bool
deriving DecidableEq, Inhabited

namespace TileKind

def all : List TileKind :=
  [⟨"dirt", "dirt.png", false⟩, ⟨"grass", "grass.png", false⟩, ⟨"water", "water.png", true⟩,
    ⟨"wood", "wood.png", false⟩, ⟨"rock", "rock_tile.png", false⟩, ⟨"sand", "sand.png", false⟩,
    ⟨"lava", "lava.png", true⟩, ⟨"ice", "ice.png", false⟩]

def ofTile (tile : Json) : Except Fault TileKind := do entry all (← tile.toIndex)

end TileKind

end TileQuest
