import TileQuest.Json.Basic

/-!
# Images and what is drawn

An image is a name and a size. The images of the game are the entries of `Image.catalogue`; a
rendered text and a blank surface are images too.
-/

namespace TileQuest

structure Image where
  name : String
  width : Int
  height : Int
deriving DecidableEq, Inhabited

namespace Image

/-- The names of the image files, by size. -/
def catalogue : List ((Int × Int) × List String) :=
  [((60, 60), ["button_background", "cancel", "entity", "mouse_tool", "save", "tile_tool",
      "trash"]),
    ((1280, 720), ["background2", "main_menu"]),
    ((32, 64), ["npc_female1", "npc_female2", "npc_male1", "npc_male2", "player", "tree_old1",
      "tree_old2"]),
    ((128, 256), ["player_sheet", "player_sheet2", "player_sheet3"]),
    ((64, 128), ["tree", "tree_stump"]),
    ((500, 200), ["text_box"]),
    ((32, 32), ["axe", "diamond", "dirt", "grass", "ice", "inventory_slot", "lava", "pickaxe",
      "rock", "rock_tile", "sand", "selected_inventory_slot", "sword", "teleporter_down",
      "teleporter_left", "teleporter_right", "teleporter_up", "water", "wood"])]

def load (file : String) : Except Fault Image :=
  match catalogue.find? fun row => row.2.any fun name => name ++ ".png" == file with
  | some row => .ok { name := file, width := row.1.1, height := row.1.2 }
  | none => .error .noSuchFile

/-- A text rendered in a font of the given size: every character is half as wide as high. -/
def ofText (text : String) (size : Int) : Image :=
  { name := "text:" ++ text, width := text.length * (size / 2), height := size }

/-- A text rendered in a font whose size may have a fraction. The size of the image is whole. -/
def render (text : String) (size : Scalar) : Except Fault Image := do
  let width ← (← Scalar.mul text.length size.half).trunc
  return { name := "text:" ++ text, width, height := ← size.trunc }

def surface (width height : Int) : Image := { name := "surface", width, height }

/-- A blank surface whose size is read as two whole numbers. -/
def cutSurface (width height : Json) : Except Fault Image := do
  return surface (← width.toInt) (← height.toInt)

def scaled (i : Image) (width height : Int) : Image := { i with width, height }

def rotated (i : Image) (angle : Scalar) : Image :=
  if (angle.mod 180).same 90 then { i with width := i.height, height := i.width } else i

end Image

end TileQuest
