import TileQuest.Geometry.Rect
import TileQuest.Json.Arithmetic

/-!
# Drawing operations

What appears on the screen is a list of drawing operations, in the order they were carried out.
-/

namespace TileQuest

/-- A colour, by its channels. Nobody checks them. -/
abbrev Color := List Json

inductive Draw where
  | fill (target : String) (color : Color)
  /-- An image, or a part of it, at a position. Nobody checks the position either. -/
  | blit (target source : String) (x y : Json) (part? : Option Rect)
  | rect (target : String) (color : Color) (area : Rect) (lineWidth : Nat)
deriving DecidableEq, Inhabited

/-- The name of the window as a target. -/
def screen : String := "screen"

end TileQuest
