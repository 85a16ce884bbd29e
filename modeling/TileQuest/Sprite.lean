import TileQuest.Picture.Draw
import TileQuest.Picture.Image

/-!
# Sprites

A sprite shows an image. A sheet sprite shows one cell of a larger image, drawn onto a surface of
its own, and an animation walks through a list of cells, `framesPerImage` ticks each. The sizes of
the cells and the list of cells are values that nobody checks before they are used.
-/

namespace TileQuest

/-- The column and row of a cell, in an array as a rule. What has fewer than two items names no
cell. -/
abbrev Cell := Json

namespace Cell

def of (column row : Nat) : Cell := .arr [.ofInt column, .ofInt row]

def coordinates (c : Cell) : Except Fault (Json × Json) := do
  return (← c.item 0, ← c.item 1)

end Cell

/-- The larger image behind a sheet sprite, and the cell that is shown. -/
structure Sheet where
  base : Image
  cellWidth : Json
  cellHeight : Json
  column : Json
  row : Json
deriving DecidableEq, Inhabited

/-- Where the cell that is shown lies in the larger image. -/
def Sheet.corner (s : Sheet) : Except Fault (Json × Json) := do
  let x ← s.column.multiplied s.cellWidth
  let y ← s.row.multiplied s.cellHeight
  return (x, y)

structure Animation where
  frames : Json
  framesPerImage : Json
  current : Nat := 0
  ticks : Nat := 0
deriving DecidableEq, Inhabited

namespace Animation

def tick (a : Animation) : Animation := { a with ticks := a.ticks + 1 }

/-- The cell has been shown long enough. -/
def isOver (a : Animation) : Except Fault Bool := a.framesPerImage.atMost (.ofInt a.ticks)

def next (a : Animation) : Except Fault Animation := do
  let count ← a.frames.length
  return { a with ticks := 0, current := if count ≤ a.current + 1 then 0 else a.current + 1 }

/-- The animation from the start of another list of cells. -/
def restart (a : Animation) (frames : Json) : Animation :=
  { a with frames, ticks := 0, current := 0 }

def cell (a : Animation) : Except Fault (Json × Json) := do
  Cell.coordinates (← a.frames.item a.current)

end Animation

structure Sprite where
  image : Image
  width : Int
  height : Int
  /-- Drawn over the world, at a place on the screen. -/
  isOverlay : Bool := false
  /-- The larger image, for a sheet sprite or an animation. -/
  sheet? : Option Sheet := none
  /-- The walk through its cells, for an animation. -/
  animation? : Option Animation := none
deriving DecidableEq, Inhabited

namespace Sprite

/-- The sprite at `(x, y)`, seen by the camera. It is left out when no part of the image it was
made of is in view. -/
def draw (s : Sprite) (target : String) (camera : Rect) (x y : Json) :
    Except Fault (List Draw) := do
  let px ← if s.isOverlay then pure x else x.minus (.ofInt camera.x)
  let py ← if s.isOverlay then pure y else y.minus (.ofInt camera.y)
  if !(← px.less (.ofInt camera.w)) then return []
  if !(← py.less (.ofInt camera.h)) then return []
  if !(← Json.less 0 (← px.plus (.ofInt s.width))) then return []
  if !(← Json.less 0 (← py.plus (.ofInt s.height))) then return []
  return [.blit target s.image.name px py none]

end Sprite

end TileQuest
