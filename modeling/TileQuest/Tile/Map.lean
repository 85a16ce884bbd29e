import TileQuest.Picture.Draw
import TileQuest.Text.Split
import TileQuest.Tile.Kind

/-!
# Tile maps

The ground of an area is a list of rows of tiles; rows may differ in length. A tile is a number as
a rule (`TileKind`), and 32 pixels wide and high. A pixel coordinate falls into the tile whose
column or row is the coordinate divided by 32 and cut off toward zero, and everything outside the
rows is solid.

`TileMap.rectIsSolid` looks at points of a rectangle only: on a walk from its upper left corner,
each step starting where the last one ended, and at the other corners as seen from where it ended.
-/

namespace TileQuest

structure TileMap where
  rows : List (List Json)
deriving DecidableEq, Inhabited

namespace TileMap

/-- The width and height of a tile in pixels. -/
def tileSize : Nat := 32

/-- The number of the tile column or row that a pixel coordinate falls into. -/
def cell (coordinate : Json) : Except Fault Int := do
  (← (← coordinate.toScalar).div tileSize).trunc

def tile? (m : TileMap) (column row : Int) : Option Json :=
  if column < 0 ∨ row < 0 then none
  else (m.rows[row.toNat]?).bind fun tiles => tiles[column.toNat]?

/-! ## Walks through rectangles

The walk is the same whatever decides that a point is solid. -/

/-- One row of the walk through a rectangle: `left` more steps, the next of them by `step` tiles
across and `rowStep` tiles down. The result is where the walk ended, or none at a solid point. -/
def walkRow (isSolid : Json → Json → Except Fault Bool) (rowStep : Nat) :
    (left step : Nat) → (x y : Json) → Except Fault (Option (Json × Json))
  | 0, _, x, y => .ok (some (x, y))
  | left + 1, step, x, y => do
    let x ← Json.plus (.ofInt (step * tileSize : Nat)) x
    let y ← Json.plus (.ofInt (rowStep * tileSize : Nat)) y
    if ← isSolid x y then return none
    walkRow isSolid rowStep left (step + 1) x y

/-- The walk through a rectangle of `columns` tiles, with `left` more rows. -/
def walk (isSolid : Json → Json → Except Fault Bool) (columns : Nat) :
    (left rowStep : Nat) → (x y : Json) → Except Fault (Option (Json × Json))
  | 0, _, x, y => .ok (some (x, y))
  | left + 1, rowStep, x, y => do
    match ← walkRow isSolid rowStep columns 0 x y with
    | none => return none
    | some (x, y) => walk isSolid columns left (rowStep + 1) x y

/-- The rectangle is solid at one of the points looked at. -/
def touches (isSolid : Json → Json → Except Fault Bool) (x y width height : Json) :
    Except Fault Bool := do
  let columns ← (← (← width.toScalar).div tileSize).ceil
  let rows ← (← (← height.toScalar).div tileSize).ceil
  match ← walk isSolid columns.toNat rows.toNat 0 x y with
  | none => return true
  | some (x, y) =>
    let right ← x.plus width
    if ← isSolid right y then return true
    let bottom ← y.plus height
    if ← isSolid x bottom then return true
    isSolid right bottom

/-! ## What is solid -/

def pointIsSolid (m : TileMap) (x y : Json) : Except Fault Bool := do
  let column ← cell x
  let row ← cell y
  match m.tile? column row with
  | none => return true
  | some tile => return (← TileKind.ofTile tile).isSolid

def rectIsSolid (m : TileMap) (x y width height : Json) : Except Fault Bool :=
  touches m.pointIsSolid x y width height

/-! ## Changing tiles -/

/-- The map with another tile at a point. A point outside the rows changes nothing. -/
def setTile (m : TileMap) (x y tile : Json) : Except Fault TileMap := do
  let column ← cell x
  let row ← cell y
  match m.tile? column row with
  | none => return m
  | some _ => return { rows := m.rows.modify row.toNat fun tiles => tiles.set column.toNat tile }

/-! ## Text form -/

/-- The tiles of a line: every character is one digit. -/
def rowOfLine (line : String) : Except Fault (List Json) :=
  line.toList.mapM fun c => do return .ofInt (← Text.parseInt (String.singleton c))

/-- The map written as lines of digits; empty lines are passed over. -/
def ofText (text : String) : Except Fault TileMap := do
  let rows ← (Text.split '\n' text).mapM rowOfLine
  return { rows := rows.filter fun row => !row.isEmpty }

/-! ## Binary form -/

/-- What was written before the end, or before a tile that does not fit. -/
structure Written where
  bytes : List UInt8
  /-- How many tiles looked suspiciously large. -/
  warnings : Nat
  fault? : Option Fault
deriving Inhabited

/-- A tile above this draws a warning when it is written. -/
def largestUsual : Json := 50

/-- A number as two bytes, the low one first. -/
def twoBytes? (n : Int) : Option (List UInt8) :=
  if 0 ≤ n ∧ n < 65536 then some [UInt8.ofNat (n.toNat % 256), UInt8.ofNat (n.toNat / 256)]
  else none

def tileBytes? (tile : Json) : Option (List UInt8) := tile.toIndex.toOption.bind twoBytes?

def writeTiles : List Json → Written
  | [] => { bytes := [], warnings := 0, fault? := none }
  | tile :: rest =>
    match largestUsual.less tile with
    | .error fault => { bytes := [], warnings := 0, fault? := some fault }
    | .ok isLarge =>
      let warning := if isLarge then 1 else 0
      match tileBytes? tile with
      | none => { bytes := [], warnings := warning, fault? := some .badRecord }
      | some bytes =>
        let w := writeTiles rest
        { w with bytes := bytes ++ w.bytes, warnings := warning + w.warnings }

def write (m : TileMap) : Written := writeTiles m.rows.flatten

/-! ## Drawing -/

/-- The numbers from `first` up to, but not including, `last`. -/
def span (first last : Int) : List Int :=
  (List.range (last - first).toNat).map fun (k : Nat) => first + (k : Int)

/-- The tiles in view of ground, given how its rows are looked up and in each row its tiles. The
last row and the last column are left out when the view goes past them. -/
def drawTiles (camera : Rect) (width height : Except Fault Nat)
    (tilesOf : Int → Except Fault (Int → Except Fault Json)) : Except Fault (List Draw) := do
  let firstColumn := max 0 (← cell (.ofInt camera.x))
  let firstRow := max 0 (← cell (.ofInt camera.y))
  let lastColumn := (← cell (.ofInt (camera.x + camera.w))) + 1
  let lastRow := (← cell (.ofInt (camera.y + camera.h))) + 1
  let width : Int := (← width)
  let height : Int := (← height)
  let lastColumn := if lastColumn < width then lastColumn else width - 1
  let lastRow := if lastRow < height then lastRow else height - 1
  let rows ← (span firstRow lastRow).mapM fun row => do
    let tileAt ← tilesOf row
    (span firstColumn lastColumn).mapM fun column => do
      let kind ← TileKind.ofTile (← tileAt column)
      return Draw.blit screen kind.image (.ofInt (column * tileSize - camera.x))
        (.ofInt (row * tileSize - camera.y)) none
  return rows.flatten

def tilesIn (m : TileMap) (row : Int) : Except Fault (Int → Except Fault Json) := do
  let tiles := (← entry m.rows row).toArray
  return fun column => match tiles[column.toNat]? with
    | some tile => .ok tile
    | none => .error .outOfRange

def draw (m : TileMap) (camera : Rect) : Except Fault (List Draw) :=
  drawTiles camera (do return (← entry m.rows 0).length) (.ok m.rows.length) m.tilesIn

end TileMap

end TileQuest
