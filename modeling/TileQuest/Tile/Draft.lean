import TileQuest.Tile.Map

/-!
# Ground that nobody checked

Ground can be laid from any value. An array of arrays of tiles is a map as it should be
(`TileMap`). Of any other value, a draft, only so much works as the value allows: rows and tiles
are counted and looked up in texts as well as in arrays, and a tile is changed where there is room
for one. The tiles that an object has under whole numbers are kept beside the rows
(`TileDraft.numbered`).

The draft of a map is as solid as the map, at every point and in every rectangle
(`TileDraft.pointIsSolid_ofMap`, `TileDraft.rectIsSolid_ofMap`).
-/

namespace TileQuest

/-- Ground that was laid from a value of any sort. -/
structure TileDraft where
  rows : Json
  /-- The tiles that rows which are objects got under a number: the row, the number, the tile. -/
  numbered : List (Nat × Nat × Json) := []
deriving DecidableEq, Inhabited

namespace TileDraft

def ofMap (m : TileMap) : TileDraft := { rows := .arr (m.rows.map .arr) }

/-- The draft of a text is that of the map written in it, and every other value has none. -/
def ofText : Json → Except Fault TileDraft
  | .str text => do return ofMap (← TileMap.ofText text)
  | _ => .error .absent

def numberedIn (d : TileDraft) (row : Nat) : List (Nat × Json) :=
  (d.numbered.filter (·.1 == row)).map (·.2)

def rowLength (d : TileDraft) (row : Nat) : Except Fault Nat := do
  return (← (← d.rows.item row).length) + (d.numberedIn row).length

def tile (d : TileDraft) (column row : Nat) : Except Fault Json :=
  match (d.numberedIn row).find? (·.1 == column) with
  | some (_, tile) => .ok tile
  | none => do (← d.rows.item row).item column

def spans (d : TileDraft) (column row : Int) : Except Fault Bool := do
  if column < 0 ∨ row < 0 then return false
  if (← d.rows.length) ≤ row.toNat then return false
  return column.toNat < (← d.rowLength row.toNat)

/-! ## What is solid -/

def pointIsSolid (d : TileDraft) (x y : Json) : Except Fault Bool := do
  let column ← TileMap.cell x
  let row ← TileMap.cell y
  if ← d.spans column row then
    return (← TileKind.ofTile (← d.tile column.toNat row.toNat)).isSolid
  else return true

def rectIsSolid (d : TileDraft) (x y width height : Json) : Except Fault Bool :=
  TileMap.touches d.pointIsSolid x y width height

/-! ## Drafts of maps -/

theorem spans_ofMap (m : TileMap) (column row : Int) :
    (ofMap m).spans column row = .ok (m.tile? column row).isSome := by
  unfold spans TileMap.tile?
  by_cases hneg : column < 0 ∨ row < 0
  · simp [hneg, pure, Except.pure]
  · simp only [hneg, if_false, ofMap, Json.length, Json.listed, List.length_map, bind, Except.bind,
      pure, Except.pure, rowLength, Json.item, entry_natCast, numberedIn, List.filter_nil,
      List.map_nil, List.length_nil]
    by_cases h : row.toNat < m.rows.length
    · have h' : ¬ m.rows.length ≤ row.toNat := by omega
      by_cases hc : column.toNat < m.rows[row.toNat].length <;> simp [h, h', hc]
    · have h' : m.rows.length ≤ row.toNat := by omega
      simp [h, h']

theorem tile_ofMap {m : TileMap} {column row : Int} {tile : Json}
    (h : m.tile? column row = some tile) :
    (ofMap m).tile column.toNat row.toNat = .ok tile := by
  unfold TileMap.tile? at h
  split at h
  · cases h
  · obtain ⟨tiles, hrow, htile⟩ := Option.bind_eq_some_iff.1 h
    simp only [ofMap, TileDraft.tile, numberedIn, List.filter_nil, List.map_nil, List.find?_nil,
      Json.item, entry_natCast, List.getElem?_map, hrow, htile, Option.map_some, bind, Except.bind]

theorem pointIsSolid_ofMap (m : TileMap) (x y : Json) :
    (ofMap m).pointIsSolid x y = m.pointIsSolid x y := by
  unfold pointIsSolid TileMap.pointIsSolid
  refine bind_congr fun column => bind_congr fun row => ?_
  rw [spans_ofMap]
  cases h : m.tile? column row with
  | none => rfl
  | some tile => simp [tile_ofMap h, bind, Except.bind]

/-- A rectangle touches a solid tile of the draft of a map if it touches one of the map. -/
theorem rectIsSolid_ofMap (m : TileMap) (x y width height : Json) :
    (ofMap m).rectIsSolid x y width height = m.rectIsSolid x y width height := by
  unfold rectIsSolid TileMap.rectIsSolid
  rw [show (ofMap m).pointIsSolid = m.pointIsSolid from
    funext fun x => funext fun y => pointIsSolid_ofMap m x y]

/-! ## Changing tiles -/

def withRow (d : TileDraft) (row : Nat) (tiles : List Json) : TileDraft :=
  match d.rows with
  | .arr rows => { d with rows := .arr (rows.set row (.arr tiles)) }
  | _ => d

def withNumbered (d : TileDraft) (column row : Nat) (tile : Json) : TileDraft :=
  { d with numbered := (d.numbered.filter fun t => !(t.1 == row && t.2.1 == column)) ++
      [(row, column, tile)] }

/-- The draft with another tile at a point. A point outside changes nothing. -/
def setTile (d : TileDraft) (x y tile : Json) : Except Fault TileDraft := do
  let column ← TileMap.cell x
  let row ← TileMap.cell y
  if ← d.spans column row then
    match ← d.rows.item row with
    | .arr tiles => return d.withRow row.toNat (tiles.set column.toNat tile)
    | .obj _ => return d.withNumbered column.toNat row.toNat tile
    | _ => throw .wrongSort
  else return d

/-! ## The whole draft -/

/-- A row, with the tiles that it got under a number as further members. -/
def shownRow (d : TileDraft) (content : Json) (row : Nat) : Json :=
  match content with
  | .obj members => .obj (members ++ (d.numberedIn row).map fun t => (toString t.1, t.2))
  | content => content

def shown (d : TileDraft) : Json :=
  match d.rows with
  | .arr rows => .arr (rows.zipIdx.map fun (content, row) => d.shownRow content row)
  | rows => rows

def writeRows : List Json → TileMap.Written
  | [] => TileMap.writeTiles []
  | row :: rest =>
    match row.listed with
    | .error fault => { bytes := [], warnings := 0, fault? := some fault }
    | .ok tiles =>
      let written := TileMap.writeTiles tiles
      if written.fault?.isSome then written
      else
        let w := writeRows rest
        { w with bytes := written.bytes ++ w.bytes, warnings := written.warnings + w.warnings }

/-- The tiles of the draft, row by row, two bytes for each. -/
def write (d : TileDraft) : TileMap.Written :=
  match d.rows.listed with
  | .error fault => { bytes := [], warnings := 0, fault? := some fault }
  | .ok rows => writeRows rows

def draw (d : TileDraft) (camera : Rect) : Except Fault (List Draw) :=
  TileMap.drawTiles camera (d.rowLength 0) d.rows.length fun row =>
    .ok fun column => d.tile column.toNat row.toNat

end TileDraft

end TileQuest
