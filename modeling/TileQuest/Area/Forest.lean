import TileQuest.World.Basic

/-!
# The trees of the forest

Where the pine trees of an area stand, told by the quarters of the map. The quarters meet in the
middle of the map less a border of six columns and three rows.
-/

namespace TileQuest

namespace Forest

structure Tree where
  column : Int
  row : Int
  isChopped : Bool
deriving DecidableEq, Inhabited

inductive Quarter where
  | northEast
  | southEast
  | northWest
  | southWest
deriving DecidableEq, Inhabited

def Quarter.all : List Quarter := [.northEast, .southEast, .northWest, .southWest]

/-- What a quarter is called when its trees are counted. -/
def Quarter.name : Quarter → String
  | northEast => "northeast"
  | southEast => "southeast"
  | northWest => "northwest"
  | southWest => "southwest"

def Quarter.direction : Quarter → String
  | northEast => "north-east"
  | southEast => "south-east"
  | northWest => "north-west"
  | southWest => "south-west"

def Tree.quarter (t : Tree) (middleColumn middleRow : Int) : Quarter :=
  if middleColumn ≤ t.column then
    if t.row < middleRow then .northEast else .southEast
  else
    if t.row < middleRow then .northWest else .southWest

/-- The trees of a map, and where its quarters meet. -/
structure Survey where
  trees : List Tree
  middleColumn : Int
  middleRow : Int
deriving Inhabited

namespace Survey

def ofSize (trees : List Tree) (width height : Int) : Survey :=
  { trees, middleColumn := (width - 6) / 2, middleRow := (height - 3) / 2 }

def count (s : Survey) (isChopped : Bool) (q : Quarter) : Nat :=
  s.trees.countP fun t => t.isChopped == isChopped && t.quarter s.middleColumn s.middleRow == q

/-- How many trees are chopped, or are not, in all quarters. -/
def total (s : Survey) (isChopped : Bool) : Nat :=
  Quarter.all.foldl (fun n q => n + s.count isChopped q) 0

/-- The better of two quarters: the one with more trees, the first one if both have as many. -/
def better (s : Survey) (a b : Quarter) : Quarter :=
  if s.count false a < s.count false b then b else a

/-- The first quarter with the most trees. -/
def best (s : Survey) : Quarter := Quarter.all.foldl s.better .northEast

def quarterText (s : Survey) (q : Quarter) : String :=
  "The " ++ q.name ++ " has " ++ toString (s.count false q) ++ " unchopped and " ++
    toString (s.count true q) ++ " chopped trees. "

def report (s : Survey) : String :=
  "There are " ++ toString (s.total false) ++ " unchopped Pine Trees and " ++
    toString (s.total true) ++ " chopped Pine Trees in the forest. " ++
    String.join (Quarter.all.map s.quarterText) ++
    (if 0 < s.count false s.best then
      "The " ++ s.best.direction ++ " quadrant has the most trees with " ++
        toString (s.count false s.best) ++ " unchopped trees available."
    else "There are no unchopped trees available in any quadrant.")

end Survey

end Forest

namespace Game

def countedTree : Json := .str "Pine Tree"

def treeOf (e : Entity) (id : PartId) : Game (List Forest.Tree) := do
  match ← part id with
  | .usable { name, form := .tree _ chopped } =>
    if name = countedTree then
      return [{ column := ← TileMap.cell e.x
                row := (← TileMap.cell e.y) + 1
                isChopped := chopped.isTruthy }]
    else return []
  | _ => return []

def treesOf (id : EntityId) : Game (List Forest.Tree) := do
  let e ← entity id
  return (← e.parts.mapM (treeOf e)).flatten

def forestReport : Game String := do
  let a ← currentArea
  let trees := (← (← area a).entities.mapM treesOf).flatten
  let map ← ground (← groundOf a)
  let width := (← entry map.rows 0).length
  return (Forest.Survey.ofSize trees width map.rows.length).report

end Game

end TileQuest
