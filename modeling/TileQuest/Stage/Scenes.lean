import TileQuest.Area.Loading
import TileQuest.Stage.Widgets

/-!
# The stages of the game

The game is in one stage at a time. Switching to a stage deletes everything there was and builds
the scene of the stage.
-/

namespace TileQuest

namespace Game

/-! ## The menu -/

def half (n : Int) : Scalar := .ofRat (mkRat n 2)

def placeMenuLine (text : String) : Game PartId := placeLabel regularFont text 80 0 0

def addButton (line : PartId) (action : Action) : Game Unit := do
  let area ← bounds line
  addPart (← owner line) (← newButton action area)

def buildMenu : Game Unit := do
  let _ ← placeSprite "main_menu.png" 0 0
  let newGame ← placeMenuLine "New Game"
  let editor ← placeMenuLine "Editor"
  let quit ← placeMenuLine "Quit Game"
  addButton newGame .startPlay
  addButton editor .openChooser
  addButton quit .quit
  let camera := (← get).camera
  let newGameWidth := (← bounds newGame).w
  let quitWidth := (← bounds quit).w
  let left ← (half camera.w).sub (half newGameWidth)
  moveEntity (← owner newGame) left (camera.h - 500 : Int)
  moveEntity (← owner editor) left (camera.h - 350 : Int)
  moveEntity (← owner quit) (← (half camera.w).sub (half quitWidth)) (camera.h - 200 : Int)

/-! ## The choice of a map -/

def templateMap : String := "template.map"

def mapNames : Game (List String) := do
  let names ← (← get).disk.list Disk.mapFolder
  return (names.filter (· != templateMap)).mergeSort fun a b => decide (a ≤ b)

/-- Build the choice of a map to edit. -/
def buildChooser : Game Unit := do
  let _ ← placeSprite "background2.png" 0 0
  let maps ← mapNames
  let left ← (half (← get).camera.w).sub (half 500)
  let _ ← placeLabelButton .backToMenu boldFont (.str "Back") 32 10 10
  let _ ← placeLabel boldFont "Create New Map" 32 left 20
  let field ← placeTextField { font := boldFont, text := .str "Test" } left 100
  modifyEditor ({ · with newMap? := some field })
  let button ← newButton .createMap (← bounds field)
  let add ← newLabel boldFont (.str "Add") 32
  let _ ← spawn [button, add] (left.shift 420) 100
  let _ ← placeLabel boldFont "Load Map" 32 left 150
  let area ← ScrollView.outline 500 500
  let _ ← placeList
    { items := .arr (maps.map .str), showsImages := false, onChoose := .loadMap, itemSize := 32,
      area }
    left 200

/-! ## The map editor -/

def placeToolButton (action : Action) (icon : String) (position : Nat) : Game Unit := do
  let button ← newButton action { w := 60, h := 60 }
  let ground ← newSprite "button_background.png" true
  let _ ← spawn [button, ground, ← newSprite icon true] 2 (2 + 64 * position : Nat)

def buildEditor : Game Unit := do
  modifyEditor ({ · with tool := .str "Click", toolEntities? := some [] })
  let _ ← openArea (← get).editor.file true
  let _ ← spawn [← newEditorHelper .useTool] 0 0
  placeToolButton (.setTool "Click") "mouse_tool.png" 0
  placeToolButton (.setTool "Tile") "tile_tool.png" 1
  placeToolButton (.setTool "Save") "save.png" 2
  placeToolButton (.setTool "Entity") "entity.png" 3
  placeToolButton (.setTool "Delete") "trash.png" 4
  placeToolButton .leaveEditor "cancel.png" 5

/-! ## Switching -/

def buildDemo : Game Unit := do
  let _ ← placeTextField { font := boldFont, text := .str "Test" } 0 0
  let area ← ScrollView.outline 200 500
  let _ ← placeList
    { items := .arr (["Eggs", "Ham", "Cheese", "Bread"].map .str), showsImages := false,
      onChoose := .unfit, itemSize := 50, area } 200 200

def build : Scene → Game Unit
  | .menu => buildMenu
  | .play => do let _ ← openArea (.str "forest.map") false
  | .chooser => buildChooser
  | .editor => buildEditor
  | .demo => buildDemo
  | .blank => return

def switchTo (stage : String) : Game Unit := do
  reset
  modify ({ · with stage? := some stage })
  let scene ← lookup (← get).scenes stage
  print ("Switching to " ++ stage)
  build scene

end Game

end TileQuest
