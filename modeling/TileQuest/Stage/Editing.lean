import TileQuest.Stage.Scenes

/-!
# The tools of the map editor

What the map editor does with a click: select an entity, paint tiles, place or delete an entity.
A newly placed entity starts from the arguments that its factory keeps, and shares them: what is
typed into its fields changes them for all entities that still start from them.
-/

namespace TileQuest

namespace Game

/-- Take down what is on the screen for the tool. -/
def clearToolEntities : Game Unit := do
  match (← get).editor.toolEntities? with
  | none => throw .wrongSort
  | some entities =>
    entities.forM deleteEntity
    modifyEditor ({ · with toolEntities? := some [] })

/-- Something more is on the screen for the tool. -/
def addToolEntity (e : EntityId) : Game Unit :=
  modifyEditor fun ed => { ed with toolEntities? := ed.toolEntities?.map (· ++ [e]) }

/-! ## Tools -/

/-- Where the lists of the editor stand. -/
def listLeft (camera : Rect) : Scalar := (camera.w - 38 : Int)

def showEntityList : Game Unit := do
  let camera := (← get).camera
  let area ← ScrollView.outline 64 camera.h
  addToolEntity (← placeList
    { items := .arr (Factory.all.map fun f => .str f.icon), showsImages := true,
      onChoose := .setEntity, itemSize := 68, area } (listLeft camera) 0)

/-- Show the tiles to choose from, and the field for the size of the brush. -/
def showTileList : Game Unit := do
  let camera := (← get).camera
  let _ ← currentMap
  let area ← ScrollView.outline 32 camera.h
  addToolEntity (← placeList
    { items := .arr (TileKind.all.map fun k => .str k.image), showsImages := true,
      onChoose := .setTile, itemSize := 36, area } (listLeft camera) 0)
  let label ← placeLabel regularFont "Brush Size" 32 0 (camera.h - 50 : Int)
  let brush ← placeTextField { font := regularFont, text := .str "1", maxText := 1 }
    ((← bounds label).w + 5 : Int) (camera.h - 50 : Int)
  modifyEditor ({ · with brush? := some brush })
  addToolEntity (← owner label)
  addToolEntity (← owner brush)

def saveMap : Game Unit := do saveFile (← currentArea) (← get).editor.file

def setTool (tool : Json) : Game Unit := do
  modifyEditor ({ · with tool })
  print ("Tool has been set to " ++ tool.shown)
  match (← get).editor.toolEntities? with
  | none => throw .wrongSort
  | some entities =>
    entities.forM fun e => do
      deleteEntity e
      modifyEditor ({ · with brush? := none })
    modifyEditor ({ · with toolEntities? := some [] })
  if tool = .str "Save" then saveMap
  if tool = .str "Entity" then showEntityList
  if tool = .str "Tile" then showTileList

def setMapFile (file : Json) : Game Unit := modifyEditor ({ · with file })

def setTileNumber (tile : Json) : Game Unit := modifyEditor ({ · with tile })

def setEntityNumber (entity : Json) : Game Unit := modifyEditor ({ · with entity })

/-! ## Painting tiles -/

/-- Set a square of tiles, given its upper left point and how many tiles it is wide. -/
def paintTiles (map : TileMap) (x y : Json) (size : Nat) (tile : Json) : Except Fault TileMap :=
  (List.range size).foldlM (fun (map : TileMap) (down : Nat) =>
    (List.range size).foldlM (fun (map : TileMap) (across : Nat) => do
      map.setTile (← x.plus (.ofInt (across * 32 : Nat))) (← y.plus (.ofInt (down * 32 : Nat)))
        tile) map) map

def brushTiles (x y : Json) : Game Unit := do
  let w ← get
  let size ← (← label (← orAbsent w.editor.brush?)).text.toInt
  if 0 < size then
    let g ← currentGround
    setGround g (← paintTiles (← ground g) x y size.toNat w.editor.tile)

def worldPoint (mouseX mouseY : Json) : Game (Scalar × Scalar) := do
  let camera := (← get).camera
  let x ← (← mouseX.toScalar).add camera.x
  let y ← (← mouseY.toScalar).add camera.y
  return (x, y)

/-- Paint tiles at a point of the screen. What goes wrong with the brush is only reported. -/
def placeTile (mouseX mouseY : Json) : Game Unit := do
  let (x, y) ← worldPoint mouseX mouseY
  tryCatch (brushTiles x y) fun fault => note (.fault "Error placing tile " fault "")

/-! ## Entities -/

/-- Place an entity at a point of the screen, unless the tile is taken. -/
def placeEntity (mouseX mouseY : Json) : Game Unit := do
  let (x, y) ← worldPoint mouseX mouseY
  let _ ← currentMap
  let column ← TileMap.cell x
  let row ← TileMap.cell y
  let number := (← get).editor.entity
  let index ← number.toIndex
  let factory ← entry Factory.all index
  let args := Args.defaults ((signedIndex? Factory.all.length index).getD 0)
  placePlaceholder (← currentArea) factory.icon { factory := number, args }
    (column * 32 : Int) (row * 32 : Int)

def lookSize? (e : EntityId) : Game (Option Image) := do
  match ← find? e Part.isSprite with
  | none => return none
  | some id => return some (← sprite id).image

def isInImage (left top : Scalar) (image : Image) (x y : Scalar) : Except Fault Bool := do
  if !left.lt x then return false
  if !top.lt y then return false
  if !x.lt (← left.add image.width) then return false
  return y.lt (← top.add image.height)

/-- The first of the entities whose image a point lies in. -/
def entityAt? (x y : Scalar) : List EntityId → Game (Option EntityId)
  | [] => return none
  | e :: rest => do
    match ← lookSize? e with
    | none => entityAt? x y rest
    | some image =>
      let (left, top) ← entityPoint e
      if ← isInImage left top image x y then return some e
      else entityAt? x y rest

/-- The entity of the area at a point of the screen. -/
def entityUnder? (mouseX mouseY : Json) : Game (Option EntityId) := do
  let (x, y) ← worldPoint mouseX mouseY
  entityAt? x y (← area (← currentArea)).entities

/-- Delete the entity at a point of the screen. -/
def deleteAt (mouseX mouseY : Json) : Game Unit := do
  match ← entityUnder? mouseX mouseY with
  | some e => deleteEntity e
  | none => return

/-! ## Arguments -/

def showArgument (p : PartId) (name : String) (index : Nat) (x : Int) : Game Unit := do
  let camera := (← get).camera
  let label ← placeLabel regularFont name 32 x (camera.h - 100 : Int)
  let values ← argValues (← placeholder p).args
  let field ← placeTextField
    { font := regularFont, text := .str (← entry values index), maxText := 1, width := 200,
      onChange? := some .saveArgs } x (camera.h - 50 : Int)
  modifyEditor fun ed => { ed with fields := ed.fields ++ [field] }
  addToolEntity (← owner label)
  addToolEntity (← owner field)

def selectEntity (e : EntityId) : Game Unit := do
  modifyEditor ({ · with fields := [], selected? := some e })
  let p ← find e Part.isPlaceholder
  let factory ← entry Factory.all (← (← placeholder p).factory.toIndex)
  clearToolEntities
  let camera := (← get).camera
  let title ← placeLabel regularFont (factory.name ++ ": ") 32 0 (camera.h - 50 : Int)
  addToolEntity (← owner title)
  let left := (← bounds title).w
  factory.argNames.zipIdx.forM fun (name, index) =>
    showArgument p name index (left + 220 * index)

/-- Select the entity at a point of the screen. -/
def selectAt (mouseX mouseY : Json) : Game Unit := do
  match ← entityUnder? mouseX mouseY with
  | some e => selectEntity e
  | none => return

def setArgument (p : PartId) (index : Nat) (value : String) : Game Unit := do
  let args := (← placeholder p).args
  let values ← argValues args
  if values.length ≤ index then throw .outOfRange
  match args with
  | .own values =>
    modifyPart p fun part => match part with
      | .placeholder q => .placeholder { q with args := .own (values.set index value) }
      | part => part
  | .defaults k => modify fun w => { w with defaults := w.defaults.set k (values.set index value) }

/-- Keep what was typed into the fields of the selected entity. -/
def saveArgs : Game Unit := do
  let e ← orAbsent (← get).editor.selected?
  let p ← find e Part.isPlaceholder
  (← get).editor.fields.zipIdx.forM fun (field, index) => do
    match (← label field).text with
    | .str value => setArgument p index value
    | _ => throw .wrongSort

/-! ## Clicks -/

/-- The point belongs to the screen of the editor itself, not to the map: it lies in the list at
the right edge, among the tools, or in the line of fields at the bottom. -/
def isOffMap (camera : Rect) (x y : Except Fault Scalar) : Except Fault Bool := do
  if Scalar.lt (camera.w - 38 : Int) (← x) then return true
  if (← x).lt 64 then
    if (← y).lt 256 then return true
  return Scalar.lt (camera.h - 50 : Int) (← y)

def useTool : Game Unit := do
  let w ← get
  if ← isOffMap w.camera w.input.mouse.1 w.input.mouse.2 then return
  let x ← w.input.mouse.1
  let y ← w.input.mouse.2
  match w.editor.tool with
  | .str "Click" => selectAt x y
  | .str "Tile" => placeTile x y
  | .str "Entity" => placeEntity x y
  | .str "Delete" => deleteAt x y
  | _ => return

def leaveEditor : Game Unit := do
  clearToolEntities
  modifyEditor ({ · with selected? := none, tool := .str "Click" })
  switchTo "EditorChooseFile"

/-! ## New maps -/

def mapEnding : List Char := ".map".toList

def isMapName (name : String) : Bool := mapEnding.isSuffixOf name.toList

/-- Copy the template into a map file. A name that no file can have is refused first. -/
def copyTemplate (name : String) : Game Unit := do
  if name.contains '\x00' then throw .badFileName
  let template ← (← get).disk.read (mapPath templateMap)
  let disk ← (← get).disk.write (mapPath name) template
  modify ({ · with disk })

/-- Make a new map, a copy of the template, and edit it. -/
def createMap : Game Unit := do
  let field ← orAbsent (← get).editor.newMap?
  let text ← match (← label field).text with
    | .str s => pure s
    | _ => throw .wrongSort
  let name := if isMapName text then text else text ++ ".map"
  if !isMapName text then
    let maxText ← match ← part field with
      | .textField _ f => f.maxText.plus 5
      | _ => throw .absent
    modifyField field ({ · with maxText })
    say field name
  if (← get).disk.has (mapPath name) then
    print ("Error, map already exists: " ++ name)
  else
    copyTemplate name
    setMapFile (.str name)
    switchTo "EditorEditMap"

/-! ## Actions -/

def perform : Action → Game Unit
  | .startPlay => switchTo "Play"
  | .openChooser => switchTo "EditorChooseFile"
  | .quit => modify ({ · with isRunning := false })
  | .backToMenu => switchTo "Menu"
  | .createMap => createMap
  | .setTool tool => setTool (.str tool)
  | .leaveEditor => leaveEditor
  | .useTool => useTool
  | .saveArgs => saveArgs
  | .unfit => throw .wrongSort
  | .gone => throw .absent
  | .note tag => modify fun w => { w with uses := .used tag :: w.uses }

def choose (choice : Choice) (item : Json) (index : Int) : Game Unit := do
  match choice with
  | .loadMap =>
    print ("Loading map " ++ item.shown)
    setMapFile item
    switchTo "EditorEditMap"
  | .setTile => setTileNumber (.ofInt index)
  | .setEntity => setEntityNumber (.ofInt index)
  | .unfit => throw .wrongSort
  | .note tag => modify fun w => { w with uses := .chosen tag item index :: w.uses }

end Game

end TileQuest
