import TileQuest.Area.Format
import TileQuest.Area.Making

/-!
# Loading and saving areas

Loading an area deletes everything there was. A record whose entity cannot be made is reported and
passed over. In the editor every entity is a placeholder, and a record whose place is taken is
passed over silently. A save that breaks off leaves what was written so far.
-/

namespace TileQuest

namespace Game

/-! ## Loading -/

def loadRecord (a : AreaId) (line : String) : Game Unit := do
  let r ← MapFile.Record.ofLine line
  if (← area a).isEdited then
    let factory ← entry Factory.all (← r.factory.toIndex)
    placePlaceholder a factory.icon { factory := r.factory, args := .own r.args }
      (r.column * 32 : Int) (r.row * 32 : Int)
  else
    let e ← createEntity (← r.factory.toIndex) (.ofInt r.column) (.ofInt r.row)
      (.arr (r.args.map .str))
    modifyArea a fun a => { a with entities := a.entities ++ [e] }

def loadRecords (a : AreaId) (lines : List String) : Game Unit :=
  lines.forM fun line =>
    tryCatch (loadRecord a line) fun fault =>
      note (.fault ("Error parsing line: " ++ line ++ ". ") fault "")

def layGround (a : AreaId) (map : TileMap) : Game Unit := do
  let g : GroundId := ⟨(← get).grounds.size⟩
  modify fun w =>
    { w with grounds := w.grounds.push map, background := w.background ++ [.ground g] }
  modifyArea a ({ · with ground? := some g })

def mapPath (file : String) : String := Disk.mapFolder ++ "/" ++ file

def readMap (file : String) : Game (List UInt8) := do
  return (← (← get).disk.read (mapPath file)).content

def loadText (a : AreaId) (file : String) : Game Unit := do
  print "Loading Legacy file"
  reset
  let text ← MapFile.readText (← readMap file)
  modifyArea a ({ · with name? := some (MapFile.areaName file) })
  let halves ← MapFile.halves text
  match TileMap.ofText halves.tiles with
  | .error fault =>
    modify fun w => { w with background := w.background ++ [.unfinished] }
    throw fault
  | .ok map => layGround a map
  modifyArea a ({ · with entities := [] })
  loadRecords a halves.records

/-- Load an area from a map file in the binary form, given what follows its first byte. -/
def loadBinary (a : AreaId) (file : String) (bytes : List UInt8) : Game Unit := do
  modifyArea a ({ · with entities := [], name? := some (MapFile.areaName file) })
  let (map, rest) ← MapFile.readTiles bytes
  layGround a map
  loadRecords a (← MapFile.readRecords rest)

def loadFile (a : AreaId) (file : String) : Game Unit := do
  reset
  match ← readMap file with
  | [] => throw .badRecord
  | first :: bytes =>
    if 128 ≤ first then throw .notUtf8
    if first = 0 then loadBinary a file bytes else loadText a file

/-- Load an area from the map file that a value names. What there was is gone even if the value
is no name. -/
def loadNamed (a : AreaId) (file : Json) : Game Unit := do
  match file.str? with
  | some name => loadFile a name
  | none =>
    reset
    throw .wrongSort

def openArea (file : Json) (isEdited : Bool) : Game AreaId := do
  let a : AreaId := ⟨(← get).areas.size⟩
  modify fun w => { w with areas := w.areas.push { isEdited }, area? := some a }
  loadNamed a file
  return a

def firstWith? (test : Part → Bool) : List EntityId → Game (Option EntityId)
  | [] => return none
  | e :: rest => do
    if ← hasPart e test then return some e
    firstWith? test rest

/-! ## Saving -/

def startMap (file : String) : Game Spot := do
  let spot ← (← get).disk.fileSpot (mapPath file)
  modify fun w => { w with disk := w.disk.put spot (.file (.bytes [])) }
  return spot

def appendBytes (spot : Spot) (bytes : List UInt8) : Game Unit :=
  modify fun w => { w with disk := w.disk.append spot bytes }

/-- The arguments of an entity in the editor. -/
def argValues (args : Args) : Game (List String) := do
  match args with
  | .own values => return values
  | .defaults k => return (← get).defaults.getD k []

def recordOf (e : EntityId) : Game MapFile.Record := do
  let p ← placeholder (← find e Part.isPlaceholder)
  let (x, y) ← entityPlace e
  return { factory := p.factory, column := ← TileMap.cell x, row := ← TileMap.cell y,
           args := ← argValues p.args }

def saveFile (a : AreaId) (file : Json) : Game Unit := do
  if !(← area a).isEdited then throw .notEditing
  let spot ← startMap (← file.toText)
  appendBytes spot ([0] ++ MapFile.writeLong 1)
  let map ← ground (← groundOf a)
  let width := (← entry map.rows 0).length
  appendBytes spot (MapFile.writeLong width ++ MapFile.writeLong map.rows.length)
  let tiles := map.write
  (List.replicate tiles.warnings ()).forM fun _ => print "freak out"
  appendBytes spot tiles.bytes
  match tiles.fault? with
  | some fault => throw fault
  | none => pure ()
  (← area a).entities.forM fun e => do
    appendBytes spot (← recordOf e).write

end Game

end TileQuest
