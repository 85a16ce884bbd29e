import TileQuest.Chat.Basic

/-!
# Files and folders

The disk is a tree of folders and files. A `Spot` is a place in it, the names on the way from the
top. A path is a text: names divided by slashes, where an empty name and `.` stay in the folder and
`..` goes back to the one around it. `Disk.walk` follows the names of a path one after the other,
and the first name that cannot be followed tells what is wrong with the path.
-/

namespace TileQuest

inductive FileData where
  | bytes (data : List UInt8)
  | chat (history : History)
deriving Inhabited

/-- The bytes of a file. Of a conversation only the first one matters: no text starts with it. -/
def FileData.content : FileData → List UInt8
  | bytes data => data
  | chat _ => [0x80]

/-- A place on the disk: the names on the way to it from the top. -/
abbrev Spot := List String

/-- What can be in a place on the disk. -/
inductive Node where
  | folder
  | file (data : FileData)
deriving Inhabited

/-- The folders and files below the top. -/
structure Disk where
  nodes : List (Spot × Node) := []
deriving Inhabited

namespace Disk

def maxNameSize : Nat := 255

def maxPathSize : Nat := 4096

/-- The top of what paths that begin with a slash lead to. It is not the top of the others. -/
def outerTop : Spot := ["/"]

def isAroundTop (spot : Spot) : Bool := spot.all (· == "..")

def node? (d : Disk) (spot : Spot) : Option Node :=
  if isAroundTop spot || spot == outerTop then some .folder
  else (d.nodes.find? fun row => row.1 == spot).map (·.2)

def put (d : Disk) (spot : Spot) (node : Node) : Disk :=
  { nodes := d.nodes.filter (fun row => row.1 != spot) ++ [(spot, node)] }

def erase (d : Disk) (spot : Spot) : Disk :=
  { nodes := d.nodes.filter fun row => row.1 != spot }

/-! ## Following a path -/

/-- The folder around a place. Around the top there are further folders, about which nothing is
known; around the outer top there is none. -/
def around (spot : Spot) : Spot :=
  if spot = outerTop then spot
  else if isAroundTop spot then spot ++ [".."]
  else spot.dropLast

def checkName (name : String) : Except Fault Unit :=
  if maxNameSize < name.utf8ByteSize then .error .fileNameTooLong else .ok ()

def enter (d : Disk) (here : Spot) (name : String) : Except Fault Spot :=
  if name = "" ∨ name = "." then .ok here
  else if name = ".." then .ok (around here)
  else do
    checkName name
    match d.node? (here ++ [name]) with
    | some .folder => return here ++ [name]
    | some (.file _) => throw .notAFolder
    | none => throw .noSuchFile

/-- From a folder along names of folders. -/
def walk (d : Disk) (here : Spot) (names : List String) : Except Fault Spot :=
  names.foldlM d.enter here

inductive Goal where
  | folder (spot : Spot)
  | named (folder : Spot) (name : String) (endsInSlash : Bool)
deriving Inhabited

def checkPath (path : String) : Except Fault Unit :=
  if path.toList.contains '\x00' then .error .badFileName
  else if path.isEmpty then .error .noSuchFile
  else if maxPathSize ≤ path.utf8ByteSize then .error .fileNameTooLong
  else .ok ()

def follow (d : Disk) (path : String) : Except Fault Goal := do
  checkPath path
  let start := if path.toList.head? = some '/' then outerTop else []
  let names := Text.split '/' path
  let trimmed := names.reverse.dropWhile (·.isEmpty)
  match trimmed with
  | [] => return .folder start
  | last :: before =>
    let here ← d.walk start before.reverse
    if last = "." then return .folder here
    if last = ".." then return .folder (around here)
    return .named here last (decide (trimmed.length < names.length))

def find (d : Disk) (path : String) : Except Fault (Spot × Node) := do
  match ← d.follow path with
  | .folder spot => return (spot, .folder)
  | .named folder name endsInSlash =>
    checkName name
    let spot := folder ++ [name]
    match d.node? spot with
    | none => throw .noSuchFile
    | some .folder => return (spot, .folder)
    | some (.file data) => if endsInSlash then throw .notAFolder else return (spot, .file data)

def has (d : Disk) (path : String) : Bool := (d.find path).isOk

def isFolder (d : Disk) (path : String) : Bool := d.find path matches .ok (_, .folder)

/-! ## Files -/

def read (d : Disk) (path : String) : Except Fault FileData := do
  match ← d.find path with
  | (_, .folder) => throw .isFolder
  | (_, .file data) => return data

/-- Where the file at the end of a path is, or will be once it is written. -/
def fileSpot (d : Disk) (path : String) : Except Fault Spot := do
  match ← d.follow path with
  | .folder _ => throw .isFolder
  | .named folder name endsInSlash =>
    if endsInSlash then throw .isFolder
    checkName name
    let spot := folder ++ [name]
    match d.node? spot with
    | some .folder => throw .isFolder
    | _ => return spot

def write (d : Disk) (path : String) (data : FileData) : Except Fault Disk := do
  return d.put (← d.fileSpot path) (.file data)

/-- Write more bytes into the file in a place. -/
def append (d : Disk) (spot : Spot) (data : List UInt8) : Disk :=
  match d.node? spot with
  | some (.file (.bytes old)) => d.put spot (.file (.bytes (old ++ data)))
  | _ => d.put spot (.file (.bytes data))

def delete (d : Disk) (path : String) : Except Fault Disk := do
  match ← d.find path with
  | (_, .folder) => throw .isFolder
  | (spot, .file _) => return d.erase spot

/-! ## Folders -/

def namesIn (d : Disk) (folder : Spot) : List String :=
  d.nodes.filterMap fun row => if row.1.dropLast = folder then row.1.getLast? else none

/-- The names in the folder at the end of a path. -/
def list (d : Disk) (path : String) : Except Fault (List String) := do
  match ← d.find path with
  | (spot, .folder) => return d.namesIn spot
  | (_, .file _) => throw .notAFolder

def makeFolder (d : Disk) (path : String) : Except Fault Disk := do
  match ← d.follow path with
  | .folder _ => throw .fileExists
  | .named folder name _ =>
    checkName name
    let spot := folder ++ [name]
    if (d.node? spot).isSome then throw .fileExists
    return d.put spot .folder

/-- The beginnings of a path that end before one of its slashes, the shortest first. -/
def beginnings (path : String) : List String :=
  let names := Text.split '/' path
  ((List.range (names.length - 1)).map fun k => Text.join "/" (names.take (k + 1))).filter
    fun beginning => !beginning.isEmpty

/-- Make the folder at the end of a path and all folders on the way, unless it is there. -/
def makeFolders (d : Disk) (path : String) : Except Fault Disk := do
  let d ← (beginnings path).foldlM (fun (d : Disk) (beginning : String) =>
    if d.has beginning then pure d else d.makeFolder beginning) d
  if d.isFolder path then return d
  d.makeFolder path

def size (d : Disk) : Nat :=
  d.nodes.foldl (fun (n : Nat) (row : Spot × Node) => match row.2 with
    | .file data => n + data.content.length
    | .folder => n) 0

/-! ## The folders of the game -/

def mapFolder : String := "content/maps"

def scriptFolder : String := "content/npcs"

def chatFolder : String := "content/chat_data"

/-- A disk with nothing but the folders of the game. The one for conversations is made when it is
needed. -/
def initial : Disk :=
  { nodes := [["content"], ["content", "maps"], ["content", "npcs"]].map fun spot =>
      (spot, .folder) }

/-- The disk with one more file, and the folders on the way to it. -/
def provide (d : Disk) (path : String) (data : List UInt8) : Disk :=
  let prepared := (beginnings path).foldl (fun (d : Disk) (beginning : String) =>
    ((d.makeFolder beginning).toOption).getD d) d
  ((prepared.write path (.bytes data)).toOption).getD prepared

def filesIn (d : Disk) (folder : Spot) : List (String × List UInt8) :=
  d.nodes.filterMap fun row =>
    match row with
    | (spot, .file (.bytes data)) =>
      if spot.dropLast = folder then spot.getLast?.map fun name => (name, data) else none
    | _ => none

end Disk

end TileQuest
