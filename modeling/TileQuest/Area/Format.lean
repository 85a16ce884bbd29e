import TileQuest.Text.LetterCase
import TileQuest.Text.Utf8
import TileQuest.Tile.Map

/-!
# Map files

A binary map file starts with the byte zero. Then follow the version, the width and the height in
four bytes each, the low one first, the tiles row by row in two bytes each, and the records of the
entities, each ended by the byte zero. A record is a line of words divided by commas: the number of
a factory, a column, a row, and the arguments.

Any other map file is a text: lines of digits for the tiles, a line with a minus sign, and a record
per line.
-/

namespace TileQuest

namespace MapFile

/-- The name of the area that a map file holds: the part of its name before the first dot, every
word starting with a capital letter, and blanks for underscores. -/
def areaName (file : String) : String :=
  Text.underscoresToBlanks (Text.titleCase ((Text.split '.' file).headD ""))

/-! ## Numbers -/

/-- The first two bytes as a number, and the rest. -/
def readShort : List UInt8 → Except Fault (Int × List UInt8)
  | a :: b :: rest => .ok ((a.toNat + 256 * b.toNat : Nat), rest)
  | _ => .error .badRecord

/-- The first four bytes as a signed number, and the rest. -/
def readLong : List UInt8 → Except Fault (Int × List UInt8)
  | a :: b :: c :: d :: rest =>
    let n : Int := (a.toNat + 256 * (b.toNat + 256 * (c.toNat + 256 * d.toNat)) : Nat)
    .ok (if n < 2147483648 then n else n - 4294967296, rest)
  | _ => .error .badRecord

def writeLong (n : Int) : List UInt8 :=
  let n := (n % 4294967296).toNat
  [UInt8.ofNat (n % 256), UInt8.ofNat (n / 256 % 256), UInt8.ofNat (n / 65536 % 256),
    UInt8.ofNat (n / 16777216)]

/-- A number that fits in four bytes reads back as it was written. -/
theorem readLong_writeLong {n : Int} (hlo : -2147483648 ≤ n) (hhi : n < 2147483648)
    (rest : List UInt8) : readLong (writeLong n ++ rest) = .ok (n, rest) := by
  simp only [writeLong, readLong, List.cons_append, List.nil_append, UInt8.toNat_ofNat',
    Except.ok.injEq, Prod.mk.injEq, and_true]
  split <;> omega

/-! ## Tiles -/

/-- A row of tiles, after the ones read so far in reverse, and the rest. -/
def readRow : (width : Nat) → List Json → List UInt8 → Except Fault (List Json × List UInt8)
  | 0, row, bytes => .ok (row.reverse, bytes)
  | width + 1, row, bytes => do
    let (n, rest) ← readShort bytes
    readRow width (.ofInt n :: row) rest

/-- Rows of tiles, after the ones read so far in reverse, and the rest. -/
def readRows (width : Nat) :
    (height : Nat) → List (List Json) → List UInt8 → Except Fault (List (List Json) × List UInt8)
  | 0, rows, bytes => .ok (rows.reverse, bytes)
  | height + 1, rows, bytes => do
    let (row, rest) ← readRow width [] bytes
    readRows width height (row :: rows) rest

/-- The tiles of a binary map file, after its first byte, and the rest. -/
def readTiles (bytes : List UInt8) : Except Fault (TileMap × List UInt8) := do
  let (_, bytes) ← readLong bytes
  let (width, bytes) ← readLong bytes
  let (height, bytes) ← readLong bytes
  let (rows, rest) ← readRows width.toNat height.toNat [] bytes
  return ({ rows }, rest)

/-! ## Records -/

/-- The records at the end of a binary map file. What follows the last byte zero is left out. -/
def readRecords (bytes : List UInt8) : Except Fault (List String) := do
  return (Text.split '\x00' (← Text.decode bytes)).dropLast

structure Record where
  factory : Json
  column : Int
  row : Int
  args : List String
deriving DecidableEq, Inhabited

def Record.ofLine (line : String) : Except Fault Record := do
  let words := Text.split ',' line
  let factory ← Text.parseInt (← entry words 0)
  let column ← Text.parseInt (← entry words 1)
  let row ← Text.parseInt (← entry words 2)
  return { factory := .ofInt factory, column, row, args := words.drop 3 }

def Record.line (r : Record) : String :=
  r.factory.shown ++ "," ++ toString r.column ++ "," ++ toString r.row ++
    (if r.args.isEmpty then "" else "," ++ Text.join "," r.args)

def Record.write (r : Record) : List UInt8 := Text.encode r.line ++ [0]

/-! ## The binary form -/

/-- The start of a binary map file: the version, the width and the height. -/
def writeHead (width height : Int) : List UInt8 :=
  [0] ++ writeLong 1 ++ writeLong width ++ writeLong height

/-- A binary map file of tiles, row by row, and the lines of records. -/
def write (width height : Int) (tiles : List Json) (lines : List String) : List UInt8 :=
  writeHead width height ++ (TileMap.writeTiles tiles).bytes ++
    lines.flatMap fun line => Text.encode line ++ [0]

/-! ## The text form -/

/-- The tiles and the records of a map file in the text form. -/
structure Parts where
  tiles : String
  records : List String
deriving Inhabited

def readText (bytes : List UInt8) : Except Fault String := do
  return Text.unifyNewlines (← Text.decode bytes)

def halves (text : String) : Except Fault Parts := do
  let chunks := Text.split '-' text
  return { tiles := ← entry chunks 0, records := (Text.split '\n' (← entry chunks 1)).drop 1 }

end MapFile

end TileQuest
