import TileQuest.Fault

/-!
# Bytes in hexadecimal digits

Every byte is written as two digits, the high one first.
-/

namespace TileQuest

namespace Text

def hexChar (n : Nat) : Char := "0123456789abcdef".toList.getD n '0'

def hexByte (b : UInt8) : List Char := [hexChar (b.toNat / 16), hexChar (b.toNat % 16)]

def hex (bytes : List UInt8) : String := String.ofList (bytes.flatMap hexByte)

def hexValue (c : Char) : Nat := "0123456789abcdef".toList.idxOf c.toLower % 16

/-- The bytes that pairs of digits stand for. -/
def unhexChars : List Char → List UInt8
  | a :: b :: rest => UInt8.ofNat (hexValue a * 16 + hexValue b) :: unhexChars rest
  | _ => []

/-- The bytes that a text of digits stands for. -/
def unhex (s : String) : List UInt8 := unhexChars s.toList

end Text

end TileQuest
