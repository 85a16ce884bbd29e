import TileQuest.Fault

/-!
# Whole numbers in text

A numeral is an optional sign and decimal digits, with blanks allowed around it and a single
underscore allowed between two digits. A digit of any script counts. `Text.parseInt` reads a
numeral; a numeral of more than `Text.maxDigits` digits is refused.
-/

namespace TileQuest.Text

/-- White space, as it may stand around a numeral. -/
def isBlank (c : Char) : Bool :=
  let n := c.toNat
  (9 ≤ n && n ≤ 13) || n == 32 || n == 0x85 || n == 0xa0 || n == 0x1680 ||
    (0x2000 ≤ n && n ≤ 0x200a) || n == 0x2028 || n == 0x2029 || n == 0x202f || n == 0x205f ||
    n == 0x3000

/-- The code points of the digit zero in every script that has decimal digits. The other nine
follow it. -/
def zeros : List Nat :=
  [0x30, 0x660, 0x6f0, 0x7c0, 0x966, 0x9e6, 0xa66, 0xae6, 0xb66, 0xbe6, 0xc66, 0xce6, 0xd66, 0xde6,
    0xe50, 0xed0, 0xf20, 0x1040, 0x1090, 0x17e0, 0x1810, 0x1946, 0x19d0, 0x1a80, 0x1a90, 0x1b50,
    0x1bb0, 0x1c40, 0x1c50, 0xa620, 0xa8d0, 0xa900, 0xa9d0, 0xa9f0, 0xaa50, 0xabf0, 0xff10, 0x104a0,
    0x10d30, 0x11066, 0x110f0, 0x11136, 0x111d0, 0x112f0, 0x11450, 0x114d0, 0x11650, 0x116c0,
    0x11730, 0x118e0, 0x11950, 0x11c50, 0x11d50, 0x11da0, 0x16a60, 0x16ac0, 0x16b50, 0x1d7ce,
    0x1d7d8, 0x1d7e2, 0x1d7ec, 0x1d7f6, 0x1e140, 0x1e2f0, 0x1e950, 0x1fbf0]

def digit? (c : Char) : Option Nat :=
  (zeros.find? fun z => z ≤ c.toNat && c.toNat < z + 10).map (c.toNat - ·)

/-- The longest numeral that is read. -/
def maxDigits : Nat := 4300

/-- The value of a run of digits, with single underscores between them, and how many there are. -/
def digitRun : List Char → (value count : Nat) → Option (Nat × Nat)
  | [], value, count => some (value, count)
  | c :: rest, value, count =>
    match digit? c with
    | some d => digitRun rest (10 * value + d) (count + 1)
    | none =>
      if c = '_' then
        match rest with
        | d :: rest' =>
          match digit? d with
          | some e => digitRun rest' (10 * value + e) (count + 1)
          | none => none
        | [] => none
      else none

/-- The value of a numeral without sign. -/
def natural? : List Char → Option Nat
  | [] => none
  | c :: rest =>
    match digit? c with
    | none => none
    | some d =>
      match digitRun rest d 1 with
      | some (value, count) => if count ≤ maxDigits then some value else none
      | none => none

def strip (cs : List Char) : List Char :=
  ((cs.dropWhile isBlank).reverse.dropWhile isBlank).reverse

/-- The whole number a text stands for. -/
def parseInt (s : String) : Except Fault Int :=
  let value? : Option Int :=
    match strip s.toList with
    | '-' :: rest => (natural? rest).map fun n => -(n : Int)
    | '+' :: rest => (natural? rest).map fun n => (n : Int)
    | rest => (natural? rest).map fun n => (n : Int)
  match value? with
  | some n => .ok n
  | none => .error .badNumeral

end TileQuest.Text
