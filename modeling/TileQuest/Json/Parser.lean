import TileQuest.Json.Basic

/-!
# Reading JSON

`Json.parse` reads one JSON text. Strings may not hold control characters, numbers with a fraction
or an exponent are binary64 numbers, and the words `NaN`, `Infinity` and `-Infinity` stand for
numbers too. A whole number of more than `Text.maxDigits` digits is refused.

Every call takes at least one character or ends, which bounds the fuel of the readers below.
-/

namespace TileQuest.Json

def isSpace (c : Char) : Bool := c == ' ' || c == '\t' || c == '\n' || c == '\r'

/-- The text after its leading blanks. -/
def skip (cs : List Char) : List Char := cs.dropWhile isSpace

def hexDigit? (c : Char) : Option Nat :=
  if '0' ≤ c ∧ c ≤ '9' then some (c.toNat - '0'.toNat)
  else if 'a' ≤ c ∧ c ≤ 'f' then some (c.toNat - 'a'.toNat + 10)
  else if 'A' ≤ c ∧ c ≤ 'F' then some (c.toNat - 'A'.toNat + 10)
  else none

/-- Four hexadecimal digits, and what follows them. -/
def hex4? : List Char → Option (Nat × List Char)
  | a :: b :: c :: d :: rest => do
    let a ← hexDigit? a
    let b ← hexDigit? b
    let c ← hexDigit? c
    let d ← hexDigit? d
    return (((a * 16 + b) * 16 + c) * 16 + d, rest)
  | _ => none

def escape? : Char → Option Char
  | '"' => some '"'
  | '\\' => some '\\'
  | '/' => some '/'
  | 'b' => some '\x08'
  | 'f' => some '\x0c'
  | 'n' => some '\n'
  | 'r' => some '\r'
  | 't' => some '\t'
  | _ => none

/-- The rest of a string after its opening quote: the characters read, in reverse, and what
follows the closing quote. Two escaped surrogates stand for one character. -/
def string? : Nat → List Char → List Char → Option (List Char × List Char)
  | 0, _, _ => none
  | fuel + 1, read, cs =>
    match cs with
    | '"' :: rest => some (read, rest)
    | '\\' :: 'u' :: rest =>
      match hex4? rest with
      | none => none
      | some (high, rest) =>
        if 0xd800 ≤ high ∧ high < 0xdc00 then
          match rest with
          | '\\' :: 'u' :: rest' =>
            match hex4? rest' with
            | none => none
            | some (low, rest'') =>
              if 0xdc00 ≤ low ∧ low < 0xe000 then
                let code := 0x10000 + (high - 0xd800) * 0x400 + (low - 0xdc00)
                string? fuel (Char.ofNat code :: read) rest''
              else string? fuel (Char.ofNat 0xfffd :: read) rest
          | _ => string? fuel (Char.ofNat 0xfffd :: read) rest
        else if 0xdc00 ≤ high ∧ high < 0xe000 then
          string? fuel (Char.ofNat 0xfffd :: read) rest
        else string? fuel (Char.ofNat high :: read) rest
    | '\\' :: c :: rest =>
      match escape? c with
      | some d => string? fuel (d :: read) rest
      | none => none
    | c :: rest => if c.toNat < 32 then none else string? fuel (c :: read) rest
    | [] => none

/-- The leading decimal digits, and what follows them. -/
def digits (cs : List Char) : List Char × List Char :=
  (cs.takeWhile Char.isDigit, cs.dropWhile Char.isDigit)

def naturalOf (ds : List Char) : Nat :=
  ds.foldl (fun n d => 10 * n + (d.toNat - '0'.toNat)) 0

/-- The binary64 number `± whole.fraction * 10 ^ exponent`. Numbers whose first digit is far
outside the range are settled without the power. -/
def realOf (negative : Bool) (whole fraction : List Char) (exponent : Int) : Scalar :=
  let significand := naturalOf (whole ++ fraction)
  let place := exponent - fraction.length
  let length : Int := (whole ++ fraction).length
  if significand = 0 then .real (.zero negative)
  else if 400 < place then .real (.infinite negative)
  else if place + length < -400 then .real (.zero negative)
  else
    let size : Rat := significand * Binary64.powerOfTen place
    .ofRat (if negative then -size else size)

def number (negative : Bool) (cs : List Char) : Except Fault (Scalar × List Char) :=
  let (whole, rest) := digits cs
  if whole.isEmpty || (whole.head? == some '0' && 1 < whole.length) then .error .badJson
  else
    let (fraction, rest) :=
      match rest with
      | '.' :: after =>
        let (ds, rest') := digits after
        if ds.isEmpty then ([], rest) else (ds, rest')
      | _ => ([], rest)
    let (exponent?, rest) : Option Int × List Char :=
      match rest with
      | e :: after =>
        if e = 'e' || e = 'E' then
          let (isNegative, after') :=
            match after with
            | '-' :: more => (true, more)
            | '+' :: more => (false, more)
            | _ => (false, after)
          let (ds, rest') := digits after'
          if ds.isEmpty then (none, rest)
          else
            let size : Int := naturalOf ds
            (some (if isNegative then -size else size), rest')
        else (none, rest)
      | [] => (none, rest)
    if fraction.isEmpty && exponent?.isNone then
      let size : Int := naturalOf whole
      if Text.maxDigits < whole.length then .error .badNumeral
      else .ok (.int (if negative then -size else size), rest)
    else .ok (realOf negative whole fraction (exponent?.getD 0), rest)

def word (name : String) (value : Json) (cs : List Char) : Except Fault (Json × List Char) :=
  if name.toList.isPrefixOf cs then .ok (value, cs.drop name.length) else .error .badJson

def putMember (members : List (String × Json)) (name : String) (value : Json) :
    List (String × Json) :=
  if members.any fun m => m.1 == name then
    members.map fun m => if m.1 == name then (name, value) else m
  else members ++ [(name, value)]

mutual

def value : Nat → List Char → Except Fault (Json × List Char)
  | 0, _ => .error .badJson
  | fuel + 1, cs =>
    match cs with
    | '"' :: rest =>
      match string? (fuel + 1) [] rest with
      | some (read, rest) => .ok (str (String.ofList read.reverse), rest)
      | none => .error .badJson
    | '[' :: rest =>
      match skip rest with
      | ']' :: rest' => .ok (arr [], rest')
      | rest' => itemsFrom fuel [] rest'
    | '\x7b' :: rest =>
      match skip rest with
      | '\x7d' :: rest' => .ok (obj [], rest')
      | rest' => membersFrom fuel [] rest'
    | 'n' :: _ => word "null" null cs
    | 't' :: _ => word "true" (bool true) cs
    | 'f' :: _ => word "false" (bool false) cs
    | 'N' :: _ => word "NaN" (num (.real (.nan false))) cs
    | 'I' :: _ => word "Infinity" (num (.real (.infinite false))) cs
    | '-' :: 'I' :: _ => word "-Infinity" (num (.real (.infinite true))) cs
    | '-' :: rest => (number true rest).map fun r => (num r.1, r.2)
    | _ => (number false cs).map fun r => (num r.1, r.2)

/-- The items of an array from the next one on, and what follows the closing bracket. -/
def itemsFrom : Nat → List Json → List Char → Except Fault (Json × List Char)
  | 0, _, _ => .error .badJson
  | fuel + 1, read, cs =>
    match value fuel cs with
    | .error fault => .error fault
    | .ok (item, rest) =>
      match skip rest with
      | ',' :: rest' => itemsFrom fuel (item :: read) (skip rest')
      | ']' :: rest' => .ok (arr (item :: read).reverse, rest')
      | _ => .error .badJson

/-- The members of an object from the next one on, and what follows the closing brace. -/
def membersFrom : Nat → List (String × Json) → List Char → Except Fault (Json × List Char)
  | 0, _, _ => .error .badJson
  | fuel + 1, read, cs =>
    match cs with
    | '"' :: rest =>
      match string? (fuel + 1) [] rest with
      | none => .error .badJson
      | some (name, rest) =>
        match skip rest with
        | ':' :: rest' =>
          match value fuel (skip rest') with
          | .error fault => .error fault
          | .ok (v, rest) =>
            let read := putMember read (String.ofList name.reverse) v
            match skip rest with
            | ',' :: rest' => membersFrom fuel read (skip rest')
            | '\x7d' :: rest' => .ok (obj read, rest')
            | _ => .error .badJson
        | _ => .error .badJson
    | _ => .error .badJson

end

def parse (s : String) : Except Fault Json :=
  let cs := s.toList
  match value (2 * cs.length + 1) (skip cs) with
  | .ok (j, rest) => if (skip rest).isEmpty then .ok j else .error .badJson
  | .error fault => .error fault

end TileQuest.Json
