import Linkage.Text.Utf8

/-!
JSON texts as trees in which numbers and strings are still as they are written.

The grammar is that of JSON. What strings stand for is found out only when it is needed, so a
string that stands for no text does no harm where nobody reads it.
-/

set_option autoImplicit false

namespace Linkage

/-- A JSON value as it is written. -/
inductive RawJson where
  | null
  | bool (value : Bool)
  /-- The characters of a number. -/
  | number (raw : Bytes)
  /-- The bytes between quotes. -/
  | string (raw : Bytes)
  | array (items : List RawJson)
  | object (members : List (Bytes × RawJson))

namespace RawJson

/-- The byte of a character of ASCII. -/
def byte (c : Char) : UInt8 := c.toNat.toUInt8

def isBlank (b : UInt8) : Bool := b == 0x20 || b == 0x09 || b == 0x0A || b == 0x0D

def skipBlank (bytes : Bytes) : Bytes := bytes.dropWhile isBlank

def isDigit (b : UInt8) : Bool := byte '0' ≤ b && b ≤ byte '9'

/-- The value of a hexadecimal digit. -/
def hexValue? (b : UInt8) : Option Nat :=
  if isDigit b then some (b.toNat - '0'.toNat)
  else if byte 'a' ≤ b && b ≤ byte 'f' then some (b.toNat - 'a'.toNat + 10)
  else if byte 'A' ≤ b && b ≤ byte 'F' then some (b.toNat - 'A'.toNat + 10)
  else none

/-- The number that four hexadecimal digits stand for. -/
def hexNumber? (a b c d : UInt8) : Option Nat := do
  pure ((((← hexValue? a) * 16 + (← hexValue? b)) * 16 + (← hexValue? c)) * 16 + (← hexValue? d))

/-- The byte that a letter stands for behind a reverse slash. -/
def escaped? (b : UInt8) : Option UInt8 :=
  if b == byte '"' || b == byte '\\' || b == byte '/' then some b
  else if b == byte 'b' then some 0x08
  else if b == byte 'f' then some 0x0C
  else if b == byte 'n' then some 0x0A
  else if b == byte 'r' then some 0x0D
  else if b == byte 't' then some 0x09
  else none

/-- The bytes up to the closing quote, and what follows it. -/
def stringEnd? : Bytes → Option (Bytes × Bytes)
  | [] => none
  | first :: rest =>
    if first == byte '"' then some ([], rest)
    else if first == byte '\\' then
      match rest with
      | [] => none
      | letter :: rest =>
        if letter == byte 'u' then
          match rest with
          | a :: b :: c :: d :: rest =>
            if (hexNumber? a b c d).isSome then
              (stringEnd? rest).map fun (raw, rest) =>
                (first :: letter :: a :: b :: c :: d :: raw, rest)
            else none
          | _ => none
        else if (escaped? letter).isSome then
          (stringEnd? rest).map fun (raw, rest) => (first :: letter :: raw, rest)
        else none
    else if first < 0x20 then none
    else (stringEnd? rest).map fun (raw, rest) => (first :: raw, rest)

/-- Digits, of which there is at least one, and what follows them. -/
def digits? (bytes : Bytes) : Option (Bytes × Bytes) :=
  let digits := bytes.takeWhile isDigit
  if digits.isEmpty then none else some (digits, bytes.dropWhile isDigit)

/-- The digits of a whole number: a zero stands alone. -/
def whole? : Bytes → Option (Bytes × Bytes)
  | [] => none
  | first :: rest =>
    if first == byte '0' then some ([first], rest) else digits? (first :: rest)

/-- A point and digits, if there is a point. -/
def fraction? : Bytes → Option (Bytes × Bytes)
  | [] => some ([], [])
  | first :: rest =>
    if first == byte '.' then (digits? rest).map fun (digits, rest) => (first :: digits, rest)
    else some ([], first :: rest)

/-- The letter of an exponent with a sign and digits, if there is one. -/
def exponent? : Bytes → Option (Bytes × Bytes)
  | [] => some ([], [])
  | first :: rest =>
    if first == byte 'e' || first == byte 'E' then
      match rest with
      | [] => none
      | sign :: unsigned =>
        if sign == byte '+' || sign == byte '-' then
          (digits? unsigned).map fun (digits, rest) => (first :: sign :: digits, rest)
        else (digits? rest).map fun (digits, rest) => (first :: digits, rest)
    else some ([], first :: rest)

/-- A number without a sign. -/
def unsigned? (bytes : Bytes) : Option (Bytes × Bytes) := do
  let (whole, rest) ← whole? bytes
  let (fraction, rest) ← fraction? rest
  let (exponent, rest) ← exponent? rest
  pure (whole ++ fraction ++ exponent, rest)

/-- A number. -/
def number? : Bytes → Option (Bytes × Bytes)
  | [] => none
  | first :: rest =>
    if first == byte '-' then (unsigned? rest).map fun (raw, rest) => (first :: raw, rest)
    else unsigned? (first :: rest)

/-- Passes over the characters of a word. -/
def word? (word : String) (bytes : Bytes) : Option Bytes :=
  let expected := Utf8.encodeString word
  if expected.isPrefixOf bytes then some (bytes.drop expected.length) else none

mutual

/-- A value behind white space. `depth` bounds the number of nested calls. -/
def value? : Nat → Bytes → Option (RawJson × Bytes)
  | 0, _ => none
  | depth + 1, bytes =>
    match skipBlank bytes with
    | [] => none
    | first :: rest =>
      if first == byte '\x7b' then
        (members? depth true rest).map fun (members, rest) => (object members, rest)
      else if first == byte '[' then
        (items? depth true rest).map fun (items, rest) => (array items, rest)
      else if first == byte '"' then
        (stringEnd? rest).map fun (raw, rest) => (string raw, rest)
      else if first == byte 'n' then (word? "ull" rest).map fun rest => (null, rest)
      else if first == byte 't' then (word? "rue" rest).map fun rest => (bool true, rest)
      else if first == byte 'f' then (word? "alse" rest).map fun rest => (bool false, rest)
      else (number? (first :: rest)).map fun (raw, rest) => (number raw, rest)

/-- The items up to the end of a list. Before all but the first there is a comma. -/
def items? : Nat → Bool → Bytes → Option (List RawJson × Bytes)
  | 0, _, _ => none
  | depth + 1, isFirst, bytes =>
    match skipBlank bytes with
    | [] => none
    | first :: rest =>
      if first == byte ']' then some ([], rest)
      else do
        let start ← if isFirst then some (first :: rest)
          else if first == byte ',' then some rest else none
        let (item, rest) ← value? depth start
        let (items, rest) ← items? depth false rest
        pure (item :: items, rest)

/-- The members up to the end of an object. Before all but the first there is a comma. -/
def members? : Nat → Bool → Bytes → Option (List (Bytes × RawJson) × Bytes)
  | 0, _, _ => none
  | depth + 1, isFirst, bytes =>
    match skipBlank bytes with
    | [] => none
    | first :: rest =>
      if first == byte '\x7d' then some ([], rest)
      else do
        let start ← if isFirst then some (first :: rest)
          else if first == byte ',' then some rest else none
        let inner ← word? "\"" (skipBlank start)
        let (name, rest) ← stringEnd? inner
        let rest ← word? ":" (skipBlank rest)
        let (value, rest) ← value? depth rest
        let (members, rest) ← members? depth false rest
        pure ((name, value) :: members, rest)

end

/-- The value that a text consists of, between white space. Each nested call reads a byte or
follows one that did, so the length of the text bounds their number. -/
def parse? (bytes : Bytes) : Option RawJson := do
  let (value, rest) ← value? (2 * bytes.length + 1) bytes
  if (skipBlank rest).isEmpty then some value else none

/-- The bytes that a string stands for, with the characters after reverse slashes replaced. The two
halves of a surrogate pair stand together. -/
def unescape? : Bytes → Option Bytes
  | [] => some []
  | first :: rest =>
    if first == byte '\\' then
      match rest with
      | [] => none
      | letter :: rest =>
        if letter == byte 'u' then
          match rest with
          | a :: b :: c :: d :: rest => do
            let unit ← hexNumber? a b c d
            if 0xDC00 ≤ unit && unit ≤ 0xDFFF then none
            else if 0xD800 ≤ unit && unit ≤ 0xDBFF then
              match rest with
              | slash :: letter :: e :: f :: g :: h :: rest =>
                if slash == byte '\\' && letter == byte 'u' then
                  let low ← hexNumber? e f g h
                  if 0xDC00 ≤ low && low ≤ 0xDFFF then
                    let char := Char.ofNat (0x10000 + (unit - 0xD800) * 0x400 + (low - 0xDC00))
                    (unescape? rest).map (String.utf8EncodeChar char ++ ·)
                  else none
                else none
              | _ => none
            else (unescape? rest).map (String.utf8EncodeChar (Char.ofNat unit) ++ ·)
          | _ => none
        else do
          let replaced ← escaped? letter
          (unescape? rest).map (replaced :: ·)
    else (unescape? rest).map (first :: ·)

/-- The text that the bytes between quotes stand for. -/
def textOf? (raw : Bytes) : Option String := (unescape? raw).bind Utf8.decodeString

/-- The text of a string. -/
def text? : RawJson → Option String
  | string raw => textOf? raw
  | _ => none

/-- The truth value. -/
def bool? : RawJson → Option Bool
  | bool value => some value
  | _ => none

/-- The whole number below a limit that is written with digits alone. -/
def natBelow? (limit : Nat) : RawJson → Option Nat
  | number raw =>
    if raw.all isDigit then
      let value := raw.foldl (fun value digit => value * 10 + (digit.toNat - '0'.toNat)) 0
      if value < limit then some value else none
    else none
  | _ => none

/-- The texts of a list of strings. -/
def texts? : RawJson → Option (List String)
  | array items => items.mapM text?
  | _ => none

end RawJson

end Linkage
