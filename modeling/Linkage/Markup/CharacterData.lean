import Linkage.Markup.Character

/-!
Character data: texts and attribute values with their references expanded and their line ends
normalized.

A reference stands for one character, either by its number or by one of five names. In texts every
line end becomes a line feed, and in attribute values every white space character becomes a space.
Characters that come from references are exempt, and in a text so is the character right behind a
reference.
-/

set_option autoImplicit false

namespace Linkage.Markup

/-- A character with its origin. -/
inductive Piece where
  | literal (char : Char)
  | referenced (char : Char)
  deriving DecidableEq, Repr

/-- The value of a digit, decimal or hexadecimal. -/
def digitValue (c : Char) : Nat :=
  if c.isDigit then c.toNat - '0'.toNat
  else if 'a' ≤ c && c ≤ 'f' then c.toNat - 'a'.toNat + 10
  else c.toNat - 'A'.toNat + 10

def isHexDigit (c : Char) : Bool :=
  c.isDigit || ('a' ≤ c && c ≤ 'f') || ('A' ≤ c && c ≤ 'F')

/-- The number that some digits stand for. -/
def numberOf (base : Nat) (digits : List Char) : Nat :=
  digits.foldl (fun number digit => number * base + digitValue digit) 0

/-- The character with a number of less than 32 bits. Numbers that are no character stand for the
replacement character. -/
def charOfNumber? (number : Nat) : Option Char :=
  if number < 0x100000000 then
    let char := if number.isValidChar then Char.ofNat number else '\ufffd'
    if isDocumentChar char then some char else none
  else none

/-- The character that is written with some digits; there is at least one. -/
def charOfDigits? (base : Nat) (digits : List Char) : Option Char :=
  if digits.isEmpty then none else charOfNumber? (numberOf base digits)

/-- The character with a name. -/
def namedChar? (name : List Char) : Option Char :=
  match String.ofList name with
  | "quot" => some '"'
  | "amp" => some '&'
  | "apos" => some '\''
  | "lt" => some '<'
  | "gt" => some '>'
  | _ => none

/-- The character that a reference stands for, and what follows the reference. The ampersand in
front has been read. -/
def reference? (cs : List Char) : Option (Char × List Char) :=
  let (char, rest) :=
    match cs with
    | '#' :: 'x' :: digits =>
      (charOfDigits? 16 (digits.takeWhile isHexDigit), digits.dropWhile isHexDigit)
    | '#' :: digits =>
      (charOfDigits? 10 (digits.takeWhile Char.isDigit), digits.dropWhile Char.isDigit)
    | _ => (namedChar? (cs.takeWhile isNameChar), cs.dropWhile isNameChar)
  match char, rest with
  | some char, ';' :: rest => some (char, rest)
  | _, _ => none

/-- The characters of some character data. -/
def pieces? (cs : List Char) : Option (List Piece) :=
  match cs with
  | [] => some []
  | '&' :: rest =>
    match reference? rest with
    | none => none
    | some (char, after) =>
      if after.length < rest.length then (pieces? after).map (.referenced char :: ·) else none
  | c :: rest => (pieces? rest).map (.literal c :: ·)
termination_by cs.length
decreasing_by all_goals (simp only [List.length_cons]; omega)

/-- Attribute values: a line end of two characters counts as one. -/
def normalizeValue : List Piece → List Char
  | [] => []
  | .literal '\r' :: .literal '\n' :: rest => ' ' :: normalizeValue rest
  | .literal c :: rest => (if isSpace c then ' ' else c) :: normalizeValue rest
  | .referenced c :: rest => c :: normalizeValue rest

/-- Adds a literal character of a text. `done` has the last character in front. A carriage return
waits there for the next character, unless it is at the end. -/
def addLiteral (done : List Char) (c : Char) (atEnd : Bool) : List Char :=
  let ending := if atEnd && c == '\r' then '\n' else c
  match done with
  | '\r' :: older => if c == '\n' then '\n' :: older else ending :: '\n' :: older
  | _ => ending :: done

/-- Texts, character by character. `exempt` tells that a reference has just been read. -/
def normalizeFrom (done : List Char) (exempt : Bool) : List Piece → List Char
  | [] => done.reverse
  | .referenced c :: rest => normalizeFrom (c :: done) true rest
  | .literal c :: rest =>
    if exempt then normalizeFrom (c :: done) false rest
    else normalizeFrom (addLiteral done c rest.isEmpty) false rest

def normalizeText (pieces : List Piece) : List Char := normalizeFrom [] false pieces

/-- The value of an attribute from what stands between its quotes. -/
def attributeValue? (cs : List Char) : Option String :=
  (pieces? cs).map fun pieces => String.ofList (normalizeValue pieces)

/-- The text between two tags. -/
def text? (cs : List Char) : Option String :=
  (pieces? cs).map fun pieces => String.ofList (normalizeText pieces)

/-- The text of a section in which nothing is markup. -/
def verbatimText (cs : List Char) : String :=
  String.ofList (normalizeText (cs.map .literal))

end Linkage.Markup
