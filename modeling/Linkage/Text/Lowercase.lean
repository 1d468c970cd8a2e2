import Linkage.Text.CaseData

/-!
Lower case by the full case mapping of Unicode, which does not depend on a language.

Every character is mapped on its own, except the capital sigma: at the end of a word it becomes the
final sigma. The end of a word is decided by the neighbours that are not case-ignorable: the one
before must be a cased letter and the one after must not be.
-/

set_option autoImplicit false

namespace Linkage.Text

/-- Whether a character lies in one of the ranges. -/
def inRanges (ranges : List (Nat × Nat)) (c : Char) : Bool :=
  ranges.any fun (first, last) => first ≤ c.toNat && c.toNat ≤ last

def isCased (c : Char) : Bool := inRanges casedRanges c

def isCaseIgnorable (c : Char) : Bool := inRanges caseIgnorableRanges c

/-- Whether the run covers the character with this number. -/
def CaseRow.covers (row : CaseRow) (number : Nat) : Bool :=
  row.first ≤ number && number ≤ row.last && (number - row.first) % row.step == 0

/-- The lower-case form of one character, without regard to its neighbours. Only the capital I with
a dot has a form of two characters. -/
def lowerChar (c : Char) : List Char :=
  if c.toNat < 128 then [c.toLower]
  else if c.toNat == 0x130 then ['i', Char.ofNat 0x307]
  else
    match lowercaseRows.find? (·.covers c.toNat) with
    | some row => [Char.ofNat ((c.toNat : Int) + row.shift).toNat]
    | none => [c]

/-- Whether the first character that is not case-ignorable exists and is cased. -/
def nextIsCased (neighbours : List Char) : Bool :=
  match neighbours.find? (fun c => !isCaseIgnorable c) with
  | some c => isCased c
  | none => false

/-- Lower case of `rest`, where `before` holds the characters already passed, nearest first. -/
def lowerFrom (before : List Char) : List Char → List Char
  | [] => []
  | c :: rest =>
    let lowered :=
      if c.toNat == 0x3A3 then
        [Char.ofNat (if nextIsCased before && !nextIsCased rest then 0x3C2 else 0x3C3)]
      else lowerChar c
    lowered ++ lowerFrom (c :: before) rest

/-- The lower-case form of a text. -/
def lowercase (text : List Char) : List Char := lowerFrom [] text

end Linkage.Text
