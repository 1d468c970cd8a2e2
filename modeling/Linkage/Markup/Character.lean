/-! Classes of characters in XML texts. -/

set_option autoImplicit false

namespace Linkage.Markup

/-- White space between the parts of a document. -/
def isSpace (c : Char) : Bool := c == ' ' || c == '\t' || c == '\n' || c == '\r'

/-- The characters that a document may hold. -/
def isDocumentChar (c : Char) : Bool :=
  let n := c.toNat
  if n < 0x20 then isSpace c else n != 0xFFFE && n != 0xFFFF

/-- Whether a number lies in one of some ranges, ends included. -/
def inRanges (ranges : List (Nat × Nat)) (n : Nat) : Bool :=
  ranges.any fun (first, last) => first ≤ n && n ≤ last

/-- The characters that a name can start with. -/
def isNameStart (c : Char) : Bool :=
  c.isAlpha || c == ':' || c == '_' ||
    inRanges [(0xC0, 0xD6), (0xD8, 0xF6), (0xF8, 0x2FF), (0x370, 0x37D), (0x37F, 0x1FFF),
      (0x200C, 0x200D), (0x2070, 0x218F), (0x2C00, 0x2FEF), (0x3001, 0xD7FF), (0xF900, 0xFDCF),
      (0xFDF0, 0xFFFD), (0x10000, 0xEFFFF)] c.toNat

/-- The characters that can follow in a name. -/
def isNameChar (c : Char) : Bool :=
  isNameStart c || c.isDigit || c == '-' || c == '.' ||
    inRanges [(0xB7, 0xB7), (0x300, 0x36F), (0x203F, 0x2040)] c.toNat

/-- Whether some characters begin like a name. -/
def startsName : List Char → Bool
  | [] => false
  | c :: _ => isNameStart c

/-- Drops the white space at the front. -/
def skipSpaces (cs : List Char) : List Char := cs.dropWhile isSpace

end Linkage.Markup
