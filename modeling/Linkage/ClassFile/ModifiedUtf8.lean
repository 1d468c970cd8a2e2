import Linkage.Text.Utf8

/-!
The encoding of texts in class files.

Class files write a text as its UTF-16 code units, each in one to three bytes: the null character
takes two bytes, and a supplementary character is written as its two surrogates. `decode` also
accepts plain UTF-8, and prefers it when the bytes are well-formed UTF-8. Outside of plain UTF-8 it
does not look at the marker bits of continuation bytes, but the code units must pair up.
-/

set_option autoImplicit false

namespace Linkage.ModifiedUtf8

/-- The code units of a text that is written in one to three bytes each. -/
def units? : Bytes → Option (List Nat)
  | [] => some []
  | a :: rest =>
    if a.toNat < 0x80 then (units? rest).map (a.toNat :: ·)
    else if a.toNat < 0xC0 then none
    else if a.toNat < 0xE0 then
      match rest with
      | b :: rest => (units? rest).map ((a.toNat % 32 * 64 + b.toNat % 64) :: ·)
      | [] => none
    else if a.toNat < 0xF0 then
      match rest with
      | b :: c :: rest =>
        (units? rest).map ((a.toNat % 16 * 4096 + b.toNat % 64 * 64 + c.toNat % 64) :: ·)
      | _ => none
    else none

def isHighSurrogate (unit : Nat) : Bool := 0xD800 ≤ unit && unit ≤ 0xDBFF

def isLowSurrogate (unit : Nat) : Bool := 0xDC00 ≤ unit && unit ≤ 0xDFFF

/-- The supplementary character written as two surrogates. -/
def ofSurrogates (high low : Nat) : Char :=
  Char.ofNat (0x10000 + (high - 0xD800) * 0x400 + (low - 0xDC00))

/-- The text with the given code units. Surrogates must come in pairs. -/
def ofUnits? : List Nat → Option (List Char)
  | [] => some []
  | unit :: rest =>
    if isHighSurrogate unit then
      match rest with
      | low :: rest =>
        if isLowSurrogate low then (ofUnits? rest).map (ofSurrogates unit low :: ·) else none
      | [] => none
    else if isLowSurrogate unit then none
    else (ofUnits? rest).map (Char.ofNat unit :: ·)

/-- The text that the bytes stand for. -/
def decode (bytes : Bytes) : Option String :=
  match Utf8.decode bytes with
  | some text => some (String.ofList text)
  | none => ((units? bytes).bind ofUnits?).map String.ofList

end Linkage.ModifiedUtf8
