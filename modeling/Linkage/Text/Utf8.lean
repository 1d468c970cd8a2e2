/-!
Bytes and characters: the UTF-8 encoding.

`Utf8.decode` accepts exactly the sequences of shortest encodings of Unicode scalar values: no
overlong form, no surrogate, nothing above the last code point, and no byte left over.
-/

set_option autoImplicit false

namespace Linkage

/-- The contents of a file. -/
abbrev Bytes := List UInt8

namespace Utf8

/-- The bytes of a text. -/
def encode (text : List Char) : Bytes := text.flatMap String.utf8EncodeChar

/-- The bytes of a string. -/
def encodeString (text : String) : Bytes := encode text.toList

/-- Continuation bytes have the form `10xxxxxx`. -/
def isContinuation (byte : UInt8) : Bool := 0x80 ≤ byte && byte ≤ 0xBF

/-- The six payload bits of a continuation byte. -/
def payload (byte : UInt8) : Nat := byte.toNat % 64

/-- The character with a number, if it is a scalar value not below `least`. -/
def scalar? (least number : Nat) : Option Char :=
  if _valid : number.isValidChar then
    if least ≤ number then some (Char.ofNat number) else none
  else none

/-- The character encoded by two bytes. -/
def two? (a b : UInt8) : Option Char :=
  if isContinuation b then scalar? 0x80 (a.toNat % 32 * 64 + payload b) else none

/-- The character encoded by three bytes. -/
def three? (a b c : UInt8) : Option Char :=
  if isContinuation b && isContinuation c then
    scalar? 0x800 ((a.toNat % 16 * 64 + payload b) * 64 + payload c)
  else none

/-- The character encoded by four bytes. -/
def four? (a b c d : UInt8) : Option Char :=
  if isContinuation b && isContinuation c && isContinuation d then
    scalar? 0x10000 (((a.toNat % 8 * 64 + payload b) * 64 + payload c) * 64 + payload d)
  else none

/-- The text that the bytes encode. -/
def decode : Bytes → Option (List Char)
  | [] => some []
  | a :: rest =>
    if a < 0x80 then (decode rest).map (Char.ofNat a.toNat :: ·)
    else if a < 0xC0 then none
    else
      match rest with
      | [] => none
      | b :: rest =>
        if a < 0xE0 then do
          let char ← two? a b
          (decode rest).map (char :: ·)
        else
          match rest with
          | [] => none
          | c :: rest =>
            if a < 0xF0 then do
              let char ← three? a b c
              (decode rest).map (char :: ·)
            else if a < 0xF8 then
              match rest with
              | [] => none
              | d :: rest => do
                let char ← four? a b c d
                (decode rest).map (char :: ·)
            else none

/-- The string that the bytes encode. -/
def decodeString (bytes : Bytes) : Option String := (decode bytes).map String.ofList

end Utf8

end Linkage
