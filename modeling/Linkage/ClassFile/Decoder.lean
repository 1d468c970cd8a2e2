import Linkage.Text.Utf8
import Linkage.ClassFile.FormatError

/-!
Reading big-endian numbers and runs of bytes from the front of a byte sequence.

A decoder either fails or gives a value together with the bytes that it has not read. It looks at
no byte beyond those that it takes.
-/

set_option autoImplicit false

namespace Linkage

/-- Reads a value from the front of a byte sequence. -/
abbrev Decoder (α : Type) : Type := StateT Bytes (Except FormatError) α

/-- The first `count` bytes and the rest, if there are that many. -/
def takeBytes? : Nat → Bytes → Option (Bytes × Bytes)
  | 0, bytes => some ([], bytes)
  | _ + 1, [] => none
  | count + 1, byte :: bytes =>
    (takeBytes? count bytes).map fun (taken, rest) => (byte :: taken, rest)

namespace Decoder

def fail {α : Type} (error : FormatError) : Decoder α := fun _ => .error error

/-- Lets a result computed elsewhere take part; it reads nothing. -/
def lift {α : Type} (result : Except FormatError α) : Decoder α := fun bytes =>
  result.map fun value => (value, bytes)

/-- An unsigned number of one byte. -/
def u1 : Decoder Nat
  | a :: rest => .ok (a.toNat, rest)
  | _ => .error .unexpectedEnd

/-- An unsigned number of two bytes. -/
def u2 : Decoder Nat
  | a :: b :: rest => .ok (a.toNat * 256 + b.toNat, rest)
  | _ => .error .unexpectedEnd

/-- An unsigned number of four bytes. -/
def u4 : Decoder Nat
  | a :: b :: c :: d :: rest =>
    .ok (((a.toNat * 256 + b.toNat) * 256 + c.toNat) * 256 + d.toNat, rest)
  | _ => .error .unexpectedEnd

/-- Exactly `count` bytes. -/
def take (count : Nat) : Decoder Bytes := fun bytes =>
  match takeBytes? count bytes with
  | some result => .ok result
  | none => .error .unexpectedEnd

/-- Passes over exactly `count` bytes. -/
def skip (count : Nat) : Decoder Unit := do
  let _ ← take count

/-- The values that `decoder` reads when it is run `count` times. -/
def replicate {α : Type} (decoder : Decoder α) : Nat → Decoder (List α)
  | 0 => pure []
  | count + 1 => do
    let value ← decoder
    let values ← replicate decoder count
    pure (value :: values)

/-- The values behind their number, which takes two bytes. -/
def counted {α : Type} (decoder : Decoder α) : Decoder (List α) := do
  replicate decoder (← u2)

/-- The value at the front of a byte sequence of its own, whatever follows it there. -/
def within {α : Type} (decoder : Decoder α) (bytes : Bytes) : Except FormatError α :=
  (decoder bytes).map (·.1)

end Decoder

end Linkage
