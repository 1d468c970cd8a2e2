import Linkage.ClassFile.Decoder

/-!
Walking over the instructions of a method body.

Only the operands that can name a class constant are collected. The instructions are not verified
beyond their lengths.
-/

set_option autoImplicit false

namespace Linkage.Bytecode

/-- How the operands of an instruction are laid out. -/
inductive Layout where
  /-- A fixed number of operand bytes. -/
  | fixed (bytes : Nat)
  | tableSwitch
  | lookupSwitch
  /-- Widens the instruction that follows. -/
  | wide
  deriving DecidableEq, Repr

/-- The layout of each instruction; undefined opcodes have none. -/
def layout? (opcode : UInt8) : Option Layout :=
  let code := opcode.toNat
  if code ≤ 0x0f then some (.fixed 0)
  else if code = 0x10 then some (.fixed 1)
  else if code = 0x11 then some (.fixed 2)
  else if code = 0x12 then some (.fixed 1)
  else if code ≤ 0x14 then some (.fixed 2)
  else if code ≤ 0x19 then some (.fixed 1)
  else if code ≤ 0x35 then some (.fixed 0)
  else if code ≤ 0x3a then some (.fixed 1)
  else if code ≤ 0x83 then some (.fixed 0)
  else if code = 0x84 then some (.fixed 2)
  else if code ≤ 0x98 then some (.fixed 0)
  else if code ≤ 0xa8 then some (.fixed 2)
  else if code = 0xa9 then some (.fixed 1)
  else if code = 0xaa then some .tableSwitch
  else if code = 0xab then some .lookupSwitch
  else if code ≤ 0xb1 then some (.fixed 0)
  else if code ≤ 0xb8 then some (.fixed 2)
  else if code ≤ 0xba then some (.fixed 4)
  else if code = 0xbb then some (.fixed 2)
  else if code = 0xbc then some (.fixed 1)
  else if code = 0xbd then some (.fixed 2)
  else if code ≤ 0xbf then some (.fixed 0)
  else if code ≤ 0xc1 then some (.fixed 2)
  else if code ≤ 0xc3 then some (.fixed 0)
  else if code = 0xc4 then some .wide
  else if code = 0xc5 then some (.fixed 3)
  else if code ≤ 0xc7 then some (.fixed 2)
  else if code ≤ 0xc9 then some (.fixed 4)
  else if code = 0xca then some (.fixed 0)
  else if code = 0xfe then some (.fixed 0)
  else if code = 0xff then some (.fixed 0)
  else none

/-- The opcode that increments a local variable. -/
def increment : UInt8 := 0x84

/-- The signed number in four bytes. -/
def signed (a b c d : UInt8) : Int :=
  let value := ((a.toNat * 256 + b.toNat) * 256 + c.toNat) * 256 + d.toNat
  if value < 0x80000000 then value else (value : Int) - 0x100000000

/-- The signed number at the front. -/
def signedAt : Bytes → Except FormatError Int
  | a :: b :: c :: d :: _ => .ok (signed a b c d)
  | _ => .error .unexpectedEnd

/-- The bytes that follow an opcode at `offset` until the next multiple of four. -/
def padding (offset : Nat) : Nat := (4 - (offset + 1) % 4) % 4

/-- The number of operand bytes of the instruction with a layout whose opcode stands at `offset`
and is followed by `rest`. -/
def operandBytes (offset : Nat) (rest : Bytes) : Layout → Except FormatError Nat
  | .fixed bytes => .ok bytes
  | .tableSwitch => do
    let aligned := rest.drop (padding offset)
    let low ← signedAt (aligned.drop 4)
    let high ← signedAt (aligned.drop 8)
    if high < low then .error (.invalidBytecode offset)
    else pure (padding offset + 12 + (high - low + 1).toNat * 4)
  | .lookupSwitch => do
    let aligned := rest.drop (padding offset)
    let pairs ← signedAt (aligned.drop 4)
    if pairs < 0 then .error (.invalidBytecode offset)
    else pure (padding offset + 8 + pairs.toNat * 8)
  | .wide =>
    match rest with
    | opcode :: _ => .ok (if opcode == increment then 5 else 3)
    | [] => .error .unexpectedEnd

/-- The constant number that an instruction refers to, if it is one that can name a class. -/
def classOperand? (opcode : UInt8) (rest : Bytes) : Except FormatError (Option Nat) :=
  if opcode == 0x12 then
    match rest with
    | a :: _ => .ok (some a.toNat)
    | [] => .error .unexpectedEnd
  else if [0x13, 0xbb, 0xbd, 0xc0, 0xc1, 0xc5].contains opcode then
    match rest with
    | a :: b :: _ => .ok (some (a.toNat * 256 + b.toNat))
    | _ => .error .unexpectedEnd
  else .ok none

/-- The constant numbers that instructions from `offset` on refer to, in order. -/
def operandsFrom (offset : Nat) (code : Bytes) : Except FormatError (List Nat) :=
  match code with
  | [] => .ok []
  | opcode :: rest => do
    let some layout := layout? opcode | .error (.invalidBytecode offset)
    let length ← operandBytes offset rest layout
    let operand ← classOperand? opcode rest
    if length ≤ rest.length then
      let operands ← operandsFrom (offset + 1 + length) (rest.drop length)
      pure (operand.toList ++ operands)
    else .error .unexpectedEnd
termination_by code.length
decreasing_by simp only [List.length_drop, List.length_cons]; omega

/-- The constant numbers that the instructions of a method body refer to, in order. -/
def classOperands (code : Bytes) : Except FormatError (List Nat) := operandsFrom 0 code

end Linkage.Bytecode
