import Linkage.ClassFile.Decoder
import Linkage.ClassFile.ModifiedUtf8

/-!
The constant pool of a class file.

Constants are numbered from one. A long or double constant takes two numbers, of which the second
one, like number zero, stands for nothing.
-/

set_option autoImplicit false

namespace Linkage

/-- An entry of the constant pool, as far as linkage depends on it. -/
inductive Constant where
  | utf8 (text : String)
  | «class» (name : Nat)
  | field (owner nameAndType : Nat)
  | method (owner nameAndType : Nat)
  | interfaceMethod (owner nameAndType : Nat)
  | nameAndType (name descriptor : Nat)
  /-- A constant of one slot whose contents play no part. -/
  | other
  /-- A long or double constant. -/
  | wide
  deriving DecidableEq, Repr

/-- What stands at a number of the constant pool. -/
inductive Slot where
  | constant (value : Constant)
  | unusable
  deriving DecidableEq, Repr

namespace Constant

/-- The slots that a constant fills. -/
def slots : Constant → List Slot
  | wide => [.constant wide, .unusable]
  | value => [.constant value]

/-- Reads the constant at a number of the pool. -/
def read (index : Nat) : Decoder Constant := do
  let tag ← Decoder.u1
  match tag with
  | 1 =>
    let bytes ← Decoder.take (← Decoder.u2)
    match ModifiedUtf8.decode bytes with
    | some text => pure (utf8 text)
    | none => Decoder.fail (.invalidUtf8 index)
  | 3 => do Decoder.skip 4; pure other
  | 4 => do Decoder.skip 4; pure other
  | 5 => do Decoder.skip 8; pure wide
  | 6 => do Decoder.skip 8; pure wide
  | 7 => pure («class» (← Decoder.u2))
  | 8 => do Decoder.skip 2; pure other
  | 9 => pure (field (← Decoder.u2) (← Decoder.u2))
  | 10 => pure (method (← Decoder.u2) (← Decoder.u2))
  | 11 => pure (interfaceMethod (← Decoder.u2) (← Decoder.u2))
  | 12 => pure (nameAndType (← Decoder.u2) (← Decoder.u2))
  | 15 => do Decoder.skip 3; pure other
  | 16 => do Decoder.skip 2; pure other
  | 17 => do Decoder.skip 4; pure other
  | 18 => do Decoder.skip 4; pure other
  | 19 => do Decoder.skip 2; pure other
  | 20 => do Decoder.skip 2; pure other
  | _ => Decoder.fail (.unsupportedConstant tag index)

end Constant

/-- The constants of a class file by their numbers. -/
structure ConstantPool where
  slots : Array Slot

namespace ConstantPool

/-- Reads constants from number `index` on until `missing` more slots are filled. -/
def readSlots (index missing : Nat) : Decoder (List Slot) :=
  match missing with
  | 0 => pure []
  | missing + 1 => do
    let constant ← Constant.read index
    let filled := constant.slots
    let rest ← readSlots (index + filled.length) (missing - (filled.length - 1))
    pure (filled ++ rest)
termination_by missing

/-- Reads the pool behind the number of its slots. -/
def read : Decoder ConstantPool := do
  let count ← Decoder.u2
  let slots ← readSlots 1 (count - 1)
  pure ⟨(Slot.unusable :: slots).toArray⟩

/-- What stands at a number. -/
def slot (pool : ConstantPool) (index : Nat) : Except FormatError Slot :=
  match pool.slots[index]? with
  | some slot => .ok slot
  | none => .error (.invalidConstantIndex index)

/-- The text at a number. -/
def utf8 (pool : ConstantPool) (index : Nat) : Except FormatError String := do
  match ← pool.slot index with
  | .constant (.utf8 text) => pure text
  | _ => .error (.unexpectedConstant index .utf8)

/-- The name of the class constant at a number, with slashes between its parts. -/
def className (pool : ConstantPool) (index : Nat) : Except FormatError String := do
  match ← pool.slot index with
  | .constant (.class name) => pool.utf8 name
  | _ => .error (.unexpectedConstant index .class)

/-- The name and the descriptor of the constant at a number. -/
def nameAndType (pool : ConstantPool) (index : Nat) : Except FormatError (String × String) := do
  match ← pool.slot index with
  | .constant (.nameAndType name descriptor) =>
    let name ← pool.utf8 name
    let descriptor ← pool.utf8 descriptor
    pure (name, descriptor)
  | _ => .error (.unexpectedConstant index .nameAndType)

/-- The constants with their numbers, in increasing order. -/
def numbered (pool : ConstantPool) : List (Nat × Slot) :=
  pool.slots.toList.zipIdx.map fun (slot, index) => (index, slot)

end ConstantPool

end Linkage
