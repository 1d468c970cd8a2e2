import Linkage.ClassFile.Bytecode
import Linkage.ClassFile.Constant
import Linkage.ClassFile.Descriptor
import Linkage.ClassFile.Info

/-!
From the bytes of a class file to what linkage needs of it.

Any part that cannot be read makes the whole file malformed. Attributes that play no part are
passed over by their length, and so are bytes after the end of the class.
-/

set_option autoImplicit false

namespace Linkage

open Decoder

/-- The number that every class file starts with. -/
def classFileMagic : Nat := 0xCAFEBABE

/-- The binary name of the class constant at a number. -/
def ConstantPool.binaryName (pool : ConstantPool) (index : Nat) : Except FormatError String :=
  (pool.className index).map Descriptor.binaryName

/-- An attribute: its name and contents. -/
def readAttribute (pool : ConstantPool) : Decoder (String × Bytes) := do
  let name ← lift (pool.utf8 (← u2))
  let body ← take (← u4)
  pure (name, body)

/-- Passes over an attribute without looking at its name. -/
def skipAttribute : Decoder Unit := do
  skip 2
  skip (← u4)

def FieldInfo.read (pool : ConstantPool) : Decoder FieldInfo := do
  let access ← u2
  let name ← lift (pool.utf8 (← u2))
  let descriptor ← lift (pool.utf8 (← u2))
  let _ ← counted skipAttribute
  pure ⟨name, descriptor, ⟨access.toUInt16⟩⟩

/-- What an attribute tells about a method. -/
structure MethodAttribute where
  hasCode : Bool
  catchTypes : List String
  usedConstants : List Nat

namespace MethodAttribute

/-- The exception handler's type, if it catches only one. -/
def readHandler (pool : ConstantPool) : Decoder (Option (Nat × String)) := do
  skip 6
  let catchType ← u2
  if catchType = 0 then pure none
  else pure (some (catchType, ← lift (pool.binaryName catchType)))

/-- A method body with its exception handlers. -/
def readCode (pool : ConstantPool) : Decoder MethodAttribute := do
  skip 2
  skip 2
  let code ← take (← u4)
  let operands ← lift (Bytecode.classOperands code)
  let handlers := (← counted (readHandler pool)).filterMap id
  pure ⟨true, handlers.map (·.2), operands ++ handlers.map (·.1)⟩

/-- The declared exceptions. -/
def readExceptions : Decoder MethodAttribute := do
  pure ⟨false, [], ← counted u2⟩

/-- What the attribute with a name and contents tells. -/
def ofBody (pool : ConstantPool) (name : String) (body : Bytes) :
    Except FormatError MethodAttribute :=
  if name = "Code" then (readCode pool).within body
  else if name = "Exceptions" then readExceptions.within body
  else .ok ⟨false, [], []⟩

def read (pool : ConstantPool) : Decoder MethodAttribute := do
  let (name, body) ← readAttribute pool
  lift (ofBody pool name body)

end MethodAttribute

/-- A method with the numbers of the class constants that it refers to. -/
def MethodInfo.read (pool : ConstantPool) : Decoder (MethodInfo × List Nat) := do
  let access ← u2
  let name ← lift (pool.utf8 (← u2))
  let descriptor ← lift (pool.utf8 (← u2))
  let attributes ← counted (MethodAttribute.read pool)
  pure (⟨name, descriptor, ⟨access.toUInt16⟩, attributes.any (·.hasCode),
    attributes.flatMap (·.catchTypes)⟩, attributes.flatMap (·.usedConstants))

/-- What an attribute tells about a class. -/
structure ClassAttribute where
  innerClasses : List InnerClass
  usedConstants : List Nat

def InnerClass.read (pool : ConstantPool) : Decoder InnerClass := do
  let inner ← u2
  let outer ← u2
  let simpleName ← u2
  let access ← u2
  let innerName ← lift (pool.binaryName inner)
  let outerName ← if outer = 0 then pure none else some <$> lift (pool.binaryName outer)
  let simpleName ← if simpleName = 0 then pure none else some <$> lift (pool.utf8 simpleName)
  pure ⟨innerName, outerName, simpleName, ⟨access.toUInt16⟩⟩

namespace ClassAttribute

/-- What the attribute with a name and contents tells. -/
def ofBody (pool : ConstantPool) (name : String) (body : Bytes) :
    Except FormatError ClassAttribute :=
  if name = "InnerClasses" then
    ((counted (InnerClass.read pool)).within body).map fun classes => ⟨classes, []⟩
  else if name = "EnclosingMethod" then
    (u2.within body).map fun index => ⟨[], [index]⟩
  else .ok ⟨[], []⟩

def read (pool : ConstantPool) : Decoder ClassAttribute := do
  let (name, body) ← readAttribute pool
  lift (ofBody pool name body)

end ClassAttribute

/-- What the constants of a pool refer to. -/
structure ConstantUses where
  classConstants : List ClassConstant
  memberReferences : List MemberReference
  usedConstants : List Nat

namespace ConstantUses

/-- The name, the descriptor and the owner of a member constant. -/
def member (pool : ConstantPool) (owner nameAndType : Nat) :
    Except FormatError (String × String × String) := do
  let (name, descriptor) ← pool.nameAndType nameAndType
  let ownerName ← pool.binaryName owner
  pure (ownerName, name, descriptor)

/-- What the constant at a number refers to. -/
def ofSlot (pool : ConstantPool) (index : Nat) : Slot → Except FormatError ConstantUses
  | .constant (.class name) => do
    let internal ← pool.utf8 name
    match Descriptor.constantClass? internal with
    | some className => pure ⟨[⟨index, className⟩], [], []⟩
    | none => pure ⟨[], [], []⟩
  | .constant (.field owner nameAndType) => do
    let (ownerName, name, descriptor) ← member pool owner nameAndType
    pure ⟨[], [.field ownerName name descriptor], [owner]⟩
  | .constant (.method owner nameAndType) => do
    let (ownerName, name, descriptor) ← member pool owner nameAndType
    pure ⟨[], [.method ownerName name descriptor false], [owner]⟩
  | .constant (.interfaceMethod owner nameAndType) => do
    let (ownerName, name, descriptor) ← member pool owner nameAndType
    pure ⟨[], [.method ownerName name descriptor true], [owner]⟩
  | _ => .ok ⟨[], [], []⟩

/-- What all constants of a pool refer to, in the order of their numbers. -/
def ofPool (pool : ConstantPool) : Except FormatError ConstantUses := do
  let uses ← pool.numbered.mapM fun (index, slot) => ofSlot pool index slot
  pure ⟨uses.flatMap (·.classConstants), uses.flatMap (·.memberReferences),
    uses.flatMap (·.usedConstants)⟩

end ConstantUses

namespace ClassInfo

/-- The magic number and the version. -/
def readHeader : Decoder Unit := do
  let magic ← u4
  if magic = classFileMagic then skip 4 else fail (.invalidMagic magic)

/-- A class constant by its number, together with the number. -/
def readClassName (pool : ConstantPool) : Decoder (Nat × String) := do
  let index ← u2
  pure (index, ← lift (pool.binaryName index))

/-- The superclass, whose number is zero if there is none. -/
def readSuper (pool : ConstantPool) : Decoder (Option (Nat × String)) := do
  let index ← u2
  if index = 0 then pure none
  else pure (some (index, ← lift (pool.binaryName index)))

/-- A whole class. -/
def read : Decoder ClassInfo := do
  readHeader
  let pool ← ConstantPool.read
  let access ← u2
  let this ← readClassName pool
  let super ← readSuper pool
  let interfaces ← counted (readClassName pool)
  let fields ← counted (FieldInfo.read pool)
  let methods ← counted (MethodInfo.read pool)
  let attributes ← counted (ClassAttribute.read pool)
  let uses ← lift (ConstantUses.ofPool pool)
  pure {
    name := this.2
    access := ⟨access.toUInt16⟩
    superName := super.map (·.2)
    interfaces := interfaces.map (·.2)
    fields := fields
    methods := methods.map (·.1)
    innerClasses := attributes.flatMap (·.innerClasses)
    classConstants := uses.classConstants
    memberReferences := uses.memberReferences
    usedConstants :=
      this.1 :: (super.map (·.1)).toList ++ interfaces.map (·.1) ++ methods.flatMap (·.2) ++
        attributes.flatMap (·.usedConstants) ++ uses.usedConstants }

/-- The class that the bytes of a class file describe. -/
def decode (bytes : Bytes) : Except FormatError ClassInfo := read.within bytes

end ClassInfo

end Linkage
