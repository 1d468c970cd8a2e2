import Linkage.Text.Affix
import Linkage.Text.Split
import Linkage.Text.Utf8
import Linkage.ClassFile.Access
import Linkage.ClassFile.Constant

/-!
Writing class files from declarations.

A draft collects declarations of a class and can be written as a class file at any time. References
to members and classes become instructions of a static initializer, so that they are used the way
compiled code uses them. Equal constants are written once, in the order in which they were first
needed. Numbers that do not fit their field lose their high bits.
-/

set_option autoImplicit false

namespace Linkage

/-- The two lowest bytes of a number. -/
def bytes2 (value : Nat) : Bytes := [(value / 256).toUInt8, value.toUInt8]

/-- The four lowest bytes of a number. -/
def bytes4 (value : Nat) : Bytes := bytes2 (value / 65536) ++ bytes2 value

namespace Constant

/-- The bytes of a constant. Constants whose contents play no part are never drafted. -/
def write : Constant → Bytes
  | utf8 text =>
    let encoded := Utf8.encodeString text
    1 :: bytes2 encoded.length ++ encoded
  | «class» name => 7 :: bytes2 name
  | field owner member => 9 :: bytes2 owner ++ bytes2 member
  | method owner member => 10 :: bytes2 owner ++ bytes2 member
  | interfaceMethod owner member => 11 :: bytes2 owner ++ bytes2 member
  | nameAndType name descriptor => 12 :: bytes2 name ++ bytes2 descriptor
  | other => []
  | wide => []

/-- Whether the constant refers to a member. -/
def isMember : Constant → Bool
  | field _ _ => true
  | method _ _ => true
  | interfaceMethod _ _ => true
  | _ => false

/-- The constant with another name and type, if it refers to a member. -/
def withNameAndType (index : Nat) : Constant → Constant
  | field owner _ => field owner index
  | method owner _ => method owner index
  | interfaceMethod owner _ => interfaceMethod owner index
  | constant => constant

end Constant

/-- A constant of a draft: what it was added as, and what is written for it. -/
structure DraftConstant where
  added : Constant
  written : Constant

/-- The constants of a draft, in the order of their numbers. -/
structure DraftPool where
  constants : List DraftConstant

namespace DraftPool

def empty : DraftPool := ⟨[]⟩

/-- The number of a constant, which is added unless it was added before. -/
def add (pool : DraftPool) (constant : Constant) : DraftPool × Nat :=
  match pool.constants.findIdx? (·.added == constant) with
  | some position => (pool, (position + 1) % 65536)
  | none => (⟨pool.constants ++ [⟨constant, constant⟩]⟩, (pool.constants.length + 1) % 65536)

def addUtf8 (pool : DraftPool) (text : String) : DraftPool × Nat := pool.add (.utf8 text)

/-- The name of a class as a class constant holds it. Array descriptors stay as they are. -/
def internalName (className : String) : String :=
  if Text.startsWith className "[" then className else Text.replaceChar '.' '/' className

/-- Adds a class constant for a binary name or an array descriptor. -/
def addClass (pool : DraftPool) (className : String) : DraftPool × Nat :=
  let (pool, name) := pool.addUtf8 (internalName className)
  pool.add (.class name)

def addNameAndType (pool : DraftPool) (name descriptor : String) : DraftPool × Nat :=
  let (pool, nameIndex) := pool.addUtf8 name
  let (pool, descriptorIndex) := pool.addUtf8 descriptor
  pool.add (.nameAndType nameIndex descriptorIndex)

/-- Adds a member constant, built by `make` from its owner and its name and type. -/
def addMember (pool : DraftPool) (make : Nat → Nat → Constant)
    (owner name descriptor : String) : DraftPool × Nat :=
  let (pool, ownerIndex) := pool.addClass owner
  let (pool, nameAndTypeIndex) := pool.addNameAndType name descriptor
  pool.add (make ownerIndex nameAndTypeIndex)

/-- Applies a change to the first constant that satisfies a condition. -/
def changeFirst (condition : DraftConstant → Bool) (change : DraftConstant → DraftConstant) :
    List DraftConstant → List DraftConstant
  | [] => []
  | constant :: rest =>
    if condition constant then change constant :: rest
    else constant :: changeFirst condition change rest

/-- Lets the last member constant be written with the constant 1 as its name and type. -/
def corruptLastMember (pool : DraftPool) : DraftPool :=
  ⟨(changeFirst (·.written.isMember)
    (fun constant => { constant with written := constant.written.withNameAndType 1 })
    pool.constants.reverse).reverse⟩

/-- The number of slots and then the constants. -/
def write (pool : DraftPool) : Bytes :=
  bytes2 (pool.constants.length + 1) ++ pool.constants.flatMap (·.written.write)

end DraftPool

/-- A declared member of a draft; name and descriptor are constant numbers. -/
structure DraftMember where
  access : Access
  name : Nat
  descriptor : Nat

/-- The record of a nested class in a draft, in constant numbers. -/
structure DraftInnerClass where
  inner : Nat
  outer : Nat
  simpleName : Nat
  access : Access

/-- A class to be written. -/
structure ClassDraft where
  pool : DraftPool
  access : Access
  thisClass : Nat
  superClass : Nat
  interfaces : List Nat
  fields : List DraftMember
  methods : List DraftMember
  innerClasses : List DraftInnerClass
  /-- The instructions of the static initializer, without the return at its end. -/
  initializer : Bytes
  /-- The exception types that the static initializer catches. -/
  catchTypes : List Nat

/-- One thing to be said about a class. -/
inductive Declaration where
  | access (flags : Access)
  | superClass (name : String)
  | interface (name : String)
  | field (access : Access) (name descriptor : String)
  | method (access : Access) (name descriptor : String)
  | abstractMethod (name descriptor : String)
  | invokes (owner name descriptor : String)
  | invokesInterface (owner name descriptor : String)
  | readsField (owner name descriptor : String)
  | referencesClass (name : String)
  | innerClass (inner : String) (outer : Option String) (access : Access)
  | catches (exceptionType : String)
  /-- Spoils the last member constant. -/
  | corruptMember
  deriving DecidableEq, Repr

namespace ClassDraft

/-- A public class that extends `java.lang.Object`. -/
def ofClass (name : String) : ClassDraft :=
  let (pool, thisClass) := DraftPool.empty.addClass name
  let (pool, superClass) := pool.addClass "java.lang.Object"
  { pool, access := .public ||| .super, thisClass, superClass, interfaces := [], fields := [],
    methods := [], innerClasses := [], initializer := [], catchTypes := [] }

/-- A public interface. -/
def ofInterface (name : String) : ClassDraft :=
  { ofClass name with access := .public ||| .interface ||| .abstract }

/-- The part of a name behind its last `$`. -/
def simpleName (className : String) : String :=
  match Text.splitLast (· == '$') className.toList with
  | some (_, last) => String.ofList last
  | none => className

/-- Adds an instruction to the static initializer whose first operand is a constant. -/
def emit (draft : ClassDraft) (added : DraftPool × Nat) (opcode : UInt8) (operands : Bytes) :
    ClassDraft :=
  { draft with
    pool := added.1
    initializer := draft.initializer ++ (opcode :: bytes2 added.2 ++ operands) }

/-- Adds the constants of a member declaration. -/
def addMember (draft : ClassDraft) (access : Access) (name descriptor : String) :
    DraftPool × DraftMember :=
  let (pool, nameIndex) := draft.pool.addUtf8 name
  let (pool, descriptorIndex) := pool.addUtf8 descriptor
  (pool, ⟨access, nameIndex, descriptorIndex⟩)

/-- The draft with one more declaration. -/
def declare (draft : ClassDraft) : Declaration → ClassDraft
  | .access flags => { draft with access := flags }
  | .superClass name =>
    let (pool, index) := draft.pool.addClass name
    { draft with pool, superClass := index }
  | .interface name =>
    let (pool, index) := draft.pool.addClass name
    { draft with pool, interfaces := draft.interfaces ++ [index] }
  | .field access name descriptor =>
    let (pool, member) := draft.addMember access name descriptor
    { draft with pool, fields := draft.fields ++ [member] }
  | .method access name descriptor =>
    let (pool, member) := draft.addMember access name descriptor
    { draft with pool, methods := draft.methods ++ [member] }
  | .abstractMethod name descriptor =>
    let (pool, member) := draft.addMember (.public ||| .abstract) name descriptor
    { draft with pool, methods := draft.methods ++ [member] }
  | .invokes owner name descriptor =>
    draft.emit (draft.pool.addMember .method owner name descriptor) 0xb8 []
  | .invokesInterface owner name descriptor =>
    draft.emit (draft.pool.addMember .interfaceMethod owner name descriptor) 0xb9 [1, 0]
  | .readsField owner name descriptor =>
    draft.emit (draft.pool.addMember .field owner name descriptor) 0xb2 []
  | .referencesClass name => draft.emit (draft.pool.addClass name) 0xc0 []
  | .innerClass inner outer access =>
    let (pool, innerIndex) := draft.pool.addClass inner
    let (pool, outerIndex) :=
      match outer with
      | some outer => pool.addClass outer
      | none => (pool, 0)
    let (pool, nameIndex) := pool.addUtf8 (simpleName inner)
    { draft with
      pool
      innerClasses := draft.innerClasses ++ [⟨innerIndex, outerIndex, nameIndex, access⟩] }
  | .catches exceptionType =>
    let (pool, index) := draft.pool.addClass exceptionType
    { draft with pool, catchTypes := draft.catchTypes ++ [index] }
  | .corruptMember => { draft with pool := draft.pool.corruptLastMember }

/-- The draft with further declarations, one after another. -/
def declareAll (draft : ClassDraft) (declarations : List Declaration) : ClassDraft :=
  declarations.foldl declare draft

/-- Numbers behind their count, two bytes each. -/
def writeNumbers (numbers : List Nat) : Bytes :=
  bytes2 numbers.length ++ numbers.flatMap bytes2

/-- A method body: the instructions and a return, with handlers that cover all instructions. -/
def writeCode (attributeName : Nat) (instructions : Bytes) (catchTypes : List Nat) : Bytes :=
  let codeLength := instructions.length + 1
  bytes2 attributeName ++ bytes4 (12 + codeLength + 8 * catchTypes.length) ++ bytes2 8 ++
    bytes2 8 ++ bytes4 codeLength ++ instructions ++ [0xb1] ++ bytes2 catchTypes.length ++
    catchTypes.flatMap (fun catchType =>
      bytes2 0 ++ bytes2 codeLength ++ bytes2 0 ++ bytes2 catchType) ++ bytes2 0

def writeMember (member : DraftMember) : Bytes :=
  bytes2 member.access.bits.toNat ++ bytes2 member.name ++ bytes2 member.descriptor

/-- A method. Only abstract and native ones have no body. -/
def writeMethod (codeName : Nat) (method : DraftMember) : Bytes :=
  writeMember method ++
    if method.access.isAbstract || method.access.isNative then bytes2 0
    else bytes2 1 ++ writeCode codeName [] []

def writeInnerClass (inner : DraftInnerClass) : Bytes :=
  bytes2 inner.inner ++ bytes2 inner.outer ++ bytes2 inner.simpleName ++
    bytes2 inner.access.bits.toNat

/-- Whether the class needs a static initializer. -/
def hasInitializer (draft : ClassDraft) : Bool :=
  !draft.initializer.isEmpty || !draft.catchTypes.isEmpty

/-- The pool with the name of method bodies, and the number of that name. -/
def withCode (draft : ClassDraft) : DraftPool × Nat := draft.pool.addUtf8 "Code"

/-- The pool with what a static initializer needs besides, and the initializer if there is one. -/
def withInitializer (draft : ClassDraft) : DraftPool × List DraftMember :=
  if draft.hasInitializer then
    let (pool, name) := draft.withCode.1.addUtf8 "<clinit>"
    let (pool, descriptor) := pool.addUtf8 "()V"
    (pool, [⟨.static, name, descriptor⟩])
  else (draft.withCode.1, [])

/-- The pool with the name of the records of nested classes besides, and the number of that name. It
is not needed if there are none. -/
def withInnerClasses (draft : ClassDraft) : DraftPool × Nat :=
  if draft.innerClasses.isEmpty then (draft.withInitializer.1, 0)
  else draft.withInitializer.1.addUtf8 "InnerClasses"

/-- The pool that is written: the constants of the declarations and those of their layout. -/
def writtenPool (draft : ClassDraft) : DraftPool := draft.withInnerClasses.1

/-- The declared methods and then the static initializer. -/
def writeMethods (draft : ClassDraft) : Bytes :=
  bytes2 (draft.methods.length + draft.withInitializer.2.length) ++
    (draft.methods.flatMap (writeMethod draft.withCode.2) ++
      draft.withInitializer.2.flatMap fun method =>
        writeMember method ++ bytes2 1 ++
          writeCode draft.withCode.2 draft.initializer draft.catchTypes)

/-- The attributes of the class, which are the records of nested classes. -/
def writeAttributes (draft : ClassDraft) : Bytes :=
  if draft.innerClasses.isEmpty then bytes2 0
  else
    bytes2 1 ++ (bytes2 draft.withInnerClasses.2 ++ (bytes4 (2 + 8 * draft.innerClasses.length) ++
      (bytes2 draft.innerClasses.length ++ draft.innerClasses.flatMap writeInnerClass)))

/-- The class file of a draft. -/
def build (draft : ClassDraft) : Bytes :=
  bytes4 0xCAFEBABE ++ (bytes2 0 ++ bytes2 52) ++ (draft.writtenPool.write ++
    (bytes2 draft.access.bits.toNat ++ (bytes2 draft.thisClass ++ (bytes2 draft.superClass ++
      (writeNumbers draft.interfaces ++ (bytes2 draft.fields.length ++
        draft.fields.flatMap (fun field => writeMember field ++ bytes2 0) ++
          (draft.writeMethods ++ draft.writeAttributes)))))))

end ClassDraft

end Linkage
