import Linkage.Text.Affix
import Linkage.Text.Split
import Linkage.ClassFile.FormatError

/-!
Descriptors: the types of fields and methods as class files write them.

A field type is a base type letter, a class name between `L` and `;`, or an array of field types
marked by `[`, of at most 255 dimensions. A method descriptor has its parameter types between
parentheses and then a return type, where `V` stands for none.
-/

set_option autoImplicit false

namespace Linkage

/-- The types that are not references. -/
inductive BaseType where
  | byte
  | char
  | double
  | float
  | int
  | long
  | short
  | boolean
  deriving DecidableEq, Repr

namespace BaseType

def all : List BaseType := [byte, char, double, float, int, long, short, boolean]

/-- The letter that stands for the type in a descriptor. -/
def letter : BaseType → Char
  | byte => 'B'
  | char => 'C'
  | double => 'D'
  | float => 'F'
  | int => 'I'
  | long => 'J'
  | short => 'S'
  | boolean => 'Z'

/-- The name of the type in source code. -/
def name : BaseType → String
  | byte => "byte"
  | char => "char"
  | double => "double"
  | float => "float"
  | int => "int"
  | long => "long"
  | short => "short"
  | boolean => "boolean"

def ofLetter? (c : Char) : Option BaseType := all.find? (·.letter == c)

end BaseType

/-- The type of a field, a parameter or a result. -/
inductive FieldType where
  | base (type : BaseType)
  /-- A class by its binary name, with full stops between the parts. -/
  | object (name : String)
  | array (component : FieldType)
  deriving DecidableEq, Repr

namespace FieldType

/-- The type as it is written in source code. -/
def name : FieldType → String
  | base type => type.name
  | object name => name
  | array component => component.name ++ "[]"

/-- The class at the bottom of an array or object type. -/
def elementClass : FieldType → Option String
  | base _ => none
  | object name => some name
  | array component => component.elementClass

/-- The number of array levels. -/
def dimensions : FieldType → Nat
  | base _ => 0
  | object _ => 0
  | array component => component.dimensions + 1

/-- The type with `count` more array levels. -/
def arrays : Nat → FieldType → FieldType
  | 0, type => type
  | count + 1, type => array (arrays count type)

end FieldType

/-- The parameter and return types of a method. -/
structure MethodDescriptor where
  parameters : List FieldType
  /-- `none` for a method without a result. -/
  returnType : Option FieldType
  deriving DecidableEq, Repr

namespace MethodDescriptor

def returnTypeName (descriptor : MethodDescriptor) : String :=
  match descriptor.returnType with
  | some type => type.name
  | none => "void"

end MethodDescriptor

namespace Descriptor

/-- The most dimensions that an array type may have. -/
def maxDimensions : Nat := 255

/-- The binary name for a name with slashes between its parts. -/
def binaryName (internal : String) : String := Text.replaceChar '/' '.' internal

/-- A base type or class at the front, with what follows it. -/
def element? : List Char → Option (FieldType × List Char)
  | [] => none
  | c :: rest =>
    if c == 'L' then
      match Text.splitOnce (· == ';') rest with
      | none => none
      | some (name, rest) =>
        if name.isEmpty then none
        else some (.object (binaryName (String.ofList name)), rest)
    else (BaseType.ofLetter? c).map fun type => (.base type, rest)

/-- A field type at the front, with what follows it. -/
def fieldType? (cs : List Char) : Option (FieldType × List Char) :=
  let brackets := cs.takeWhile (· == '[')
  if maxDimensions < brackets.length then none
  else
    (element? (cs.drop brackets.length)).map fun (type, rest) =>
      (.arrays brackets.length type, rest)

private theorem element?_rest_length {cs rest : List Char} {type : FieldType}
    (found : element? cs = some (type, rest)) : rest.length < cs.length := by
  cases cs with
  | nil => simp [element?] at found
  | cons c tail =>
    simp only [element?] at found
    split at found
    · split at found
      · simp at found
      · next cut =>
        split at found
        · simp at found
        · cases found
          have shorter := Text.splitOnce_rest_length _ cut
          simp only [List.length_cons]
          omega
    · obtain ⟨_, _, same⟩ := Option.map_eq_some_iff.1 found
      cases same
      simp

private theorem fieldType?_rest_length {cs rest : List Char} {type : FieldType}
    (found : fieldType? cs = some (type, rest)) : rest.length < cs.length := by
  simp only [fieldType?] at found
  split at found
  · simp at found
  · obtain ⟨⟨_, remaining⟩, element, same⟩ := Option.map_eq_some_iff.1 found
    simp only [Prod.mk.injEq] at same
    have shorter := element?_rest_length element
    simp only [List.length_drop] at shorter
    rw [← same.2]
    omega

/-- Field types up to the closing parenthesis, with what follows it. -/
def parameters? (cs : List Char) : Option (List FieldType × List Char) :=
  if cs.head? == some ')' then some ([], cs.tail)
  else
    match _found : fieldType? cs with
    | none => none
    | some (type, rest) =>
      (parameters? rest).map fun (types, rest) => (type :: types, rest)
termination_by cs.length
decreasing_by exact fieldType?_rest_length _found

/-- `V` or a field type at the front, with what follows it. -/
def returnType? (cs : List Char) : Option (Option FieldType × List Char) :=
  if cs.head? == some 'V' then some (none, cs.tail)
  else (fieldType? cs).map fun (type, rest) => (some type, rest)

/-- A whole method descriptor. -/
def method? : List Char → Option MethodDescriptor
  | '(' :: rest => do
    let (parameters, rest) ← parameters? rest
    let (returnType, rest) ← returnType? rest
    if rest.isEmpty then some ⟨parameters, returnType⟩ else none
  | _ => none

/-- A whole field descriptor. -/
def field? (cs : List Char) : Option FieldType := do
  let (type, rest) ← fieldType? cs
  if rest.isEmpty then some type else none

/-- Reads a field descriptor such as `Ljava/lang/String;`. -/
def parseField (descriptor : String) : Except FormatError FieldType :=
  match field? descriptor.toList with
  | some type => .ok type
  | none => .error (.invalidDescriptor descriptor)

/-- Reads a method descriptor such as `(ILjava/lang/String;)V`. -/
def parseMethod (descriptor : String) : Except FormatError MethodDescriptor :=
  match method? descriptor.toList with
  | some method => .ok method
  | none => .error (.invalidDescriptor descriptor)

/-- The parameter types of a method descriptor as they are written in source code. -/
def parameterNames (descriptor : String) : Except FormatError (List String) :=
  (parseMethod descriptor).map fun method => method.parameters.map (·.name)

/-- The text of a descriptor up to its first closing parenthesis, if it starts with an opening
one. -/
def parameterPart? (descriptor : String) : Option String :=
  match Text.splitOnce (· == ')') descriptor.toList with
  | some ('(' :: inner, _) => some (String.ofList ('(' :: inner ++ [')']))
  | _ => none

/-- The class that a class constant names. An array names the class of its elements, and an array
of base types none. -/
def constantClass? (internal : String) : Option String :=
  if Text.startsWith internal "[" then
    match parseField internal with
    | .ok type => type.elementClass
    | .error _ => none
  else some (binaryName internal)

end Descriptor

end Linkage
