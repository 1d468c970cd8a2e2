import Linkage.Text.Split
import Linkage.ClassFile.Access

/-! What linkage needs to know about a class. -/

set_option autoImplicit false

namespace Linkage

/-- A declared field. -/
structure FieldInfo where
  name : String
  descriptor : String
  access : Access
  deriving DecidableEq, Repr

/-- A declared method. -/
structure MethodInfo where
  name : String
  descriptor : String
  access : Access
  /-- Whether the method has a body. -/
  hasCode : Bool
  /-- The exception types that its handlers catch. -/
  catchTypes : List String
  deriving DecidableEq, Repr

namespace MethodInfo

/-- Whether a class that inherits the method has to supply its body. -/
def needsImplementation (method : MethodInfo) : Bool :=
  method.access.isAbstract && !method.access.isStatic

end MethodInfo

/-- A record of a nested class. -/
structure InnerClass where
  inner : String
  /-- `none` for local and anonymous classes. -/
  outer : Option String
  simpleName : Option String
  access : Access
  deriving DecidableEq, Repr

/-- A reference to a field or method. -/
inductive MemberReference where
  | field (owner name descriptor : String)
  | method (owner name descriptor : String) (ofInterface : Bool)
  deriving DecidableEq, Repr

/-- A class constant with the class that it names. -/
structure ClassConstant where
  index : Nat
  className : String
  deriving DecidableEq, Repr

/-- A class as its class file describes it. Class names are binary names, with full stops between
the packages and `$` between nested classes. -/
structure ClassInfo where
  name : String
  access : Access
  superName : Option String
  interfaces : List String
  fields : List FieldInfo
  methods : List MethodInfo
  innerClasses : List InnerClass
  classConstants : List ClassConstant
  memberReferences : List MemberReference
  /-- The numbers of class constants that code or the structure of the class refers to. -/
  usedConstants : List Nat
  deriving DecidableEq, Repr

/-- The package part of a binary class name; empty for a class without a package. -/
def packageOf (className : String) : String :=
  match Text.splitLast (· == '.') className.toList with
  | some (package, _) => String.ofList package
  | none => ""

/-- The outermost class around a class: the name before the first `$`, unless that is empty. -/
def topLevelName (className : String) : String :=
  match Text.splitOnce (· == '$') className.toList with
  | some (outer, _) => if outer.isEmpty then className else String.ofList outer
  | none => className

namespace ClassInfo

def isInterface (info : ClassInfo) : Bool := info.access.isInterface

def isAbstract (info : ClassInfo) : Bool := info.access.isAbstract

def package (info : ClassInfo) : String := packageOf info.name

/-- The record of the class itself among the nested classes, if it is one. -/
def ownInnerClass? (info : ClassInfo) : Option InnerClass :=
  info.innerClasses.find? (·.inner == info.name)

/-- The access as declared in source. Only the record of a nested class can tell private and
protected ones. -/
def effectiveAccess (info : ClassInfo) : Access :=
  match info.ownInnerClass? with
  | some inner => inner.access
  | none => info.access

/-- The class that directly encloses a member class. -/
def enclosingClass? (info : ClassInfo) : Option String :=
  info.ownInnerClass?.bind (·.outer)

/-- The member classes declared directly inside the class. -/
def nestedClasses (info : ClassInfo) : List String :=
  (info.innerClasses.filter (·.outer == some info.name)).map (·.inner)

/-- The first declared method with a name and descriptor. -/
def findMethod? (info : ClassInfo) (name descriptor : String) : Option MethodInfo :=
  info.methods.find? fun method => method.name == name && method.descriptor == descriptor

/-- The first declared field with a name. -/
def findField? (info : ClassInfo) (name : String) : Option FieldInfo :=
  info.fields.find? (·.name == name)

/-- Whether a method has a handler for one of the exception types. -/
def catchesAny (info : ClassInfo) (types : List String) : Bool :=
  info.methods.any fun method => method.catchTypes.any types.contains

/-- Whether code or the structure of the class refers to a constant that names `className`.
Constants that only records of nested classes refer to do not count. -/
def usesClass (info : ClassInfo) (className : String) : Bool :=
  info.classConstants.any fun constant =>
    constant.className == className && info.usedConstants.contains constant.index

end ClassInfo

end Linkage
