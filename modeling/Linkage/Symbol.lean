import Linkage.ClassFile.Descriptor
import Linkage.ClassFile.Info

/-!
Symbols: what one class names of another.

Symbols are ordered by kind (classes, superclasses, interfaces, methods, fields) and then by their
parts. Problems do not tell the three kinds of class symbols apart; `normalized` removes the
difference.
-/

set_option autoImplicit false

namespace Linkage

/-- A method as a reference names it. -/
structure MethodSymbol where
  owner : String
  name : String
  descriptor : String
  /-- Whether the reference takes the owner for an interface. -/
  ofInterface : Bool
  deriving DecidableEq, Repr

/-- A field as a reference names it. -/
structure FieldSymbol where
  owner : String
  name : String
  descriptor : String
  deriving DecidableEq, Repr

/-- A reference to a class, a method or a field of another class. -/
inductive Symbol where
  | «class» (name : String)
  /-- The superclass of the class that refers to it. -/
  | superClass (name : String)
  /-- An interface that the class that refers to it implements or extends. -/
  | superInterface (name : String)
  | method (symbol : MethodSymbol)
  | field (symbol : FieldSymbol)
  deriving DecidableEq, Repr

namespace MethodSymbol

def order (a b : MethodSymbol) : Ordering :=
  (compare a.owner b.owner).then <| (compare a.name b.name).then <|
    (compare a.descriptor b.descriptor).then (compare a.ofInterface b.ofInterface)

end MethodSymbol

namespace FieldSymbol

def order (a b : FieldSymbol) : Ordering :=
  (compare a.owner b.owner).then <| (compare a.name b.name).then
    (compare a.descriptor b.descriptor)

end FieldSymbol

namespace Symbol

/-- The class that the symbol names or that owns the member. -/
def className : Symbol → String
  | «class» name => name
  | superClass name => name
  | superInterface name => name
  | method symbol => symbol.owner
  | field symbol => symbol.owner

/-- The symbol with supertypes as plain classes. -/
def normalized : Symbol → Symbol
  | superClass name => «class» name
  | superInterface name => «class» name
  | symbol => symbol

/-- Whether the symbol names a class and not a member. -/
def isClassReference : Symbol → Bool
  | «class» _ => true
  | superClass _ => true
  | superInterface _ => true
  | _ => false

/-- The place of a kind of symbol among the kinds. -/
def kindRank : Symbol → Nat
  | «class» _ => 0
  | superClass _ => 1
  | superInterface _ => 2
  | method _ => 3
  | field _ => 4

def order : Symbol → Symbol → Ordering
  | «class» a, «class» b => compare a b
  | superClass a, superClass b => compare a b
  | superInterface a, superInterface b => compare a b
  | method a, method b => a.order b
  | field a, field b => a.order b
  | a, b => compare a.kindRank b.kindRank

instance : Ord Symbol := ⟨order⟩

/-- The symbol in words. A method shows its parameter types, or its descriptor if that is
malformed. -/
def text : Symbol → String
  | «class» name => "Class " ++ name
  | superClass name => "Class " ++ name
  | superInterface name => "Class " ++ name
  | method symbol =>
    let parameters :=
      match Descriptor.parameterNames symbol.descriptor with
      | .ok names => ", ".intercalate names
      | .error _ => symbol.descriptor
    symbol.owner ++ "'s method " ++ symbol.name ++ "(" ++ parameters ++ ")"
  | field symbol => symbol.owner ++ "'s field " ++ symbol.name

end Symbol

end Linkage
