import Linkage.Check.Inquiry

/-!
Superclasses and interfaces.

A hierarchy lists a class, its superclasses from the bottom up, and then all interfaces of these,
level by level. Each name is visited once, so that cycles do no harm. What is missing or not known
is recorded on the way.
-/

set_option autoImplicit false

namespace Linkage

/-- The class that all classes extend, and that interfaces see too. -/
def objectClass : String := "java.lang.Object"

/-- A class with its supertypes. -/
structure Hierarchy where
  classes : List LoadedClass
  /-- The first supertype that was not found. -/
  missing : Option String
  /-- Whether the superclasses go on in a class of which nothing is known. -/
  hiddenSuperclass : Bool
  /-- Whether some interface is one of which nothing is known. -/
  hiddenInterface : Bool

namespace Hierarchy

/-- The class alone. -/
def ofClass (loaded : LoadedClass) : Hierarchy := ⟨[loaded], none, false, false⟩

/-- Whether some supertype is one of which nothing is known. -/
def isHidden (hierarchy : Hierarchy) : Bool :=
  hierarchy.hiddenSuperclass || hierarchy.hiddenInterface

/-- The classes that are not interfaces. -/
def superclasses (hierarchy : Hierarchy) : List LoadedClass :=
  hierarchy.classes.filter (!·.info.isInterface)

def add (hierarchy : Hierarchy) (loaded : LoadedClass) : Hierarchy :=
  { hierarchy with classes := hierarchy.classes ++ [loaded] }

end Hierarchy

/-- A hierarchy in the making, with the names that have been visited. -/
structure Ascent where
  hierarchy : Hierarchy
  seen : List String

namespace Ascent

/-- The way up before the first step. -/
def ofClass (loaded : LoadedClass) : Ascent := ⟨.ofClass loaded, [loaded.info.name]⟩

/-- Marks a name as visited. -/
def visit (ascent : Ascent) (name : String) : Ascent := { ascent with seen := name :: ascent.seen }

/-- Visits a name that was found. -/
def withFound (ascent : Ascent) (name : String) (loaded : LoadedClass) : Ascent :=
  ⟨ascent.hierarchy.add loaded, name :: ascent.seen⟩

/-- Visits a superclass of which nothing is known. -/
def withHiddenSuperclass (ascent : Ascent) (name : String) : Ascent :=
  ⟨{ ascent.hierarchy with hiddenSuperclass := true }, name :: ascent.seen⟩

/-- Visits an interface of which nothing is known. -/
def withHiddenInterface (ascent : Ascent) (name : String) : Ascent :=
  ⟨{ ascent.hierarchy with hiddenInterface := true }, name :: ascent.seen⟩

/-- Visits a name that was not found. The first such name stays. -/
def withMissing (ascent : Ascent) (name : String) : Ascent :=
  ⟨{ ascent.hierarchy with missing := ascent.hierarchy.missing.or (some name) },
    name :: ascent.seen⟩

/-- Follows superclasses for at most `steps` steps. -/
def climb : Nat → Option String → Ascent → Inquiry Ascent
  | 0, _, ascent => pure ascent
  | _ + 1, none, ascent => pure ascent
  | steps + 1, some name, ascent =>
    if ascent.seen.contains name then pure ascent
    else do
      match ← Inquiry.find name with
      | .found loaded => climb steps loaded.info.superName (ascent.withFound name loaded)
      | .system => pure (ascent.withHiddenSuperclass name)
      | .notFound => pure (ascent.withMissing name)

/-- Visits the interfaces of a queue up to the first one that is found, and goes on from there with
`onFound`. -/
def spreadTo (onFound : List String → Ascent → Inquiry Ascent) :
    List String → Ascent → Inquiry Ascent
  | [], ascent => pure ascent
  | name :: rest, ascent =>
    if ascent.seen.contains name then spreadTo onFound rest ascent
    else
      .lookUp name fun
        | .found loaded =>
          onFound (rest ++ loaded.info.interfaces) (ascent.withFound name loaded)
        | .system => spreadTo onFound rest (ascent.withHiddenInterface name)
        | .notFound => spreadTo onFound rest (ascent.withMissing name)

/-- Visits the interfaces of a queue and those that they extend, of which at most `more` are
found. -/
def spread : Nat → List String → Ascent → Inquiry Ascent
  | 0 => spreadTo fun _ ascent => pure ascent
  | more + 1 => spreadTo (spread more)

/-- Lets an interface see the class that all classes extend. -/
def seeObject (ascent : Ascent) : Inquiry Ascent :=
  if ascent.seen.contains objectClass then pure ascent
  else do
    match ← Inquiry.find objectClass with
    | .found loaded => pure (ascent.withFound objectClass loaded)
    | _ => pure (ascent.visit objectClass)

end Ascent

/-- The hierarchy of a class, where at most `bound` classes can be found. If asked for, an
interface also sees the class that all classes extend. -/
def Hierarchy.of (bound : Nat) (loaded : LoadedClass) (withObject : Bool) : Inquiry Hierarchy := do
  let ascent ← Ascent.climb (bound + 1) loaded.info.superName (.ofClass loaded)
  let direct := ascent.hierarchy.classes.flatMap (·.info.interfaces)
  let ascent ← Ascent.spread bound direct ascent
  if withObject && loaded.info.isInterface then
    return (← ascent.seeObject).hierarchy
  else
    return ascent.hierarchy

/-- Whether a class is among the superclasses that start with `next`, where at most `steps` of
them are looked at. -/
def isSuperclassFrom (className : String) : Nat → List String → Option String → Inquiry Bool
  | 0, _, _ => pure false
  | _ + 1, _, none => pure false
  | steps + 1, seen, some name =>
    if name = className then pure true
    else if seen.contains name then pure false
    else do
      match ← Inquiry.find name with
      | .found loaded => isSuperclassFrom className steps (name :: seen) loaded.info.superName
      | _ => pure false

/-- Whether a class is a proper superclass of another one, where at most `bound` classes can be
found. -/
def isSubclass (bound : Nat) (info : ClassInfo) (className : String) : Inquiry Bool :=
  isSuperclassFrom className (bound + 1) [] info.superName

end Linkage
