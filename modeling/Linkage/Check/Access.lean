import Linkage.Check.Hierarchy

/-! Which classes and members a class may use. -/

set_option autoImplicit false

namespace Linkage

/-- Whether a class can be used from another one. -/
inductive ClassAccess where
  | accessible
  | inaccessible
  /-- A class around it was not found. -/
  | missingEnclosing (className : String)
  deriving DecidableEq, Repr

/-- The most classes around a class that are looked at, the class itself included. -/
def maxNesting : Nat := 32

/-- Whether two classes are in the same package. -/
def samePackage (a b : ClassInfo) : Bool := packageOf a.name == b.package

/-- Whether two classes have the same outermost class. -/
def sameTopLevel (a b : ClassInfo) : Bool := topLevelName a.name == topLevelName b.name

/-- Whether a class is open to another one, without regard to the classes around it. A protected
class is also open to the subclasses of the class around it. -/
def isOpenTo (bound : Nat) (source target : ClassInfo) : Inquiry Bool :=
  let access := target.effectiveAccess
  if access.isPublic then pure true
  else if access.isPrivate then pure (sameTopLevel source target)
  else if access.isProtected then
    if samePackage source target then pure true
    else
      match target.enclosingClass? with
      | some outer => isSubclass bound source outer
      | none => pure false
  else pure (samePackage source target)

/-- Whether a class can be used from another one, looking at `levels` classes from the inside
out. -/
def classAccessWithin (bound : Nat) (source : ClassInfo) : Nat → ClassInfo → Inquiry ClassAccess
  | 0, _ => pure .accessible
  | levels + 1, target => do
    if ← isOpenTo bound source target then
      match target.enclosingClass? with
      | none => pure .accessible
      | some outer =>
        if outer = target.name then pure .accessible
        else
          match ← Inquiry.find outer with
          | .found loaded => classAccessWithin bound source levels loaded.info
          | .system => pure .accessible
          | .notFound => pure (.missingEnclosing outer)
    else pure .inaccessible

/-- Whether a class can be used from another one. -/
def classAccess (bound : Nat) (source target : ClassInfo) : Inquiry ClassAccess :=
  classAccessWithin bound source maxNesting target

/-- Whether a member of a class can be used from another class. -/
def memberAccessible (bound : Nat) (source declaring : ClassInfo) (access : Access) :
    Inquiry Bool :=
  if access.isPublic then pure true
  else if access.isProtected then
    if samePackage source declaring then pure true
    else isSubclass bound source declaring.name
  else if access.isPrivate then pure (sameTopLevel source declaring)
  else pure (samePackage source declaring)

end Linkage
