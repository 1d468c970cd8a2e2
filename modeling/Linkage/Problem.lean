import Linkage.Symbol
import Linkage.Artifact.Dependency
import Linkage.Classpath.Entry

/-!
Linkage problems, their causes, and artifacts that cannot be found.

A problem is identified by its symbol and its source class. Its kind, its target and its cause
follow from these, so a set of problems holds each pair once.
-/

set_option autoImplicit false

namespace Linkage

/-- A class definition: the class and the entry that defines it. -/
structure ClassLocation where
  entry : ClasspathEntry
  className : String
  deriving DecidableEq, Repr

namespace ClassLocation

/-- Definitions are ordered by class, then by entry. -/
def order (a b : ClassLocation) : Ordering :=
  (compare a.className b.className).then (compare a.entry b.entry)

instance : Ord ClassLocation := ⟨order⟩

/-- Whether two definitions are of the same class in the same entry. -/
def same (a b : ClassLocation) : Bool := a.order b == .eq

/-- The outermost class around a class, in the same entry. -/
def topLevel (location : ClassLocation) : ClassLocation :=
  { location with className := topLevelName location.className }

def text (location : ClassLocation) : String :=
  location.className ++ " (" ++ location.entry.text ++ ")"

end ClassLocation

/-- The seven ways in which a reference fails to link. -/
inductive ProblemKind where
  /-- The class is on no entry. -/
  | classNotFound
  /-- A class in the place of an interface or the other way round, or a superclass that cannot be
  extended. -/
  | incompatibleClassChange
  | inaccessibleClass
  | inaccessibleMember
  /-- The class exists and neither declares nor inherits the member. -/
  | symbolNotFound
  /-- A concrete class does not implement an abstract method that it inherits. -/
  | abstractMethod
  /-- A method with the same parameters has another return type. -/
  | returnTypeChanged (actualType : String)
  deriving DecidableEq, Repr

namespace ProblemKind

def name : ProblemKind → String
  | classNotFound => "ClassNotFound"
  | incompatibleClassChange => "IncompatibleClassChange"
  | inaccessibleClass => "InaccessibleClass"
  | inaccessibleMember => "InaccessibleMember"
  | symbolNotFound => "SymbolNotFound"
  | abstractMethod => "AbstractMethod"
  | returnTypeChanged _ => "ReturnTypeChanged"

end ProblemKind

/-- Why a problem exists, as far as the dependencies of its source artifact show it. -/
inductive Cause where
  /-- Another version of the artifact with the symbol was selected, and it lacks the symbol. -/
  | conflict (symbol : Symbol) (selected unselected : DependencyPath)
  /-- The artifact with the symbol was not selected. -/
  | missing (path : DependencyPath)
  /-- The artifact with the symbol was excluded. -/
  | excluded (path : DependencyPath) (excluding : Coordinate)
  | unknown
  deriving DecidableEq, Repr

namespace Cause

def name : Cause → String
  | conflict _ _ _ => "DependencyConflict"
  | missing _ => "MissingDependency"
  | excluded _ _ => "ExcludedDependency"
  | unknown => "Unknown"

/-- The artifact at the end of a path in words; a path may have none. -/
def leafText (path : DependencyPath) : String := (path.leaf.map (·.text)).getD ""

/-- Why a dependency is followed only for its own artifact. -/
def omission? (dependency : Dependency) : Option String :=
  if dependency.optional then some " because the path contains an optional dependency"
  else if dependency.scope = .provided then
    some " because the path contains a provided-scope dependency"
  else none

/-- The reason for the omission of the end of a path that its other dependencies give. -/
def omission (path : DependencyPath) : String :=
  (path.dependencies.dropLast.findSome? omission?).getD ""

def text : Cause → String
  | conflict symbol selected unselected =>
    "Dependency conflict: " ++ leafText selected ++
      " (selected for the class path) does not have the symbol \"" ++ symbol.text ++ "\" but " ++
      leafText unselected ++ " (unselected) defines it.\n  selected: " ++ selected.text ++
      "\n  unselected: " ++ unselected.text
  | missing path =>
    "The valid symbol is in " ++ leafText path ++ " at " ++ path.text ++
      " but it was not selected" ++ omission path
  | excluded path excluding =>
    "The valid symbol is in " ++ leafText path ++ " at " ++ path.text ++
      " but it was not selected because " ++ excluding.text ++ " excludes " ++
      (path.leaf.map (·.key.text)).getD "" ++ "."
  | unknown => "Unknown"

end Cause

/-- A reference that does not link. -/
structure Problem where
  kind : ProblemKind
  symbol : Symbol
  source : ClassLocation
  /-- Where the symbol was expected. -/
  target : Option ClassLocation
  cause : Option Cause
  deriving DecidableEq, Repr

namespace Problem

/-- A problem without a cause. Problems do not tell supertypes from other classes. -/
def of (kind : ProblemKind) (symbol : Symbol) (source : ClassLocation)
    (target : Option ClassLocation) : Problem :=
  ⟨kind, symbol.normalized, source, target, none⟩

/-- Problems are ordered by symbol, then by source. -/
def order (a b : Problem) : Ordering :=
  (compare a.symbol b.symbol).then (compare a.source b.source)

instance : Ord Problem := ⟨order⟩

/-- What is said of the symbol. -/
def message (problem : Problem) : String :=
  match problem.kind with
  | .classNotFound => "is not found"
  | .symbolNotFound => "is not found"
  | .incompatibleClassChange => "has changed incompatibly"
  | .inaccessibleClass => "is not accessible"
  | .inaccessibleMember => "is not accessible"
  | .abstractMethod => "is not implemented in the class " ++ problem.source.className
  | .returnTypeChanged actualType =>
    "is not found. The expected return type does not match actual type " ++ actualType

/-- The problem in words, without its source. -/
def text (problem : Problem) : String :=
  let statement := problem.symbol.text ++ " " ++ problem.message
  match problem.target with
  | some target => "(" ++ target.entry.text ++ ") " ++ statement
  | none => statement

end Problem

/-- An artifact without a file. -/
structure ArtifactProblem where
  coordinate : Coordinate
  /-- The artifacts from the root to this one; empty if they are not known. -/
  path : List Coordinate
  deriving DecidableEq, Repr

namespace ArtifactProblem

def text (problem : ArtifactProblem) : String :=
  problem.coordinate.text ++ " was not resolved. " ++
    if problem.path.isEmpty then "Dependency path is unknown."
    else "Dependency path: " ++ " > ".intercalate (problem.path.map (·.text))

end ArtifactProblem

/-- The words for a number of problems that were found. -/
def problemsFound (count : Nat) : String :=
  "found " ++ toString count ++ " linkage problem" ++ if count = 1 then "" else "s"

end Linkage
