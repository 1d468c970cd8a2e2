import Linkage.Artifact.Coordinate

/-!
Dependencies and the paths that they form.

A dependency is an artifact together with how it was declared. A path runs from a root of the
dependency graph to an artifact; when a graph has several roots, its paths have no root of their
own and start with a dependency on one of them.
-/

set_option autoImplicit false

namespace Linkage

/-- When a dependency is needed. -/
inductive Scope where
  | compile
  | runtime
  | provided
  | test
  | system
  | «import»
  deriving DecidableEq, Repr

namespace Scope

def text : Scope → String
  | compile => "compile"
  | runtime => "runtime"
  | provided => "provided"
  | test => "test"
  | system => "system"
  | «import» => "import"

/-- Reads a scope between white space; anything that is not a scope counts as `compile`. -/
def parse (text : String) : Scope :=
  match Text.trim text with
  | "runtime" => runtime
  | "provided" => provided
  | "test" => test
  | "system" => system
  | "import" => «import»
  | _ => compile

end Scope

/-- An artifact and how it was declared. -/
structure Dependency where
  coordinate : Coordinate
  scope : Scope
  optional : Bool
  /-- The keys that this declaration keeps out of its own subtree. -/
  exclusions : List Key
  deriving DecidableEq, Repr

namespace Dependency

/-- A required compile-time dependency that excludes nothing. -/
def plain (coordinate : Coordinate) : Dependency := ⟨coordinate, .compile, false, []⟩

def text (d : Dependency) : String :=
  d.coordinate.text ++ " (" ++ d.scope.text ++ (if d.optional then ", optional" else "") ++ ")"

end Dependency

/-- A way through the dependency graph. -/
structure DependencyPath where
  root : Option Coordinate
  dependencies : List Dependency
  deriving DecidableEq, Repr

namespace DependencyPath

/-- The path with neither root nor dependencies. -/
def empty : DependencyPath := ⟨none, []⟩

/-- A path without a root that consists of one plain dependency. -/
def ofRoot (coordinate : Coordinate) : DependencyPath := ⟨none, [.plain coordinate]⟩

/-- The path with one more dependency at its end. -/
def append (path : DependencyPath) (dependency : Dependency) : DependencyPath :=
  { path with dependencies := path.dependencies ++ [dependency] }

/-- The path followed by the dependencies of another one, whose root is dropped. -/
def concat (path child : DependencyPath) : DependencyPath :=
  { path with dependencies := path.dependencies ++ child.dependencies }

/-- The number of nodes. The place of the root counts even when there is none. -/
def length (path : DependencyPath) : Nat := path.dependencies.length + 1

def isEmpty (path : DependencyPath) : Bool := path.root.isNone && path.dependencies.isEmpty

/-- The artifact at the end. -/
def leaf (path : DependencyPath) : Option Coordinate :=
  match path.dependencies.getLast? with
  | some dependency => some dependency.coordinate
  | none => path.root

/-- The artifact at a node; node 0 is the root. -/
def node? (path : DependencyPath) : Nat → Option Coordinate
  | 0 => path.root
  | i + 1 => path.dependencies[i]?.map (·.coordinate)

/-- The artifacts of the path, root first. -/
def coordinates (path : DependencyPath) : List Coordinate :=
  path.root.toList ++ path.dependencies.map (·.coordinate)

def keys (path : DependencyPath) : List Key := path.coordinates.map (·.key)

def containsKey (path : DependencyPath) (key : Key) : Bool := path.keys.contains key

/-- The path without its last dependency. -/
def parent (path : DependencyPath) : DependencyPath :=
  { path with dependencies := path.dependencies.dropLast }

/-- Looks for the first dependency that excludes `key`. The exclusion is declared by the artifact
before that dependency, `declarer`, if there is one. -/
def findExclusionFrom (key : Key) (declarer : Option Coordinate) :
    List Dependency → Option Coordinate
  | [] => none
  | dependency :: rest =>
    if dependency.exclusions.contains key then declarer
    else findExclusionFrom key (some dependency.coordinate) rest

/-- The artifact that declares the first exclusion of `key` on the path. -/
def findExclusion (path : DependencyPath) (key : Key) : Option Coordinate :=
  findExclusionFrom key path.root path.dependencies

def text (path : DependencyPath) : String :=
  " / ".intercalate
    (path.root.toList.map (·.text) ++ path.dependencies.map (·.text))

end DependencyPath

end Linkage
