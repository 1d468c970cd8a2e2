import Linkage.Pom.Model
import Linkage.Resolution.Layout

/-!
What a project description amounts to together with its parents and imports.

Properties and managed dependencies are inherited from the parent and overridden. Managed
dependencies of imported projects count for keys that have none otherwise. A declared dependency
replaces an inherited one with the same key and takes what it leaves open from the managed one.
-/

set_option autoImplicit false

namespace Linkage

/-- A project description with everything that it inherits. -/
structure EffectivePom where
  properties : Properties
  management : List (Key × PomDependency)
  dependencies : List PomDependency
  deriving DecidableEq, Repr

namespace EffectivePom

/-- The description that inherits and declares nothing. -/
def empty : EffectivePom := ⟨[], [], []⟩

/-- The artifact of a parent. -/
def parentCoordinate (parent : PomParent) : Coordinate :=
  .plain parent.group parent.artifact parent.version

/-- The properties that every project has. -/
def projectProperties (coordinate : Coordinate) (pom : Pom) : Properties :=
  let group := (pom.group.or (pom.parent.map (·.group))).getD coordinate.group
  let artifact := pom.artifact.getD coordinate.artifact
  let version := (pom.version.or (pom.parent.map (·.version))).getD coordinate.version
  [("project.groupId", group), ("pom.groupId", group),
    ("project.artifactId", artifact), ("pom.artifactId", artifact),
    ("project.version", version), ("pom.version", version)] ++
    match pom.parent with
    | none => []
    | some parent =>
      [("project.parent.groupId", parent.group), ("project.parent.version", parent.version)]

/-- Adds properties, which override those with the same name. -/
def overrideProperties (properties added : Properties) : Properties :=
  added.foldl (fun table (name, value) => Ordered.put name value table) properties

/-- The properties that hold in a project. -/
def propertiesOf (coordinate : Coordinate) (parent : EffectivePom) (pom : Pom) : Properties :=
  overrideProperties (overrideProperties parent.properties pom.properties)
    (projectProperties coordinate pom)

/-- Adds managed dependencies, which override those with the same key. -/
def overrideManagement (management : List (Key × PomDependency)) (added : List PomDependency) :
    List (Key × PomDependency) :=
  added.foldl (fun table managed => Ordered.put managed.key managed table) management

/-- Adds managed dependencies for keys that have none. -/
def extendManagement (management added : List (Key × PomDependency)) :
    List (Key × PomDependency) :=
  added.foldl (fun table (key, managed) => Ordered.putNew key managed table) management

/-- The project that an import stands for, if its version is given. -/
def importCoordinate? (d : PomDependency) : Option Coordinate :=
  d.version.map (.plain d.group d.artifact)

/-- A declared dependency with what it leaves open filled in. -/
def complete (management : List (Key × PomDependency)) (d : PomDependency) : PomDependency :=
  match Ordered.get? management d.key with
  | some managed => d.fillFrom managed
  | none => d

/-- Adds a declared dependency, which takes the place of one with the same key. -/
def addDependency (dependencies : List PomDependency) (d : PomDependency) : List PomDependency :=
  dependencies.filter (·.key != d.key) ++ [d]

/-- The whole of a description, given its parent and its imports. -/
def assemble (properties : Properties) (parent : EffectivePom)
    (management : List (Key × PomDependency)) (pom : Pom) : EffectivePom :=
  let declared := pom.dependencies.map fun d => complete management (d.expand properties)
  ⟨properties, management, declared.foldl addDependency parent.dependencies⟩

/-- The most levels of parents and imports, the project itself included. -/
def maxLevels : Nat := 33

section Described

/-! Descriptions lead to those of other projects, which `described` gives. -/

variable (described : Coordinate → Except CheckerError (Option EffectivePom))

/-- What a description inherits; a parent without a description counts for nothing. -/
def inherited (pom : Pom) : Except CheckerError EffectivePom :=
  match pom.parent with
  | none => .ok empty
  | some parent => (described (parentCoordinate parent)).map (·.getD empty)

/-- Adds what an imported project manages. -/
def addImport (management : List (Key × PomDependency)) (imported : Coordinate) :
    Except CheckerError (List (Key × PomDependency)) :=
  (described imported).map fun pom =>
    extendManagement management ((pom.map (·.management)).getD [])

/-- The whole of a description. -/
def complement (coordinate : Coordinate) (pom : Pom) : Except CheckerError EffectivePom := do
  let parent ← inherited described pom
  let properties := propertiesOf coordinate parent pom
  let managed := pom.management.map (·.expand properties)
  let own := overrideManagement parent.management (managed.filter (!·.isImport))
  let imports := (managed.filter (·.isImport)).filterMap importCoordinate?
  let management ← imports.foldlM (addImport described) own
  pure (assemble properties parent management pom)

end Described

/-- What the description of an artifact amounts to, if there is one, where `read` says it for the
file of the description. -/
def ofFile? (repositories : LocalRepositories) (fs : FileSystem) (coordinate : Coordinate)
    (read : Path → Except CheckerError EffectivePom) : Except CheckerError (Option EffectivePom) :=
  match repositories.pomPath fs coordinate with
  | none => .ok none
  | some path => (read path).map some

/-- What the description of an artifact amounts to, if there is one, when parents and imports may
go `levels` deep. -/
def build (repositories : LocalRepositories) (fs : FileSystem) :
    Nat → Coordinate → Except CheckerError (Option EffectivePom)
  | 0, coordinate =>
    ofFile? repositories fs coordinate fun path => .error (.invalidPom path .parentChainTooDeep)
  | levels + 1, coordinate =>
    ofFile? repositories fs coordinate fun path => do
      complement (build repositories fs levels) coordinate (← Pom.load fs path)

/-- The dependencies of the project. -/
def directDependencies (pom : EffectivePom) : List Dependency :=
  pom.dependencies.filterMap (·.dependency?)

/-- The artifact of a managed dependency, if it brings classes other than tests. -/
def managedCoordinate? (d : PomDependency) : Option Coordinate :=
  if d.isJar && d.classifier != some "tests" then d.coordinate? else none

/-- The artifacts of a bill of materials, ordered by their keys. -/
def managedCoordinates (pom : EffectivePom) : List Coordinate :=
  pom.management.filterMap fun (_, d) => managedCoordinate? d

end EffectivePom

end Linkage
