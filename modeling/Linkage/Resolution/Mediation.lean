import Linkage.Artifact.Version
import Linkage.Classpath.Annotated
import Linkage.Resolution.Graph

/-!
Mediation: one artifact for each key.

The Maven way takes the artifact at the end of the first path to a key, which is a nearest one. The
Gradle way takes the highest version that some path leads to, unless the platform enforces a version
for the key. The class path has an entry for each selected artifact that has a file, in the order of
the paths.
-/

set_option autoImplicit false

namespace Linkage

/-- The ways to mediate between versions. -/
inductive MediationStrategy where
  | maven
  | gradle
  deriving DecidableEq, Repr

namespace MediationStrategy

def text : MediationStrategy → String
  | maven => "maven"
  | gradle => "gradle"

/-- A text in small letters; letters outside of ASCII stay. -/
def lowered (text : String) : String := String.ofList (text.toList.map Char.toLower)

/-- Reads the name of a strategy in any letter case, or gives the text that was not one. -/
def parse (text : String) : Except String MediationStrategy :=
  match lowered text with
  | "maven" => .ok maven
  | "gradle" => .ok gradle
  | other => .error other

/-- What is said of a text that is not the name of a strategy. -/
def unknownText (text : String) : String :=
  "unknown mediation `" ++ text ++ "`; expected maven or gradle"

end MediationStrategy

/-- The versions that are enforced for keys. -/
abbrev Platform := List (Key × String)

namespace Mediation

/-- The class path before any artifact is selected. -/
def start (graph : DependencyGraph) : ResolvedClasspath := ⟨.empty, [], graph.artifactProblems⟩

/-- Reports an artifact without a file, once. -/
def report (resolved : ResolvedClasspath) (coordinate : Coordinate) (path : DependencyPath) :
    ResolvedClasspath :=
  if resolved.artifactProblems.any (·.coordinate == coordinate) then resolved
  else
    { resolved with
      artifactProblems := resolved.artifactProblems ++ [⟨coordinate, path.coordinates⟩] }

/-- Adds a selected artifact with a path that leads to it. -/
def place (graph : DependencyGraph) (resolved : ResolvedClasspath) (coordinate : Coordinate)
    (path : DependencyPath) : ResolvedClasspath :=
  match graph.file? coordinate with
  | some file =>
    { resolved with classpath := resolved.classpath.insert ⟨file, some coordinate⟩ path }
  | none => report resolved coordinate path

/-- A mediation in progress, where the first artifact of a key is selected. -/
structure Nearest where
  selected : List (Key × Coordinate)
  resolved : ResolvedClasspath

namespace Nearest

/-- Takes the next path. -/
def next (graph : DependencyGraph) (state : Nearest) (path : DependencyPath) : Nearest :=
  match path.leaf with
  | none => state
  | some leaf =>
    match state.selected.lookup leaf.key with
    | none => ⟨(leaf.key, leaf) :: state.selected, place graph state.resolved leaf path⟩
    | some winner =>
      if winner = leaf then { state with resolved := place graph state.resolved leaf path }
      else state

end Nearest

/-- Selects the nearest artifact of each key. -/
def nearest (graph : DependencyGraph) : ResolvedClasspath :=
  (graph.paths.foldl (Nearest.next graph) ⟨[], start graph⟩).resolved

/-- The artifacts of each key at the ends of paths, both in the order of the paths. -/
abbrev Observed := List (Key × List Coordinate)

/-- Adds an artifact to those of its key. -/
def observe (observed : Observed) (leaf : Coordinate) : Observed :=
  match observed with
  | [] => [(leaf.key, [leaf])]
  | (key, versions) :: rest =>
    if key = leaf.key then
      (key, if versions.contains leaf then versions else versions ++ [leaf]) :: rest
    else (key, versions) :: observe rest leaf

/-- The artifacts at the ends of the paths of a graph. -/
def observed (graph : DependencyGraph) : Observed :=
  (graph.paths.filterMap (·.leaf)).foldl observe []

/-- The first of the artifacts with the highest version. -/
def highestOf : List Coordinate → Option Coordinate
  | [] => none
  | first :: rest =>
    some (rest.foldl (fun best candidate =>
      if Version.order candidate.version best.version = .gt then candidate else best) first)

/-- The artifact with an enforced version. If there is none, the first artifact stands in for it
at that version. -/
def enforcedOf (version : String) (versions : List Coordinate) : Option Coordinate :=
  (versions.find? (·.version == version)).or (versions.head?.map (·.withVersion version))

/-- The artifact that is selected for a key. -/
def winner? (platform : Platform) (key : Key) (versions : List Coordinate) : Option Coordinate :=
  match platform.lookup key with
  | some version => enforcedOf version versions
  | none => highestOf versions

/-- The artifacts that are selected, by their keys. -/
def winners (platform : Platform) (observed : Observed) : List (Key × Coordinate) :=
  observed.filterMap fun (key, versions) =>
    (winner? platform key versions).map fun winner => (key, winner)

/-- The path to an artifact that takes the place of the one at its end. -/
def substitute (path : DependencyPath) (winner : Coordinate) : DependencyPath :=
  match path.dependencies.getLast? with
  | some last => path.parent.append { last with coordinate := winner }
  | none => path

/-- A mediation in progress, where the selected artifacts are known. -/
structure Highest where
  placed : List Key
  resolved : ResolvedClasspath

namespace Highest

/-- Takes the next path. A selected artifact that no path leads to takes the place of the first one
of its key. -/
def next (graph : DependencyGraph) (observed : Observed) (selected : List (Key × Coordinate))
    (state : Highest) (path : DependencyPath) : Highest :=
  match path.leaf with
  | none => state
  | some leaf =>
    match selected.lookup leaf.key with
    | none => state
    | some winner =>
      if winner = leaf then
        ⟨leaf.key :: state.placed, place graph state.resolved leaf path⟩
      else if state.placed.contains leaf.key ||
          ((observed.lookup winner.key).any (·.contains winner)) then state
      else
        ⟨leaf.key :: state.placed,
          place graph state.resolved winner (substitute path winner)⟩

end Highest

/-- Selects the highest version of each key, unless the platform enforces another one. -/
def highest (platform : Platform) (graph : DependencyGraph) : ResolvedClasspath :=
  let seen := observed graph
  (graph.paths.foldl (Highest.next graph seen (winners platform seen)) ⟨[], start graph⟩).resolved

end Mediation

namespace MediationStrategy

/-- The class path that a strategy makes of a graph. Only the Gradle way knows a platform. -/
def mediate (strategy : MediationStrategy) (platform : Platform) (graph : DependencyGraph) :
    ResolvedClasspath :=
  match strategy with
  | maven => Mediation.nearest graph
  | gradle => Mediation.highest platform graph

end MediationStrategy

end Linkage
