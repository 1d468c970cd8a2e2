import Linkage.Pom.Effective
import Linkage.Resolution.Graph

/-!
Walking the dependencies of some roots, level by level.

Every path that is reached is recorded. The dependencies behind an artifact are followed from its
first path only, and only if the artifact has a file. Project descriptions are remembered once they
have been read.
-/

set_option autoImplicit false

namespace Linkage

/-- The project descriptions that have been read, and the artifacts that have none. -/
abbrev PomMemory := List (Coordinate × Option EffectivePom)

namespace PomMemory

/-- What the description of an artifact amounts to. Failures are not remembered. -/
def effectivePom (memory : PomMemory) (repositories : LocalRepositories) (fs : FileSystem)
    (coordinate : Coordinate) : Except CheckerError (Option EffectivePom) × PomMemory :=
  let described := Coordinate.plain coordinate.group coordinate.artifact coordinate.version
  match memory.lookup described with
  | some pom => (.ok pom, memory)
  | none =>
    match EffectivePom.build repositories fs EffectivePom.maxLevels described with
    | .ok pom => (.ok pom, (described, pom) :: memory)
    | .error error => (.error error, memory)

/-- The declared dependencies of an artifact; without a description it has none. -/
def directDependencies (memory : PomMemory) (repositories : LocalRepositories) (fs : FileSystem)
    (coordinate : Coordinate) : Except CheckerError (List Dependency) × PomMemory :=
  let (pom, memory) := memory.effectivePom repositories fs coordinate
  (pom.map fun pom => (pom.map (·.directDependencies)).getD [], memory)

/-- The artifacts of a bill of materials. -/
def managedCoordinates (memory : PomMemory) (repositories : LocalRepositories) (fs : FileSystem)
    (coordinate : Coordinate) : Except CheckerError (List Coordinate) × PomMemory :=
  let (pom, memory) := memory.effectivePom repositories fs coordinate
  let managed := pom.bind fun
    | some pom => .ok pom.managedCoordinates
    | none => .error (.artifactNotFound coordinate.text)
  (managed, memory)

end PomMemory

/-- A walk in progress. -/
structure Walk where
  /-- The paths that have not been looked at. -/
  queue : List DependencyPath
  /-- The artifacts that have been looked at. -/
  expanded : List Coordinate
  graph : DependencyGraph

namespace Walk

/-- A walk that is about to start. -/
def ofRoots (roots : List Coordinate) : Walk := ⟨roots.map .ofRoot, [], .empty⟩

/-- Whether a dependency of the last artifact of a path is followed. Optional and provided ones are
followed for roots only. -/
def follows (path : DependencyPath) (dependency : Dependency) : Bool :=
  dependency.scope != .test && dependency.scope != .system && dependency.scope != .import &&
    (path.dependencies.length == 1 || !(dependency.optional || dependency.scope == .provided)) &&
    !((path.dependencies.flatMap (·.exclusions)).contains dependency.coordinate.key)

/-- Records an artifact without a file. -/
def withoutFile (walk : Walk) (leaf : Coordinate) (path : DependencyPath) : Walk :=
  { walk with
    expanded := leaf :: walk.expanded
    graph := walk.graph.addProblem ⟨leaf, path.dependencies.map (·.coordinate)⟩ }

/-- Records an artifact with its file, and the paths to its dependencies. -/
def withFile (walk : Walk) (leaf : Coordinate) (path : DependencyPath) (file : Path)
    (dependencies : List Dependency) : Walk :=
  { queue := walk.queue ++ (dependencies.filter (follows path)).map path.append
    expanded := leaf :: walk.expanded
    graph := walk.graph.setFile leaf file }

/-- Records a path that is taken from the queue. -/
def take (walk : Walk) (path : DependencyPath) (rest : List DependencyPath) : Walk :=
  { walk with queue := rest, graph := walk.graph.addPath path }

/-- Looks at a path, which is the first of the queue. -/
def step (repositories : LocalRepositories) (fs : FileSystem) (walk : Walk) (path : DependencyPath)
    (rest : List DependencyPath) (memory : PomMemory) : Except CheckerError Walk × PomMemory :=
  match path.leaf with
  | none => (.ok { walk with queue := rest }, memory)
  | some leaf =>
    if walk.expanded.contains leaf then (.ok (walk.take path rest), memory)
    else
      match repositories.jarPath fs leaf with
      | none => (.ok ((walk.take path rest).withoutFile leaf path), memory)
      | some file =>
        let (dependencies, memory) := memory.directDependencies repositories fs leaf
        (dependencies.map ((walk.take path rest).withFile leaf path file), memory)

/-- A walk that never ends has some result, of which nothing is known. -/
instance : Nonempty (Except CheckerError DependencyGraph × PomMemory) := ⟨(.ok .empty, [])⟩

/-- Looks at the next path of the queue, or says what the walk has come to. -/
def advance (repositories : LocalRepositories) (fs : FileSystem) (state : Walk × PomMemory) :
    (Walk × PomMemory) ⊕ (Except CheckerError DependencyGraph × PomMemory) :=
  match state.1.queue with
  | [] => .inr (.ok state.1.graph, state.2)
  | path :: rest =>
    match step repositories fs state.1 path rest state.2 with
    | (.error error, memory) => .inr (.error error, memory)
    | (.ok next, memory) => .inl (next, memory)

/-- Looks at all paths of the queue and at those that are added to it. Nothing bounds how many are
added, so this need not come to an end. -/
def run (repositories : LocalRepositories) (fs : FileSystem) (walk : Walk) (memory : PomMemory) :
    Except CheckerError DependencyGraph × PomMemory :=
  Id.run (repeatM (fun state => pure (advance repositories fs state)) (walk, memory))

end Walk

end Linkage
