import Linkage.Check.Checker
import Linkage.Resolution.Builder

/-!
Finding the causes of problems.

A problem is compared with the class path that its source artifact has on its own. If the symbol is
there, then the artifact that defines it was selected in another version on the whole class path, or
not at all. Nothing that goes wrong on the way is an error: the cause is unknown then.
-/

set_option autoImplicit false

namespace Linkage

/-- The class path that an artifact has on its own. -/
structure Subtree where
  resolved : ResolvedClasspath
  /-- The symbols and source classes of the problems that it has by itself. -/
  problems : List (Symbol × String)

/-- What remains the same throughout a diagnosis. -/
structure Diagnoser where
  builder : ClasspathBuilder
  config : CheckerConfig
  fs : FileSystem

/-- What a diagnosis remembers. -/
structure DiagnosisMemory where
  poms : PomMemory
  /-- The class paths of artifacts; some could not be built or checked. -/
  subtrees : List (Coordinate × Option Subtree)

namespace Diagnoser

/-- The problems of a class path without any rules. -/
def problemsOf (diagnoser : Diagnoser) (resolved : ResolvedClasspath) :
    Except CheckerError (List (Symbol × String)) := do
  let checker ← Checker.create diagnoser.fs resolved diagnoser.config []
  let problems ← checker.problems diagnoser.fs
  pure (problems.map fun problem => (problem.symbol, problem.source.className))

/-- The class path that an artifact has on its own, if it can be built and checked. -/
def analyze (diagnoser : Diagnoser) (coordinate : Coordinate) (poms : PomMemory) :
    Option Subtree × PomMemory :=
  let (resolved, poms) := diagnoser.builder.resolve diagnoser.fs [coordinate] poms
  let subtree := do
    let resolved ← resolved
    pure (Subtree.mk resolved (← diagnoser.problemsOf resolved))
  (subtree.toOption, poms)

/-- The class path that an artifact has on its own, as it is remembered. -/
def subtree (diagnoser : Diagnoser) (coordinate : Coordinate) (memory : DiagnosisMemory) :
    Option Subtree × DiagnosisMemory :=
  match memory.subtrees.lookup coordinate with
  | some subtree => (subtree, memory)
  | none =>
    let (subtree, poms) := diagnoser.analyze coordinate memory.poms
    (subtree, ⟨poms, (coordinate, subtree) :: memory.subtrees⟩)

/-- The first of some entries that defines a class. -/
def provider (fs : FileSystem) (className : String) :
    List ClasspathEntry → Except CheckerError (Option ClasspathEntry)
  | [] => .ok none
  | entry :: rest => do
    if ← entry.defines fs className then pure (some entry) else provider fs className rest

/-- A path followed by another one that starts where it ends. -/
def joinPaths (outer inner : DependencyPath) : DependencyPath :=
  (inner.dependencies.drop 1).foldl DependencyPath.append outer

/-- The cause, given the artifact that defines the symbol's class and a path to it in the subtree
of the source artifact. -/
def causeOf (classpath : Classpath) (problem : Problem) (providing : Coordinate)
    (unselected : DependencyPath) : Cause :=
  match classpath.entryForKey? providing.key with
  | some selected =>
    if selected.coordinate = some providing then .unknown
    else
      .conflict problem.symbol ((classpath.paths selected).head?.getD .empty) unselected
  | none =>
    let path :=
      match (classpath.paths problem.source.entry).head? with
      | some outer => joinPaths outer unselected
      | none => unselected
    match path.findExclusion providing.key with
    | some excluding => .excluded path excluding
    | none => .missing path

/-- The cause of a problem, given the class path that its source artifact has on its own. -/
def causeIn (diagnoser : Diagnoser) (classpath : Classpath) (problem : Problem)
    (subtree : Subtree) : Cause :=
  if subtree.problems.contains (problem.symbol, problem.source.className) then .unknown
  else
    match provider diagnoser.fs problem.symbol.className subtree.resolved.entries with
    | .ok (some entry) =>
      match entry.coordinate, (subtree.resolved.classpath.paths entry).head? with
      | some providing, some unselected => causeOf classpath problem providing unselected
      | _, _ => .unknown
    | _ => .unknown

/-- The cause of a problem on a class path. -/
def diagnose (diagnoser : Diagnoser) (classpath : Classpath) (problem : Problem)
    (memory : DiagnosisMemory) : Cause × DiagnosisMemory :=
  match problem.source.entry.coordinate with
  | none => (.unknown, memory)
  | some coordinate =>
    match diagnoser.subtree coordinate memory with
    | (none, memory) => (.unknown, memory)
    | (some subtree, memory) => (diagnoser.causeIn classpath problem subtree, memory)

/-- Problems with their causes, in the same order. -/
def explain (diagnoser : Diagnoser) (classpath : Classpath) :
    List Problem → DiagnosisMemory → List Problem × DiagnosisMemory
  | [], memory => ([], memory)
  | problem :: rest, memory =>
    let (cause, memory) := diagnoser.diagnose classpath problem memory
    let (explained, memory) := explain diagnoser classpath rest memory
    ({ problem with cause := some cause } :: explained, memory)

/-- A set of problems with their causes. -/
def annotate (diagnoser : Diagnoser) (classpath : Classpath) (problems : List Problem)
    (memory : DiagnosisMemory) : List Problem × DiagnosisMemory :=
  let (explained, memory) := diagnoser.explain classpath problems memory
  (Ordered.ofList explained, memory)

end Diagnoser

end Linkage
