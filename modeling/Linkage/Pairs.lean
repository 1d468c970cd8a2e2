import Linkage.Check.Checker
import Linkage.Exclusion.Reader
import Linkage.Resolution.Builder

/-!
How well artifacts go together in pairs.

A pair counts the problems of its common class path that neither artifact has on its own.
-/

set_option autoImplicit false

namespace Linkage

/-- The number of problems that two artifacts have only together. -/
structure PairResult where
  first : String
  second : String
  problemCount : Nat
  deriving DecidableEq, Repr

namespace PairResult

def order (a b : PairResult) : Ordering :=
  (compare a.first b.first).then <| (compare a.second b.second).then
    (compare a.problemCount b.problemCount)

def toJson (result : PairResult) : JsonValue :=
  .object [("first", .string result.first), ("second", .string result.second),
    ("problem_count", .number result.problemCount)]

end PairResult

/-- What remains the same for all pairs. -/
structure PairChecker where
  builder : ClasspathBuilder
  config : CheckerConfig
  rules : List ExclusionRule
  fs : FileSystem

namespace PairChecker

/-- The problems of the common class path of some artifacts. -/
def problems (checker : PairChecker) (roots : List Coordinate) (memory : PomMemory) :
    Except Failure (List Problem) × PomMemory :=
  let (resolved, memory) := checker.builder.resolve checker.fs roots memory
  let problems := do
    (← Checker.create checker.fs (← resolved) checker.config checker.rules).problems checker.fs
  (problems.mapError (.during (.checking roots)), memory)

/-- The problems of several class paths. All are checked; the first failure counts. -/
def problemsOfAll (checker : PairChecker) :
    List (List Coordinate) → PomMemory →
      Except Failure (List (List Coordinate × List Problem)) × PomMemory
  | [], memory => (.ok [], memory)
  | roots :: rest, memory =>
    let (first, memory) := checker.problems roots memory
    let (others, memory) := problemsOfAll checker rest memory
    (do pure ((roots, ← first) :: (← others)), memory)

/-- The pairs of a list, in order. -/
def pairsOf : List Coordinate → List (Coordinate × Coordinate)
  | [] => []
  | first :: rest => rest.map (first, ·) ++ pairsOf rest

/-- The problems that were found for an artifact on its own. The last result for it counts. -/
def alone (singles : List (List Coordinate × List Problem)) (artifact : Coordinate) :
    List Problem :=
  ((singles.reverse.find? fun (roots, _) => roots == [artifact]).map (·.2)).getD []

/-- The result for a pair. -/
def result (singles : List (List Coordinate × List Problem)) (first second : Coordinate)
    (together : List Problem) : PairResult :=
  let new := together.filter fun problem =>
    !Ordered.contains (alone singles first) problem &&
      !Ordered.contains (alone singles second) problem
  ⟨first.text, second.text, new.length⟩

/-- The result for the artifacts of one class path, if they are a pair. -/
def result? (singles : List (List Coordinate × List Problem))
    (analysis : List Coordinate × List Problem) : Option PairResult :=
  match analysis with
  | ([first, second], together) => some (result singles first second together)
  | _ => none

/-- The results for all pairs of some artifacts, in order. -/
def check (checker : PairChecker) (artifacts : List Coordinate) (memory : PomMemory) :
    Except Failure (List PairResult) × PomMemory :=
  let (singles, memory) := checker.problemsOfAll (artifacts.map ([·])) memory
  match singles with
  | .error failure => (.error failure, memory)
  | .ok singles =>
    let jobs := (pairsOf artifacts).map fun (first, second) => [first, second]
    let (analyses, memory) := checker.problemsOfAll jobs memory
    (analyses.map fun analyses =>
      (analyses.filterMap (result? singles)).mergeSort fun a b => (a.order b).isLE, memory)

end PairChecker

/-- The rules that a configuration asks for. -/
def CheckerConfig.rules (config : CheckerConfig) (fs : FileSystem) :
    Except CheckerError (List ExclusionRule) :=
  match config.exclusionFile with
  | none => .ok ExclusionRule.builtIn
  | some path => (ExclusionReader.load fs path).map (ExclusionRule.builtIn ++ ·)

/-- The results for all pairs of some artifacts under a configuration. -/
def checkPairs (fs : FileSystem) (builder : ClasspathBuilder) (config : CheckerConfig)
    (artifacts : List Coordinate) : Except Failure (List PairResult) := do
  let rules ← (config.rules fs).mapError .ofError
  (PairChecker.check ⟨builder, config, rules, fs⟩ artifacts []).1

end Linkage
