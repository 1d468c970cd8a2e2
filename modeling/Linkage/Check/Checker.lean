import Linkage.Classpath.Annotated
import Linkage.Config
import Linkage.Check.Reference
import Linkage.Check.References
import Linkage.Exclusion.Rule

/-!
Checking a whole class path.

Every class is checked against what it refers to outside of its own entry. The problems form a set,
from which those that a rule covers are taken out.
-/

set_option autoImplicit false

namespace Linkage

/-- A class path that is ready to be checked. -/
structure Checker where
  loader : Loader
  cacheCapacity : Nat
  references : SymbolReferences
  graph : ReferenceGraph
  rules : List ExclusionRule
  guardTypes : List String

namespace Checker

/-- Reads all classes of a class path. -/
def create (fs : FileSystem) (resolved : ResolvedClasspath) (config : CheckerConfig)
    (rules : List ExclusionRule) : Except CheckerError Checker := do
  if resolved.entries.isEmpty then .error .emptyClasspath
  else
    let references ← SymbolReferences.extract fs resolved.entries
    let graph ← references.graph fs resolved.entryPoints
    pure {
      loader :=
        ⟨resolved.entries, config.bootstrap.map ClasspathEntry.ofPath, config.systemPackages⟩
      cacheCapacity := config.cacheCapacity
      references := references
      graph := graph
      rules := rules
      guardTypes := config.guardTypes }

/-- The checker of the same class path for other references. -/
def withReferences (checker : Checker) (references : SymbolReferences) : Checker :=
  { checker with references := references }

/-- The checker of the same class path without the references of the entry with a path. -/
def withoutPath (checker : Checker) (path : Path) : Checker :=
  match checker.loader.classpath.find? (·.path.same path) with
  | some entry => checker.withReferences (checker.references.withoutEntry entry)
  | none => checker

/-- What the checks share. -/
def context (checker : Checker) (fs : FileSystem) : CheckContext where
  fs := fs
  bound := (checker.loader.classNames fs).length
  systemPackages := checker.loader.systemPackages
  guardTypes := checker.guardTypes

/-- Adds a problem to a set, if there is one. -/
def addProblem (problems : List Problem) : Option Problem → List Problem
  | some problem => Ordered.insert problem problems
  | none => problems

/-- Adds the problems of the symbols that a class refers to outside of its own entry, where `own`
are the classes of the entry. -/
def addSymbols (context : CheckContext) (source : SourceClass) (own : List String) :
    List Problem → List Symbol → Inquiry (List Problem)
  | problems, [] => pure problems
  | problems, symbol :: rest => do
    if own.contains symbol.className then addSymbols context source own problems rest
    else
      let problem ← context.checkSymbol source symbol
      addSymbols context source own (addProblem problems problem) rest

/-- Adds the problems of a class that was read. -/
def addSource (context : CheckContext) (source : SourceClass) (symbols : List Symbol)
    (problems : List Problem) : Inquiry (List Problem) := do
  let own ← Inquiry.ofExcept (source.location.entry.classNames context.fs)
  let problems ← addSymbols context source own problems symbols
  let abstract ← context.checkAbstractMethods source
  pure (abstract.foldl (fun set problem => Ordered.insert problem set) problems)

/-- Adds the problems of all classes of a table. -/
def addAll (context : CheckContext) :
    List Problem → List (ClassLocation × List Symbol) → Inquiry (List Problem)
  | problems, [] => pure problems
  | problems, (location, symbols) :: rest => do
    match ← context.loadSource location with
    | none => addAll context problems rest
    | some info => addAll context (← addSource context ⟨location, info⟩ symbols problems) rest

/-- All problems of a class path. -/
def inquiry (checker : Checker) (fs : FileSystem) : Inquiry (List Problem) :=
  addAll (checker.context fs) [] checker.references.table

/-- The problems that no rule covers, as a repository with some cache finds them. -/
def problems (checker : Checker) (fs : FileSystem) : Except CheckerError (List Problem) :=
  let repository := Repository.ofCapacity checker.loader checker.cacheCapacity
  ((checker.inquiry fs).run fs repository).1.map fun problems =>
    problems.filter (!ExclusionRule.excludes checker.rules ·)

/-- Whether the source of a problem, or a class nested in it, is reachable. -/
def isReachable (checker : Checker) (problem : Problem) : Bool :=
  checker.graph.reachable.any fun name => topLevelName name == problem.source.className

/-- The problems that no rule covers and whose sources are reachable. -/
def reachableProblems (checker : Checker) (fs : FileSystem) : Except CheckerError (List Problem) :=
  (checker.problems fs).map fun problems => problems.filter checker.isReachable

/-- The problems that a configuration asks for. -/
def selectedProblems (checker : Checker) (fs : FileSystem) (onlyReachable : Bool) :
    Except CheckerError (List Problem) :=
  if onlyReachable then checker.reachableProblems fs else checker.problems fs

end Checker

end Linkage
