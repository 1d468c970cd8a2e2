import Linkage.Check.Checker
import Linkage.Proofs.Repository

/-!
Remembering lookups changes no answer.

Whatever was looked up, forgotten or failed before, a lookup gives what the loader gives. So the
room for remembered lookups, and the use that a repository has seen before a run, do not show in the
problems that the run finds.
-/

set_option autoImplicit false

namespace Linkage

namespace Repository

/-- Looks classes up one after another. A lookup that fails does not end the sequence. -/
def findAll (repository : Repository) (fs : FileSystem) :
    List String → List (Except CheckerError ClassLookup) × Repository
  | [] => ([], repository)
  | className :: rest =>
    let (lookup, repository) := repository.find fs className
    let (lookups, repository) := findAll repository fs rest
    (lookup :: lookups, repository)

/-- A repository that keeps up to a number of lookups, and at least one. -/
def caching (loader : Loader) (capacity : Nat) : Repository :=
  ofLoader loader (some (.ofCapacity capacity))

variable {fs : FileSystem} {loader : Loader} {repository : Repository}

theorem Follows.findAll (follows : repository.Follows fs loader) (requests : List String) :
    (repository.findAll fs requests).1 = requests.map (loader.load fs) ∧
      (repository.findAll fs requests).2.Follows fs loader := by
  induction requests generalizing repository with
  | nil => exact ⟨rfl, follows⟩
  | cons className rest ih =>
    obtain ⟨same, kept⟩ := follows.find className
    obtain ⟨others, keptByAll⟩ := ih kept
    constructor
    · simp only [Repository.findAll, same, others, List.map_cons]
    · exact keptByAll

private theorem caching_follows (fs : FileSystem) (loader : Loader) (capacity : Nat) :
    (caching loader capacity).Follows fs loader := by
  apply ofLoader_follows
  rintro lru ⟨⟩
  rfl

end Repository

namespace Checker

/-- The problems that no rule covers, as a repository in use finds them, and the repository
afterwards. -/
def problemsFrom (checker : Checker) (fs : FileSystem) (repository : Repository) :
    Except CheckerError (List Problem) × Repository :=
  let ran := (checker.inquiry fs).run fs repository
  (ran.1.map fun problems => problems.filter (!ExclusionRule.excludes checker.rules ·), ran.2)

/-- The problems that no rule covers, or the failure, if the loader answers every lookup. -/
def answered (checker : Checker) (fs : FileSystem) : Except CheckerError (List Problem) :=
  ((checker.inquiry fs).answer (checker.loader.load fs)).map fun problems =>
    problems.filter (!ExclusionRule.excludes checker.rules ·)

variable {fs : FileSystem} {checker : Checker}

theorem problemsFrom_eq_answered {repository : Repository}
    (follows : repository.Follows fs checker.loader) :
    (checker.problemsFrom fs repository).1 = checker.answered fs ∧
      (checker.problemsFrom fs repository).2.Follows fs checker.loader := by
  obtain ⟨same, kept⟩ := (checker.inquiry fs).run_eq_answer follows
  constructor
  · simp only [problemsFrom, answered, same]
  · exact kept

theorem problems_eq_answered (checker : Checker) (fs : FileSystem) :
    checker.problems fs = checker.answered fs :=
  (problemsFrom_eq_answered (Repository.ofCapacity_follows fs checker.loader _)).1

private theorem create_cacheCapacity (fs : FileSystem) (resolved : ResolvedClasspath)
    (config : CheckerConfig) (rules : List ExclusionRule) (capacity : Nat) :
    create fs resolved { config with cacheCapacity := capacity } rules =
      (create fs resolved config rules).map fun checker =>
        { checker with cacheCapacity := capacity } := by
  unfold create
  split
  · rfl
  · cases SymbolReferences.extract fs resolved.entries with
    | error error => rfl
    | ok references =>
      simp only [bind, Except.bind]
      cases references.graph fs resolved.entryPoints <;> rfl

end Checker

/-- Lookups are answered as by the loader, however many are kept and whatever came before them. So a
run finds the same problems, or fails in the same way, with any number of lookups kept or none at
all, and also when its repository has been used by other lookups and runs. -/
theorem Checker.caching_transparent (fs : FileSystem) :
    (∀ (loader : Loader) (capacity : Nat) (requests : List String),
      ((Repository.caching loader capacity).findAll fs requests).1 =
        requests.map (loader.load fs)) ∧
    (∀ (resolved : ResolvedClasspath) (config : CheckerConfig) (rules : List ExclusionRule)
      (capacity : Nat),
      (create fs resolved { config with cacheCapacity := capacity } rules >>=
          fun checker => checker.problems fs) =
        (create fs resolved config rules >>= fun checker => checker.problems fs)) ∧
    ∀ (checker : Checker) (capacity : Nat) (requests : List String),
      let used := ((Repository.ofCapacity checker.loader capacity).findAll fs requests).2
      (checker.problemsFrom fs used).1 = checker.problems fs ∧
        (checker.problemsFrom fs (checker.problemsFrom fs used).2).1 = checker.problems fs := by
  refine ⟨?_, ?_, ?_⟩
  · intro loader capacity requests
    exact ((Repository.caching_follows fs loader capacity).findAll requests).1
  · intro resolved config rules capacity
    simp only [create_cacheCapacity, problems_eq_answered]
    cases create fs resolved config rules <;> rfl
  · intro checker capacity requests
    have follows := ((Repository.ofCapacity_follows fs checker.loader capacity).findAll requests).2
    obtain ⟨first, kept⟩ := problemsFrom_eq_answered follows
    obtain ⟨second, _⟩ := problemsFrom_eq_answered kept
    rw [problems_eq_answered]
    exact ⟨first, second⟩

end Linkage
