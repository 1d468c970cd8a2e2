import Linkage.Proofs.PomPrecedence
import Linkage.Resolution.Walk

/-!
Walks step by step, and those that return.

A step says nothing of how many steps follow it. So what is said of the result of a walk is said of
walks that return: after some number of steps the queue is empty, or a step has failed. What has
been read before does not change the steps of a walk, nor whether it returns.
-/

set_option autoImplicit false

namespace Linkage

namespace PomMemory

variable (memory : PomMemory) (repositories : LocalRepositories) (fs : FileSystem)

attribute [local irreducible] EffectivePom.build

theorem effectivePom_fst (c : Coordinate) :
    (memory.effectivePom repositories fs c).1 =
      match memory.lookup (.plain c.group c.artifact c.version) with
      | some pom => .ok pom
      | none => EffectivePom.build repositories fs EffectivePom.maxLevels
          (.plain c.group c.artifact c.version) := by
  unfold effectivePom
  dsimp only
  cases memory.lookup (.plain c.group c.artifact c.version) with
  | some pom => rfl
  | none =>
    dsimp only
    cases EffectivePom.build repositories fs EffectivePom.maxLevels
      (.plain c.group c.artifact c.version) <;> rfl

private theorem effectivePom_snd (c : Coordinate) :
    (memory.effectivePom repositories fs c).2 = memory ∨
      ∃ pom, memory.lookup (.plain c.group c.artifact c.version) = none ∧
        EffectivePom.build repositories fs EffectivePom.maxLevels
          (.plain c.group c.artifact c.version) = .ok pom ∧
        (memory.effectivePom repositories fs c).2 =
          (.plain c.group c.artifact c.version, pom) :: memory := by
  unfold effectivePom
  dsimp only
  cases memory.lookup (.plain c.group c.artifact c.version) with
  | some pom => exact .inl rfl
  | none =>
    dsimp only
    cases EffectivePom.build repositories fs EffectivePom.maxLevels
        (.plain c.group c.artifact c.version) with
    | ok pom => exact .inr ⟨pom, rfl, rfl, rfl⟩
    | error error => exact .inl rfl

/-- What has been read is remembered. -/
theorem directDependencies_remembered {c : Coordinate} {dependencies : List Dependency}
    (unknown : memory.lookup (.plain c.group c.artifact c.version) = none)
    (read : (memory.directDependencies repositories fs c).1 = .ok dependencies) :
    ∃ pom, (memory.directDependencies repositories fs c).2 =
      (.plain c.group c.artifact c.version, pom) :: memory := by
  obtain ⟨pom, effective, _⟩ := map_ok read
  have built : EffectivePom.build repositories fs EffectivePom.maxLevels
      (.plain c.group c.artifact c.version) = .ok pom := by
    rw [← effective]
    exact (by rw [effectivePom_fst, unknown] : _ = (memory.effectivePom repositories fs c).1)
  exact ⟨pom, by simp only [directDependencies, effectivePom, unknown, built]⟩

private theorem effectivePom_again (c other : Coordinate) :
    ((memory.effectivePom repositories fs c).2.effectivePom repositories fs other).1 =
      (memory.effectivePom repositories fs other).1 := by
  rcases effectivePom_snd memory repositories fs c with same | ⟨pom, unknown, built, added⟩
  · rw [same]
  · -- What was added is what another reading would give.
    rw [added, effectivePom_fst, effectivePom_fst, List.lookup_cons]
    by_cases same : Coordinate.plain other.group other.artifact other.version =
        .plain c.group c.artifact c.version
    · simp only [same, beq_self_eq_true, unknown, built]
    · simp only [beq_eq_false_iff_ne.2 same]

/-- Which dependencies an artifact declares does not depend on what else has been read. -/
theorem directDependencies_again (c other : Coordinate) :
    ((memory.directDependencies repositories fs c).2.directDependencies repositories fs other).1 =
      (memory.directDependencies repositories fs other).1 := by
  simp only [directDependencies]
  rw [effectivePom_again]

/-- Whether the same dependencies are read with either of two memories. -/
def Agrees (other : PomMemory) : Prop :=
  ∀ c, (memory.directDependencies repositories fs c).1 =
    (other.directDependencies repositories fs c).1

variable {memory repositories fs} {other third : PomMemory}

theorem Agrees.symm (agrees : memory.Agrees repositories fs other) :
    other.Agrees repositories fs memory :=
  fun c => (agrees c).symm

theorem Agrees.trans (agrees : memory.Agrees repositories fs other)
    (further : other.Agrees repositories fs third) : memory.Agrees repositories fs third :=
  fun c => (agrees c).trans (further c)

private theorem directDependencies_plain (c : Coordinate) :
    memory.directDependencies repositories fs (.plain c.group c.artifact c.version) =
      memory.directDependencies repositories fs c := rfl

/-- A memory of what the files say agrees with the one that holds nothing. -/
theorem agrees_nil_of_rows
    (read : ∀ row ∈ memory, (directDependencies [] repositories fs row.1).1 =
      .ok ((row.2.map (·.directDependencies)).getD [])) : memory.Agrees repositories fs [] := by
  intro c
  cases known : memory.lookup (.plain c.group c.artifact c.version) with
  | none => simp only [directDependencies, effectivePom_fst, known, List.lookup_nil]
  | some pom =>
    obtain ⟨before, behind, rows, _⟩ := List.lookup_eq_some_iff.1 known
    have given := read (.plain c.group c.artifact c.version, pom) (by simp [rows])
    rw [directDependencies_plain] at given
    rw [given]
    simp only [directDependencies, effectivePom_fst, known, Except.map]

theorem directDependencies_of_absent {c : Coordinate}
    (missing : repositories.pomPath fs (.plain c.group c.artifact c.version) = none) :
    (directDependencies [] repositories fs c).1 = .ok [] := by
  have built : EffectivePom.build repositories fs EffectivePom.maxLevels
      (.plain c.group c.artifact c.version) = .ok none := by
    rw [EffectivePom.maxLevels, EffectivePom.build, EffectivePom.ofFile?_of_none missing]
  simp only [directDependencies, effectivePom_fst, List.lookup_nil, built, Except.map,
    Option.map_none, Option.getD_none]

/-- A description without parent and imports declares its own dependencies. -/
theorem directDependencies_of_load {c : Coordinate} {path : Path} {pom : Pom}
    (found : repositories.pomPath fs (.plain c.group c.artifact c.version) = some path)
    (reads : Pom.load fs path = .ok pom) (orphan : pom.parent = none)
    (unimporting :
      PomMeaning.importsIn (.plain c.group c.artifact c.version) pom .nothing = []) :
    (directDependencies [] repositories fs c).1 = .ok
      ((PomMeaning.of (.plain c.group c.artifact c.version) pom .nothing
        fun _ => .nothing).dependencies.filterMap (·.dependency?)) := by
  have holds : PomMeaning.Holds repositories fs 1 (.plain c.group c.artifact c.version) _ :=
    .alone found reads orphan unimporting
  obtain ⟨_, built, rendered⟩ := holds.build (by decide : 1 ≤ EffectivePom.maxLevels)
  cases rendered with
  | some renders =>
    simp only [directDependencies, effectivePom_fst, List.lookup_nil, built, Except.map,
      Option.map_some, Option.getD_some, EffectivePom.directDependencies, renders.dependencies]

end PomMemory

namespace Walk

/-- What a step can make of a walk whose queue starts with a path. -/
inductive Stepped (repositories : LocalRepositories) (fs : FileSystem) (memory : PomMemory)
    (walk : Walk) (path : DependencyPath) (rest : List DependencyPath) : Walk → Prop where
  | endless : path.leaf = none → Stepped repositories fs memory walk path rest
      { walk with queue := rest }
  | again (leaf : Coordinate) : path.leaf = some leaf → leaf ∈ walk.expanded →
      Stepped repositories fs memory walk path rest (walk.take path rest)
  | unlocated (leaf : Coordinate) : path.leaf = some leaf → leaf ∉ walk.expanded →
      repositories.jarPath fs leaf = none →
      Stepped repositories fs memory walk path rest ((walk.take path rest).withoutFile leaf path)
  | located (leaf : Coordinate) (file : Path) (dependencies : List Dependency) :
      path.leaf = some leaf → leaf ∉ walk.expanded →
      repositories.jarPath fs leaf = some file →
      (memory.directDependencies repositories fs leaf).1 = .ok dependencies →
      Stepped repositories fs memory walk path rest
        ((walk.take path rest).withFile leaf path file dependencies)

/-- A walk after some steps, or the failure that ended it. A walk with an empty queue stays as it
is. -/
def after (repositories : LocalRepositories) (fs : FileSystem) :
    Nat → Walk → PomMemory → Except CheckerError Walk × PomMemory
  | 0, walk, memory => (.ok walk, memory)
  | steps + 1, walk, memory =>
    match walk.queue with
    | [] => (.ok walk, memory)
    | path :: rest =>
      match step repositories fs walk path rest memory with
      | (.ok next, memory) => after repositories fs steps next memory
      | (.error error, memory) => (.error error, memory)

/-- Whether a walk returns with some result and leaves some memory behind. -/
inductive Returns (repositories : LocalRepositories) (fs : FileSystem) :
    Walk → PomMemory → Except CheckerError DependencyGraph → PomMemory → Prop where
  | done {walk : Walk} {memory : PomMemory} (empty : walk.queue = []) :
      Returns repositories fs walk memory (.ok walk.graph) memory
  | failed {walk : Walk} {path : DependencyPath} {rest : List DependencyPath}
      {memory later : PomMemory} {error : CheckerError} (queued : walk.queue = path :: rest)
      (stepped : step repositories fs walk path rest memory = (.error error, later)) :
      Returns repositories fs walk memory (.error error) later
  | next {walk next : Walk} {path : DependencyPath} {rest : List DependencyPath}
      {memory between later : PomMemory} {result : Except CheckerError DependencyGraph}
      (queued : walk.queue = path :: rest)
      (stepped : step repositories fs walk path rest memory = (.ok next, between))
      (returns : Returns repositories fs next between result later) :
      Returns repositories fs walk memory result later

/-- Whether a walk returns at all. -/
def Ends (repositories : LocalRepositories) (fs : FileSystem) (walk : Walk) (memory : PomMemory) :
    Prop :=
  ∃ result later, Returns repositories fs walk memory result later

/-- Whether nothing is left to do after some steps, because the queue is empty or a step failed. -/
def EndsWithin (repositories : LocalRepositories) (fs : FileSystem) (steps : Nat) (walk : Walk)
    (memory : PomMemory) : Prop :=
  ∀ final later, after repositories fs steps walk memory = (.ok final, later) → final.queue = []

/-- The graph of a walk whose queue is empty after some steps. -/
def graphAfter (repositories : LocalRepositories) (fs : FileSystem) (steps : Nat) (walk : Walk)
    (memory : PomMemory) : Option DependencyGraph :=
  match (after repositories fs steps walk memory).1 with
  | .ok final => if final.queue.isEmpty then some final.graph else none
  | .error _ => none

variable {repositories : LocalRepositories} {fs : FileSystem} {walk next final : Walk}
  {path : DependencyPath} {rest : List DependencyPath} {memory later : PomMemory} {steps : Nat}
  {result : Except CheckerError DependencyGraph} {graph : DependencyGraph}

theorem step_ok (stepped : step repositories fs walk path rest memory = (.ok next, later)) :
    Stepped repositories fs memory walk path rest next := by
  rw [step] at stepped
  cases ends : path.leaf with
  | none =>
    rw [ends] at stepped
    cases stepped
    exact .endless ends
  | some leaf =>
    simp only [ends] at stepped
    split at stepped
    next expanded =>
      cases stepped
      exact .again leaf ends (List.contains_iff_mem.1 expanded)
    next unexpanded =>
      have new : leaf ∉ walk.expanded := fun member => unexpanded (List.contains_iff_mem.2 member)
      split at stepped
      next unlocated =>
        cases stepped
        exact .unlocated leaf ends new unlocated
      next file located =>
        obtain ⟨mapped, _⟩ := Prod.mk.inj stepped
        obtain ⟨dependencies, read, rfl⟩ := map_ok mapped
        exact .located leaf file dependencies ends new located read

theorem step_of_located {leaf : Coordinate} {file : Path} {dependencies : List Dependency}
    (ends : path.leaf = some leaf) (new : leaf ∉ walk.expanded)
    (located : repositories.jarPath fs leaf = some file)
    (read : (memory.directDependencies repositories fs leaf).1 = .ok dependencies) :
    step repositories fs walk path rest memory =
      (.ok ((walk.take path rest).withFile leaf path file dependencies),
        (memory.directDependencies repositories fs leaf).2) := by
  have unexpanded : ¬ walk.expanded.contains leaf = true :=
    fun expanded => new (List.contains_iff_mem.1 expanded)
  simp only [step, ends, if_neg unexpanded, located, read]
  rfl

theorem after_done (done : walk.queue = []) :
    after repositories fs steps walk memory = (.ok walk, memory) := by
  cases steps with
  | zero => rfl
  | succ steps => rw [after, done]

theorem after_succ (queued : walk.queue = path :: rest)
    (stepped : step repositories fs walk path rest memory = (.ok next, later)) :
    after repositories fs (steps + 1) walk memory = after repositories fs steps next later := by
  rw [after, queued]
  simp only [stepped]

theorem after_failed {error : CheckerError} (queued : walk.queue = path :: rest)
    (stepped : step repositories fs walk path rest memory = (.error error, later)) :
    after repositories fs (steps + 1) walk memory = (.error error, later) := by
  rw [after, queued]
  simp only [stepped]

/-- What holds of a walk and its memory at the start and after every step holds after any number of
steps. -/
theorem after_keeps (holds : Walk → PomMemory → Prop) (start : holds walk memory)
    (keeps : ∀ walk memory path rest next later, walk.queue = path :: rest →
      step repositories fs walk path rest memory = (.ok next, later) →
      holds walk memory → holds next later)
    (walked : after repositories fs steps walk memory = (.ok final, later)) :
    holds final later := by
  induction steps generalizing walk memory with
  | zero =>
    cases walked
    exact start
  | succ steps ih =>
    cases queued : walk.queue with
    | nil =>
      rw [after_done queued] at walked
      cases walked
      exact start
    | cons path rest =>
      cases stepped : step repositories fs walk path rest memory with
      | mk result after =>
        cases result with
        | error error =>
          rw [after_failed queued stepped] at walked
          cases walked
        | ok next =>
          rw [after_succ queued stepped] at walked
          exact ih (keeps walk memory path rest next after queued stepped start) walked

private theorem run_eq_advance (walk : Walk) (memory : PomMemory) :
    run repositories fs walk memory = match advance repositories fs (walk, memory) with
      | .inl next => run repositories fs next.1 next.2
      | .inr result => result := by
  rw [run, repeatM_eq_of_monadTail]
  change Id.run (pure (advance repositories fs (walk, memory)) >>= _) = _
  rw [pure_bind]
  cases advance repositories fs (walk, memory) with
  | inl next => rfl
  | inr result => rfl

/-- A walk that returns has the result that it is run for. -/
theorem Returns.run_eq (returns : Returns repositories fs walk memory result later) :
    run repositories fs walk memory = (result, later) := by
  induction returns with
  | done empty => rw [run_eq_advance, advance, empty]
  | failed queued stepped => simp only [run_eq_advance, advance, queued, stepped]
  | next queued stepped _ ih =>
    rw [run_eq_advance, advance, queued]
    simp only [stepped]
    exact ih

theorem Returns.ends (returns : Returns repositories fs walk memory result later) :
    Ends repositories fs walk memory :=
  ⟨result, later, returns⟩

/-- What holds at the start and after every step holds at the end of a walk that returns. -/
theorem Returns.keeps (returns : Returns repositories fs walk memory (.ok graph) later)
    (holds : Walk → Prop) (start : holds walk)
    (keeps : ∀ walk memory path rest next, walk.queue = path :: rest →
      Stepped repositories fs memory walk path rest next → holds walk → holds next) :
    ∃ final, holds final ∧ final.queue = [] ∧ final.graph = graph := by
  generalize same : Except.ok graph = result at returns
  induction returns with
  | @done walk memory empty =>
    cases same
    exact ⟨walk, start, empty, rfl⟩
  | failed => cases same
  | @next walk next path rest memory _ _ _ queued stepped _ ih =>
    exact ih (keeps walk memory path rest next queued (step_ok stepped) start) same

theorem ends_of_done (done : walk.queue = []) : Ends repositories fs walk memory :=
  (Returns.done done).ends

theorem ends_of_failed {error : CheckerError} (queued : walk.queue = path :: rest)
    (stepped : step repositories fs walk path rest memory = (.error error, later)) :
    Ends repositories fs walk memory :=
  (Returns.failed queued stepped).ends

theorem ends_of_next (queued : walk.queue = path :: rest)
    (stepped : step repositories fs walk path rest memory = (.ok next, later))
    (ends : Ends repositories fs next later) : Ends repositories fs walk memory := by
  obtain ⟨result, last, returns⟩ := ends
  exact (Returns.next queued stepped returns).ends

/-- A walk that returns does so from where each step leads. -/
theorem Ends.of_step (ends : Ends repositories fs walk memory) (queued : walk.queue = path :: rest)
    (stepped : step repositories fs walk path rest memory = (.ok next, later)) :
    Ends repositories fs next later := by
  obtain ⟨result, last, returns⟩ := ends
  cases returns with
  | done empty =>
    rw [queued] at empty
    cases empty
  | failed queued' stepped' =>
    cases queued.symm.trans queued'
    cases stepped.symm.trans stepped'
  | next queued' stepped' returns =>
    cases queued.symm.trans queued'
    cases stepped.symm.trans stepped'
    exact returns.ends

/-- A walk whose queue is empty after some steps returns with its graph. -/
theorem returns_of_after
    (walked : after repositories fs steps walk memory = (.ok final, later))
    (done : final.queue = []) : Returns repositories fs walk memory (.ok final.graph) later := by
  induction steps generalizing walk memory with
  | zero =>
    cases walked
    exact .done done
  | succ steps ih =>
    cases queued : walk.queue with
    | nil =>
      rw [after_done queued] at walked
      cases walked
      exact .done queued
    | cons path rest =>
      cases stepped : step repositories fs walk path rest memory with
      | mk result between =>
        cases result with
        | error error =>
          rw [after_failed queued stepped] at walked
          cases walked
        | ok next =>
          rw [after_succ queued stepped] at walked
          exact .next queued stepped (ih walked)

theorem returns_of_graphAfter
    (finished : graphAfter repositories fs steps walk memory = some graph) :
    ∃ later, Returns repositories fs walk memory (.ok graph) later := by
  unfold graphAfter at finished
  cases walked : after repositories fs steps walk memory with
  | mk result later =>
    rw [walked] at finished
    cases result with
    | error error => cases finished
    | ok final =>
      dsimp only at finished
      split at finished
      next empty =>
        cases finished
        exact ⟨later, returns_of_after walked (List.isEmpty_iff.1 empty)⟩
      next => cases finished

private theorem Returns.endsWithin (returns : Returns repositories fs walk memory result later) :
    ∃ steps, EndsWithin repositories fs steps walk memory := by
  induction returns with
  | done empty =>
    refine ⟨0, fun final later walked => ?_⟩
    cases walked
    exact empty
  | failed queued stepped =>
    refine ⟨1, fun final later walked => ?_⟩
    rw [after_failed queued stepped] at walked
    cases walked
  | next queued stepped _ ih =>
    obtain ⟨steps, within⟩ := ih
    refine ⟨steps + 1, fun final later walked => ?_⟩
    rw [after_succ queued stepped] at walked
    exact within final later walked

private theorem ends_of_endsWithin (within : EndsWithin repositories fs steps walk memory) :
    Ends repositories fs walk memory := by
  induction steps generalizing walk memory with
  | zero => exact ends_of_done (within walk memory rfl)
  | succ steps ih =>
    cases queued : walk.queue with
    | nil => exact ends_of_done queued
    | cons path rest =>
      cases stepped : step repositories fs walk path rest memory with
      | mk result between =>
        cases result with
        | error error => exact ends_of_failed queued stepped
        | ok next =>
          refine ends_of_next queued stepped (ih fun final later walked => ?_)
          exact within final later ((after_succ queued stepped).trans walked)

/-- A walk returns exactly if nothing is left to do after some number of steps. -/
theorem ends_iff : Ends repositories fs walk memory ↔
    ∃ steps, EndsWithin repositories fs steps walk memory := by
  constructor
  · rintro ⟨result, later, returns⟩
    exact returns.endsWithin
  · rintro ⟨steps, within⟩
    exact ends_of_endsWithin within

/-! ## Memories that agree -/

section Memories

variable {other : PomMemory}

private theorem step_agrees (agrees : memory.Agrees repositories fs other) :
    (step repositories fs walk path rest memory).1 =
      (step repositories fs walk path rest other).1 := by
  unfold step
  cases path.leaf with
  | none => rfl
  | some leaf =>
    dsimp only
    split
    · rfl
    · cases repositories.jarPath fs leaf with
      | none => rfl
      | some file =>
        exact congrArg (Except.map ((walk.take path rest).withFile leaf path file)) (agrees leaf)

/-- A step leaves a memory that agrees with the one it found, also if it fails. -/
theorem agrees_of_step {outcome : Except CheckerError Walk}
    (stepped : step repositories fs walk path rest memory = (outcome, later)) :
    later.Agrees repositories fs memory := by
  intro c
  rw [show later = (step repositories fs walk path rest memory).2 by rw [stepped]]
  unfold step
  cases path.leaf with
  | none => rfl
  | some leaf =>
    dsimp only
    split
    · rfl
    · cases repositories.jarPath fs leaf with
      | none => rfl
      | some file => exact PomMemory.directDependencies_again memory repositories fs leaf c

/-- Both memories change with a step. They go on to agree because either one still agrees with what
it was before. -/
theorem exists_step_of_agrees {outcome : Except CheckerError Walk}
    (agrees : memory.Agrees repositories fs other)
    (stepped : step repositories fs walk path rest memory = (outcome, later)) :
    ∃ last, step repositories fs walk path rest other = (outcome, last) ∧
      later.Agrees repositories fs last := by
  have same : (step repositories fs walk path rest memory).1 =
      (step repositories fs walk path rest other).1 := step_agrees agrees
  have stepped' : step repositories fs walk path rest other =
      (outcome, (step repositories fs walk path rest other).2) := by
    rw [stepped] at same
    exact Prod.ext same.symm rfl
  refine ⟨_, stepped', ?_⟩
  exact (agrees_of_step stepped).trans (agrees.trans (agrees_of_step stepped').symm)

theorem exists_after_of_agrees {outcome : Except CheckerError Walk}
    (agrees : memory.Agrees repositories fs other)
    (walked : after repositories fs steps walk memory = (outcome, later)) :
    ∃ last, after repositories fs steps walk other = (outcome, last) := by
  induction steps generalizing walk memory other with
  | zero =>
    cases walked
    exact ⟨other, rfl⟩
  | succ steps ih =>
    cases queued : walk.queue with
    | nil =>
      rw [after_done queued] at walked ⊢
      cases walked
      exact ⟨other, rfl⟩
    | cons path rest =>
      cases stepped : step repositories fs walk path rest memory with
      | mk outcome between =>
        obtain ⟨last, stepped', further⟩ := exists_step_of_agrees agrees stepped
        cases outcome with
        | error error =>
          rw [after_failed queued stepped] at walked
          cases walked
          exact ⟨last, after_failed queued stepped'⟩
        | ok next =>
          rw [after_succ queued stepped] at walked
          rw [after_succ queued stepped']
          exact ih further walked

theorem Returns.agrees (returns : Returns repositories fs walk memory result later) :
    later.Agrees repositories fs memory := by
  induction returns with
  | done => exact fun _ => rfl
  | failed _ stepped => exact agrees_of_step stepped
  | next _ stepped _ ih => exact ih.trans (agrees_of_step stepped)

/-- Walks whose memories agree return with the same result. -/
theorem Returns.of_agrees (returns : Returns repositories fs walk memory result later)
    (agrees : memory.Agrees repositories fs other) :
    ∃ last, Returns repositories fs walk other result last := by
  induction returns generalizing other with
  | done empty => exact ⟨other, .done empty⟩
  | failed queued stepped =>
    obtain ⟨last, stepped', _⟩ := exists_step_of_agrees agrees stepped
    exact ⟨last, .failed queued stepped'⟩
  | next queued stepped _ ih =>
    obtain ⟨_, stepped', further⟩ := exists_step_of_agrees agrees stepped
    obtain ⟨last, returns⟩ := ih further
    exact ⟨last, .next queued stepped' returns⟩

theorem Ends.of_agrees (ends : Ends repositories fs walk memory)
    (agrees : memory.Agrees repositories fs other) : Ends repositories fs walk other := by
  obtain ⟨result, later, returns⟩ := ends
  obtain ⟨last, returns⟩ := returns.of_agrees agrees
  exact returns.ends

end Memories

end Walk

end Linkage
