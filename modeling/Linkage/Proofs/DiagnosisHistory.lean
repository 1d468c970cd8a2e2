import Linkage.Proofs.Diagnoses

/-!
Diagnoses do not depend on what has been diagnosed before.

A diagnosis remembers the class paths of source artifacts, also those that could not be built or
checked, and the project descriptions that were read for them. As long as the files stay the same,
each of these is what a diagnosis without any memory would find, and a diagnosis returns exactly if
it would without any memory. So the causes of problems come out the same in any order, and a set of
problems is the same set with its causes, if all of them have one.
-/

set_option autoImplicit false

namespace Linkage

/-- The memory of a diagnosis that has not been used. -/
def DiagnosisMemory.fresh : DiagnosisMemory := ⟨[], []⟩

/-- Whether what has been read before is what the files say. -/
def PomMemory.ReadFrom (repositories : LocalRepositories) (fs : FileSystem) (poms : PomMemory) :
    Prop :=
  poms.Agrees repositories fs []

def Problem.withCause (problem : Problem) (cause : Cause) : Problem :=
  { problem with cause := some cause }

/-- A cause makes no difference to where a problem stands in a set. -/
theorem Problem.sorted_map_withCause {problems : List Problem} (causeOf : Problem → Cause)
    (sorted : Ordered.Sorted problems) :
    Ordered.Sorted (problems.map fun problem => problem.withCause (causeOf problem)) :=
  List.Pairwise.map (fun problem : Problem => problem.withCause (causeOf problem))
    (fun _ _ less => less) sorted

private theorem ClasspathBuilder.resolve_readFrom {builder : ClasspathBuilder} {fs : FileSystem}
    {poms : PomMemory} {roots : List Coordinate} (read : poms.ReadFrom builder.repositories fs)
    (ends : builder.Ends fs roots poms) :
    (builder.resolve fs roots poms).2.ReadFrom builder.repositories fs :=
  (resolve_agrees ends read).2.2.trans read

namespace Diagnoser

variable {diagnoser : Diagnoser} {poms other : PomMemory} {memory : DiagnosisMemory}

/-- The causes of problems that are diagnosed one after another, each on a class path. -/
def diagnoseAll (diagnoser : Diagnoser) :
    List (Classpath × Problem) → DiagnosisMemory → List Cause × DiagnosisMemory
  | [], memory => ([], memory)
  | call :: rest, memory =>
    let (cause, memory) := diagnoser.diagnose call.1 call.2 memory
    let (causes, memory) := diagnoseAll diagnoser rest memory
    (cause :: causes, memory)

/-- Whether diagnoses one after another return. -/
def EndsAll (diagnoser : Diagnoser) : List (Classpath × Problem) → DiagnosisMemory → Prop
  | [], _ => True
  | call :: rest, memory => diagnoser.Ends call.2 memory ∧
      EndsAll diagnoser rest (diagnoser.diagnose call.1 call.2 memory).2

theorem Remembers.of_agrees (remembers : diagnoser.Remembers poms memory)
    (agrees : poms.Agrees diagnoser.builder.repositories diagnoser.fs other) :
    diagnoser.Remembers other memory where
  agrees := remembers.agrees.trans agrees
  analyzed c subtree known := by
    obtain ⟨ends, same⟩ := remembers.analyzed c subtree known
    exact ⟨ends.of_agrees agrees, same.trans (analyze_agrees ends agrees).1⟩

/-- A memory without subtrees stands for the descriptions that were read from the files. -/
theorem remembers_of_readFrom
    (read : poms.ReadFrom diagnoser.builder.repositories diagnoser.fs) :
    diagnoser.Remembers [] ⟨poms, []⟩ :=
  remembers_start.of_agrees read

theorem remembers_fresh : diagnoser.Remembers [] .fresh := remembers_start

/-- The cause that a fresh diagnoser gives a problem. -/
def freshCause (diagnoser : Diagnoser) (classpath : Classpath) (problem : Problem) : Cause :=
  (diagnoser.diagnose classpath problem .fresh).1

theorem Remembers.ends_fresh_iff (remembers : diagnoser.Remembers [] memory) {problem : Problem} :
    diagnoser.Ends problem memory ↔ diagnoser.Ends problem .fresh := by
  rw [remembers.ends_iff, remembers_fresh.ends_iff]

private theorem Remembers.diagnose_fst (remembers : diagnoser.Remembers [] memory)
    (classpath : Classpath) {problem : Problem} (ends : diagnoser.Ends problem memory) :
    (diagnoser.diagnose classpath problem memory).1 = diagnoser.freshCause classpath problem := by
  unfold freshCause
  cases named : problem.source.entry.coordinate with
  | none => simp only [Diagnoser.diagnose, named]
  | some source =>
    rw [diagnose_eq remembers classpath named ends,
      diagnose_eq remembers_fresh classpath named (remembers.ends_fresh_iff.1 ends)]

private theorem Remembers.endsAll_iff (remembers : diagnoser.Remembers [] memory)
    {calls : List (Classpath × Problem)} :
    diagnoser.EndsAll calls memory ↔ ∀ call ∈ calls, diagnoser.Ends call.2 .fresh := by
  induction calls generalizing memory with
  | nil => simp [EndsAll]
  | cons call rest ih =>
    rw [List.forall_mem_cons, EndsAll, remembers.ends_fresh_iff]
    refine and_congr_right fun ends => ih ?_
    exact remembers.diagnose call.1 (remembers.ends_fresh_iff.2 ends)

theorem Remembers.diagnoseAll (remembers : diagnoser.Remembers [] memory)
    {calls : List (Classpath × Problem)} (ends : diagnoser.EndsAll calls memory) :
    (diagnoser.diagnoseAll calls memory).1 =
        calls.map (fun call => diagnoser.freshCause call.1 call.2) ∧
      diagnoser.Remembers [] (diagnoser.diagnoseAll calls memory).2 := by
  induction calls generalizing memory with
  | nil => exact ⟨rfl, remembers⟩
  | cons call rest ih =>
    obtain ⟨first, further⟩ := ends
    obtain ⟨others, kept⟩ := ih (remembers.diagnose call.1 first) further
    refine ⟨?_, kept⟩
    rw [List.map_cons, ← remembers.diagnose_fst call.1 first, ← others]
    rfl

theorem Remembers.explain (remembers : diagnoser.Remembers [] memory) {classpath : Classpath}
    {problems : List Problem}
    (ends : diagnoser.EndsAll (problems.map (Prod.mk classpath)) memory) :
    (diagnoser.explain classpath problems memory).1 =
      problems.map fun problem => problem.withCause (diagnoser.freshCause classpath problem) := by
  induction problems generalizing memory with
  | nil => rfl
  | cons problem rest ih =>
    obtain ⟨first, further⟩ := ends
    rw [List.map_cons, ← remembers.diagnose_fst classpath first,
      ← ih (remembers.diagnose classpath first) further]
    rfl

/-- A set of problems comes back as the same set, in which every problem has its cause. -/
theorem Remembers.annotate (remembers : diagnoser.Remembers [] memory) {classpath : Classpath}
    {problems : List Problem} (sorted : Ordered.Sorted problems)
    (ends : diagnoser.EndsAll (problems.map (Prod.mk classpath)) memory) :
    (diagnoser.annotate classpath problems memory).1 =
      problems.map fun problem => problem.withCause (diagnoser.freshCause classpath problem) := by
  change Ordered.ofList (diagnoser.explain classpath problems memory).1 = _
  rw [remembers.explain ends]
  exact (Problem.sorted_map_withCause _ sorted).ofList_eq

/-- On files that stay the same, a sequence of diagnoses returns exactly if fresh diagnosers do for
each of its problems, and the answers are theirs. After any such sequence, a set of problems comes
back exactly if fresh diagnosers return for each of them, as a set of the same problems, each with
the cause that a fresh diagnoser gives it. -/
theorem diagnoses_independent_of_history (diagnoser : Diagnoser) {poms : PomMemory}
    (read : poms.ReadFrom diagnoser.builder.repositories diagnoser.fs)
    (calls : List (Classpath × Problem)) (classpath : Classpath) {problems : List Problem}
    (isSet : Ordered.Sorted problems) :
    let answered := diagnoser.diagnoseAll calls ⟨poms, []⟩
    let annotating := diagnoser.EndsAll (problems.map (Prod.mk classpath)) answered.2
    let annotated := (diagnoser.annotate classpath problems answered.2).1
    (diagnoser.EndsAll calls ⟨poms, []⟩ ↔ ∀ call ∈ calls, diagnoser.Ends call.2 .fresh) ∧
    (diagnoser.EndsAll calls ⟨poms, []⟩ →
      answered.1 = calls.map (fun call => (diagnoser.diagnose call.1 call.2 .fresh).1) ∧
      (annotating ↔ ∀ problem ∈ problems, diagnoser.Ends problem .fresh) ∧
      (annotating → Ordered.Sorted annotated ∧ annotated = problems.map fun problem =>
        { problem with cause := some (diagnoser.diagnose classpath problem .fresh).1 })) := by
  have started := remembers_of_readFrom read
  refine ⟨started.endsAll_iff, fun ends => ?_⟩
  obtain ⟨answers, remembers⟩ := started.diagnoseAll ends
  refine ⟨answers, ?_, fun annotating => ?_⟩
  · simp [remembers.endsAll_iff]
  · exact ⟨Ordered.sorted_ofList _, remembers.annotate isSet annotating⟩

namespace HistorySample

open PrecedenceSample (sampleRepositories)
open ExclusionSample (top user lib files sample excludedPath Compared)

/-- The walk for the whole class path after its first step. -/
def entered (file : Path) : Walk :=
  ((Walk.ofRoots [top]).take (.ofRoot top) []).withFile top (.ofRoot top) file
    [⟨user, .compile, false, [lib.key]⟩]

def userPath : DependencyPath :=
  DependencyPath.append (.ofRoot top) ⟨user, .compile, false, [lib.key]⟩

/-- The walk after its second step, which follows nothing. -/
def finished (topFile userFile : Path) : Walk :=
  ((entered topFile).take userPath []).withFile user userPath userFile [.plain lib]

/-- The walk for the whole class path reads the descriptions of both artifacts. -/
theorem remembered_descriptions :
    (sample.builder.resolve sample.fs [top] []).2.map (·.1) = [user, top] := by
  obtain ⟨topFile, topLocated⟩ : ∃ file, sampleRepositories.jarPath files top = some file :=
    Option.isSome_iff_exists.1 (by decide +kernel)
  obtain ⟨userFile, userLocated⟩ : ∃ file, sampleRepositories.jarPath files user = some file :=
    Option.isSome_iff_exists.1 (by decide +kernel)
  obtain ⟨topPom, hasTop⟩ := PomMemory.directDependencies_remembered [] sampleRepositories files
    rfl ExclusionSample.read_descriptions.1
  have first : Walk.step sampleRepositories files (.ofRoots [top]) (.ofRoot top) [] [] =
      (.ok (entered topFile), [(top, topPom)]) := by
    rw [← show _ = [(top, topPom)] from hasTop]
    exact Walk.step_of_located rfl List.not_mem_nil topLocated ExclusionSample.read_descriptions.1
  have read := (Walk.agrees_of_step first user).trans ExclusionSample.read_descriptions.2
  obtain ⟨userPom, hasUser⟩ := PomMemory.directDependencies_remembered _ sampleRepositories files
    rfl read
  have second : Walk.step sampleRepositories files (entered topFile) userPath [] [(top, topPom)] =
      (.ok (finished topFile userFile), [(user, userPom), (top, topPom)]) := by
    rw [← show _ = [(user, userPom), (top, topPom)] from hasUser]
    have new : user ∉ [top] := by decide
    exact Walk.step_of_located rfl new userLocated read
  have returns : Walk.Returns sample.builder.repositories sample.fs (.ofRoots [top]) [] _ _ :=
    .next rfl first (.next rfl second (.done rfl))
  rw [ClasspathBuilder.resolve_eq returns]
  rfl

/-- The problem was found on the class path of an artifact that is on it with its description. The
memory is the one that building the class path left behind, and the own class path of the source is
built for the first answer and remembered for the others. -/
theorem diagnoses_independent_of_earlier_ones :
    ∃ resolved checker problem poms,
      (sample.builder.resolve sample.fs [top] []) = (.ok resolved, poms) ∧
      poms.map (·.1) = [user, top] ∧
      poms.ReadFrom sample.builder.repositories sample.fs ∧
      Checker.create sample.fs resolved sample.config [] = .ok checker ∧
      checker.problems sample.fs = .ok [problem] ∧
      Ordered.Sorted [problem] ∧
      sample.EndsAll [(resolved.classpath, problem), (resolved.classpath, problem)] ⟨poms, []⟩ ∧
      (sample.diagnoseAll [(resolved.classpath, problem), (resolved.classpath, problem)]
        ⟨poms, []⟩).1 = [.excluded excludedPath top, .excluded excludedPath top] ∧
      (sample.annotate resolved.classpath [problem] (sample.diagnoseAll
          [(resolved.classpath, problem), (resolved.classpath, problem)] ⟨poms, []⟩).2).1 =
        [problem.withCause (.excluded excludedPath top)] := by
  obtain ⟨resolved, checker, problem, subtree, compared⟩ := ExclusionSample.exists_compared
  obtain ⟨diagnosable, diagnosed⟩ : sample.Ends problem .fresh ∧
      (sample.diagnose resolved.classpath problem .fresh).1 = .excluded excludedPath top :=
    compared.diagnosed
  have read : (sample.builder.resolve sample.fs [top] []).2.ReadFrom
      sample.builder.repositories sample.fs :=
    ClasspathBuilder.resolve_readFrom (fun _ => rfl) compared.ends
  have isSet : Ordered.Sorted [problem] := List.pairwise_singleton _ _
  obtain ⟨returns, answers⟩ := diagnoses_independent_of_history sample read
    [(resolved.classpath, problem), (resolved.classpath, problem)] resolved.classpath isSet
  have ends := returns.2 (by simpa using diagnosable)
  obtain ⟨answered, annotating, annotated⟩ := answers ends
  refine ⟨resolved, checker, problem, _, Prod.ext compared.built rfl, remembered_descriptions, read,
    compared.created, compared.ran, isSet, ends, ?_, ?_⟩
  · rw [answered]
    simp only [List.map_cons, List.map_nil, diagnosed]
  · rw [(annotated (annotating.2 (by simpa using diagnosable))).2]
    simp only [List.map_cons, List.map_nil, diagnosed, Problem.withCause]

end HistorySample

namespace OptionalSample

open ExclusionSample (top)

/-- The only problem of a class path that was built and checked is a set for which no causes come
back, because a fresh diagnoser does not return for it. -/
theorem annotation_never_ends : ∃ resolved checker problem,
    sample.builder.Ends sample.fs [top] [] ∧
    (sample.builder.resolve sample.fs [top] []).1 = .ok resolved ∧
    Checker.create sample.fs resolved sample.config [] = .ok checker ∧
    checker.problems sample.fs = .ok [problem] ∧ Ordered.Sorted [problem] ∧
    ¬ sample.EndsAll ([problem].map (Prod.mk resolved.classpath)) .fresh := by
  obtain ⟨resolved, checker, problem, ends, built, created, ran, named⟩ := problem_found
  refine ⟨resolved, checker, problem, ends, built, created, ran, List.pairwise_singleton _ _, ?_⟩
  rintro ⟨diagnosed, _⟩
  exact user_never_ends (remembers_fresh.ends_iff.1 diagnosed _ named)

end OptionalSample

end Diagnoser

end Linkage
