import Linkage.Proofs.EnforcedPlatform

/-!
What the paths of a walk look like, and what is known of the artifacts at their ends.

A walk adds one node at a time to the end of a path, so what it asks of the new node holds for all
nodes behind the root. The dependencies of an artifact are followed from its first path only. So all
paths through an artifact begin with its first path, which is also the one that is reported if the
artifact has no file.
-/

set_option autoImplicit false

namespace Linkage

/-- Whether an artifact declares a dependency. -/
def PomMemory.Declares (memory : PomMemory) (repositories : LocalRepositories) (fs : FileSystem)
    (c : Coordinate) (dependency : Dependency) : Prop :=
  ∃ dependencies, (memory.directDependencies repositories fs c).1 = .ok dependencies ∧
    dependency ∈ dependencies

section Nodes

variable {α : Type} {items : List α} {new item : α} {i : Nat}

theorem getElem?_concat_eq_some_iff :
    (items ++ [new])[i]? = some item ↔ items[i]? = some item ∨ i = items.length ∧ item = new := by
  rcases Nat.lt_trichotomy i items.length with before | last | behind
  · rw [List.getElem?_append_left before]
    simp [Nat.ne_of_lt before]
  · subst last
    simp [eq_comm]
  · rw [List.getElem?_append_right (Nat.le_of_lt behind)]
    have outside : items[i]? = none := List.getElem?_eq_none (Nat.le_of_lt behind)
    have different : i ≠ items.length := Nat.ne_of_gt behind
    have past : ([new] : List α)[i - items.length]? = none :=
      List.getElem?_eq_none (Nat.sub_pos_of_lt behind)
    simp [outside, different, past]

end Nodes

namespace DependencyPath

/-- What is true of the nodes of a path from one of some roots, where `declares` tells which
dependencies an artifact declares. -/
structure WellFormed (declares : Coordinate → Dependency → Prop) (roots : List Coordinate)
    (path : DependencyPath) : Prop where
  rootless : path.root = none
  starts : ∃ root ∈ roots, path.dependencies[0]? = some (.plain root)
  declared : ∀ i (earlier node : Dependency), path.dependencies[i]? = some earlier →
    path.dependencies[i + 1]? = some node → declares earlier.coordinate node
  allowed : ∀ i (node : Dependency), path.dependencies[i + 1]? = some node →
    node.scope ≠ .test ∧ node.scope ≠ .system ∧ node.scope ≠ .import
  required : ∀ i (node : Dependency), path.dependencies[i + 2]? = some node →
    node.optional = false ∧ node.scope ≠ .provided
  unexcluded : ∀ (i j : Nat) (earlier node : Dependency), i < j →
    path.dependencies[i]? = some earlier → path.dependencies[j]? = some node →
      node.coordinate.key ∉ earlier.exclusions

variable {declares : Coordinate → Dependency → Prop} {roots : List Coordinate}
  {path : DependencyPath} {dependency : Dependency} {leaf : Coordinate}

private theorem wellFormed_ofRoot {root : Coordinate} (isRoot : root ∈ roots) :
    (ofRoot root).WellFormed declares roots where
  rootless := rfl
  starts := ⟨root, isRoot, rfl⟩
  declared i earlier node _ later := by simp [ofRoot] at later
  allowed i node later := by simp [ofRoot] at later
  required i node later := by simp [ofRoot] at later
  unexcluded i j earlier node before _ later := by
    cases j with
    | zero => cases before
    | succ j => simp [ofRoot] at later

private theorem WellFormed.coordinate_of_leaf (wellFormed : path.WellFormed declares roots)
    (ends : path.leaf = some leaf) :
    ∃ last, path.dependencies.getLast? = some last ∧ last.coordinate = leaf := by
  rw [DependencyPath.leaf, wellFormed.rootless] at ends
  cases last : path.dependencies.getLast? with
  | none => simp [last] at ends
  | some node =>
    rw [last] at ends
    exact ⟨node, rfl, Option.some.inj ends⟩

end DependencyPath

namespace Walk

open DependencyPath (WellFormed)

variable {declares : Coordinate → Dependency → Prop} {roots : List Coordinate}
  {path : DependencyPath} {dependency : Dependency} {leaf : Coordinate}

theorem follows_iff : follows path dependency = true ↔
    (dependency.scope ≠ .test ∧ dependency.scope ≠ .system ∧ dependency.scope ≠ .import) ∧
      (path.dependencies.length = 1 ∨
        dependency.optional = false ∧ dependency.scope ≠ .provided) ∧
      ∀ earlier ∈ path.dependencies, dependency.coordinate.key ∉ earlier.exclusions := by
  simp [follows, and_assoc]

/-- A dependency of its last artifact that is followed continues a path. -/
theorem wellFormed_append (wellFormed : path.WellFormed declares roots)
    (ends : path.leaf = some leaf) (declared : declares leaf dependency)
    (followed : follows path dependency = true) :
    (path.append dependency).WellFormed declares roots := by
  obtain ⟨inScope, needed, unexcluded⟩ := follows_iff.1 followed
  obtain ⟨root, isRoot, first⟩ := wellFormed.starts
  obtain ⟨last, atEnd, rfl⟩ := wellFormed.coordinate_of_leaf ends
  have bound : ∀ {i : Nat} {node : Dependency}, path.dependencies[i]? = some node →
      i < path.dependencies.length := fun at_ => (List.getElem?_eq_some_iff.1 at_).1
  refine ⟨wellFormed.rootless, ⟨root, isRoot, getElem?_concat_eq_some_iff.2 (.inl first)⟩,
    ?_, ?_, ?_, ?_⟩
  · intro i earlier node atFirst atSecond
    rcases getElem?_concat_eq_some_iff.1 atFirst with known | ⟨rfl, rfl⟩
    · rcases getElem?_concat_eq_some_iff.1 atSecond with old | ⟨isLast, rfl⟩
      · exact wellFormed.declared i earlier node known old
      · rw [List.getLast?_eq_getElem?, ← isLast, Nat.add_sub_cancel, known] at atEnd
        cases atEnd
        exact declared
    · rcases getElem?_concat_eq_some_iff.1 atSecond with old | ⟨isLast, _⟩
      · exact absurd (bound old) (by omega)
      · omega
  · intro i node at_
    rcases getElem?_concat_eq_some_iff.1 at_ with old | ⟨_, rfl⟩
    · exact wellFormed.allowed i node old
    · exact inScope
  · intro i node at_
    rcases getElem?_concat_eq_some_iff.1 at_ with old | ⟨isLast, rfl⟩
    · exact wellFormed.required i node old
    · exact needed.resolve_left (by omega)
  · intro i j earlier node before atFirst atSecond
    rcases getElem?_concat_eq_some_iff.1 atFirst with known | ⟨rfl, rfl⟩
    · rcases getElem?_concat_eq_some_iff.1 atSecond with old | ⟨_, rfl⟩
      · exact wellFormed.unexcluded i j earlier node before known old
      · exact unexcluded earlier (List.mem_of_getElem? known)
    · rcases getElem?_concat_eq_some_iff.1 atSecond with old | ⟨rfl, _⟩
      · exact absurd (bound old) (by omega)
      · exact absurd before (Nat.lt_irrefl _)

end Walk

namespace DependencyGraph

/-- The first path that leads to an artifact. -/
def firstPath? (graph : DependencyGraph) (c : Coordinate) : Option DependencyPath :=
  graph.paths.find? (·.leaf == some c)

/-- What is reported of an artifact. -/
def problemsOf (graph : DependencyGraph) (c : Coordinate) : List ArtifactProblem :=
  graph.artifactProblems.filter (·.coordinate == c)

variable {graph : DependencyGraph} {path first : DependencyPath} {c leaf : Coordinate}

private theorem firstPath?_some (found : graph.firstPath? c = some first) :
    first ∈ graph.paths ∧ first.leaf = some c :=
  ⟨List.mem_of_find?_eq_some found, by simpa using List.find?_some found⟩

private theorem firstPath?_addPath_of_some (found : graph.firstPath? c = some first) :
    (graph.addPath path).firstPath? c = some first := by
  unfold firstPath? at found
  rw [firstPath?, addPath, List.find?_append, found, Option.some_or]

private theorem firstPath?_addPath_of_new (ends : path.leaf = some leaf)
    (new : ¬ ∃ known ∈ graph.paths, known.leaf = some leaf) :
    (graph.addPath path).firstPath? leaf = some path := by
  have missing : graph.paths.find? (·.leaf == some leaf) = none := by
    rw [List.find?_eq_none]
    intro known member reaches
    exact new ⟨known, member, beq_iff_eq.1 reaches⟩
  rw [firstPath?, addPath, List.find?_append, missing, Option.none_or]
  simp [ends]

private theorem problemsOf_addProblem_self (problem : ArtifactProblem) :
    (graph.addProblem problem).problemsOf problem.coordinate =
      graph.problemsOf problem.coordinate ++ [problem] := by
  simp [problemsOf, addProblem]

private theorem problemsOf_addProblem_of_ne {problem : ArtifactProblem}
    (different : problem.coordinate ≠ c) :
    (graph.addProblem problem).problemsOf c = graph.problemsOf c := by
  simp [problemsOf, addProblem, different]

end DependencyGraph

namespace Walk

variable {repositories : LocalRepositories} {fs : FileSystem} {walk next final : Walk}
  {path : DependencyPath} {rest : List DependencyPath} {memory later : PomMemory} {steps : Nat}
  {declares : Coordinate → Dependency → Prop} {roots : List Coordinate} {leaf : Coordinate}

/-- A walk all of whose paths are well-formed, where `declares` tells which dependencies an artifact
declares. -/
structure WellFormed (repositories : LocalRepositories) (fs : FileSystem)
    (declares : Coordinate → Dependency → Prop) (roots : List Coordinate) (walk : Walk) : Prop where
  surveyed : Surveyed repositories fs walk
  paths : ∀ path ∈ walk.graph.paths ++ walk.queue, path.WellFormed declares roots
  /-- A path through an artifact begins with the first path to the artifact. -/
  continues : ∀ path ∈ walk.graph.paths ++ walk.queue, ∀ i (node : Dependency),
    path.dependencies[i]? = some node → i + 1 < path.dependencies.length →
      walk.graph.firstPath? node.coordinate = some ⟨none, path.dependencies.take (i + 1)⟩
  reported : ∀ c ∈ walk.expanded, repositories.jarPath fs c = none →
    ∃ first, walk.graph.firstPath? c = some first ∧
      walk.graph.problemsOf c = [⟨c, first.coordinates⟩]
  unreported : ∀ c, c ∉ walk.expanded ∨ repositories.jarPath fs c ≠ none →
    walk.graph.problemsOf c = []

theorem wellFormed_ofRoots (roots : List Coordinate) :
    (ofRoots roots).WellFormed repositories fs declares roots where
  surveyed := surveyed_ofRoots roots
  paths path member := by
    obtain ⟨root, isRoot, rfl⟩ := List.mem_map.1 member
    exact DependencyPath.wellFormed_ofRoot isRoot
  continues path member i node _ inside := by
    obtain ⟨root, _, rfl⟩ := List.mem_map.1 member
    exact absurd inside (by simp [DependencyPath.ofRoot])
  reported c member := by simp [ofRoots] at member
  unreported c _ := rfl

theorem WellFormed.continues_addPath (wellFormed : walk.WellFormed repositories fs declares roots)
    {known : DependencyPath} (member : known ∈ walk.graph.paths ++ walk.queue) {i : Nat}
    {node : Dependency} (at_ : known.dependencies[i]? = some node)
    (inside : i + 1 < known.dependencies.length) :
    (walk.graph.addPath path).firstPath? node.coordinate =
      some ⟨none, known.dependencies.take (i + 1)⟩ :=
  DependencyGraph.firstPath?_addPath_of_some (wellFormed.continues known member i node at_ inside)

private theorem WellFormed.firstPath?_new (wellFormed : walk.WellFormed repositories fs declares roots)
    (ends : path.leaf = some leaf) (new : leaf ∉ walk.expanded) :
    (walk.graph.addPath path).firstPath? leaf = some path :=
  DependencyGraph.firstPath?_addPath_of_new ends
    fun known => new ((wellFormed.surveyed.expanded_iff leaf).2 known)

/-- The paths to the dependencies of an artifact begin with the path that has just been recorded. -/
theorem WellFormed.continues_append (wellFormed : walk.WellFormed repositories fs declares roots)
    (queued : path ∈ walk.graph.paths ++ walk.queue) (ends : path.leaf = some leaf)
    (new : leaf ∉ walk.expanded) (dependency : Dependency) {i : Nat} {node : Dependency}
    (at_ : (path.append dependency).dependencies[i]? = some node)
    (inside : i + 1 < (path.append dependency).dependencies.length) :
    (walk.graph.addPath path).firstPath? node.coordinate =
      some ⟨none, (path.append dependency).dependencies.take (i + 1)⟩ := by
  have bound : i + 1 ≤ path.dependencies.length := by
    simpa [DependencyPath.append, Nat.lt_succ_iff] using inside
  have known : path.dependencies[i]? = some node := by
    rcases getElem?_concat_eq_some_iff.1 at_ with known | ⟨isLast, _⟩
    · exact known
    · omega
  rw [DependencyPath.append, List.take_append_of_le_length bound]
  rcases Nat.lt_or_eq_of_le bound with before | atEnd
  · exact wellFormed.continues_addPath queued known before
  · obtain ⟨last, isLast, rfl⟩ := (wellFormed.paths path queued).coordinate_of_leaf ends
    rw [List.getLast?_eq_getElem?, ← atEnd, Nat.add_sub_cancel, known] at isLast
    cases isLast
    rw [wellFormed.firstPath?_new ends new, atEnd, List.take_length,
      ← (wellFormed.paths path queued).rootless]

theorem Stepped.wellFormed (stepped : Stepped repositories fs memory walk path rest next)
    (queued : walk.queue = path :: rest)
    (agrees : ∀ c dependency, memory.Declares repositories fs c dependency → declares c dependency)
    (wellFormed : walk.WellFormed repositories fs declares roots) :
    next.WellFormed repositories fs declares roots := by
  have taken : walk.graph.paths ++ [path] ++ rest = walk.graph.paths ++ walk.queue := by
    rw [queued, List.append_assoc, List.singleton_append]
  have waits : path ∈ walk.graph.paths ++ walk.queue := by simp [queued]
  have surveyed := stepped.surveyed wellFormed.surveyed
  have stays : ∀ c first, walk.graph.firstPath? c = some first →
      (walk.graph.addPath path).firstPath? c = some first :=
    fun _ _ => DependencyGraph.firstPath?_addPath_of_some
  cases stepped with
  | endless =>
    have subset : ∀ known ∈ walk.graph.paths ++ rest, known ∈ walk.graph.paths ++ walk.queue := by
      intro known member
      rw [queued]
      exact ((List.sublist_cons_self path rest).append_left walk.graph.paths).subset member
    exact ⟨surveyed, fun known member => wellFormed.paths known (subset known member),
      fun known member => wellFormed.continues known (subset known member), wellFormed.reported,
      wellFormed.unreported⟩
  | again leaf ends known =>
    refine ⟨surveyed, ?_, ?_, ?_, wellFormed.unreported⟩
    · exact fun known member => wellFormed.paths known (taken ▸ member)
    · intro known member i node at_ inside
      exact wellFormed.continues_addPath (taken ▸ member) at_ inside
    · intro c expanded missing
      obtain ⟨first, found, reported⟩ := wellFormed.reported c expanded missing
      exact ⟨first, stays c first found, reported⟩
  | unlocated leaf ends new missing =>
    have coordinates : path.dependencies.map (·.coordinate) = path.coordinates := by
      rw [DependencyPath.coordinates, (wellFormed.paths path waits).rootless]
      rfl
    refine ⟨surveyed, ?_, ?_, ?_, ?_⟩
    · exact fun known member => wellFormed.paths known (taken ▸ member)
    · intro known member i node at_ inside
      exact wellFormed.continues_addPath (taken ▸ member) at_ inside
    · intro c expanded unlocated
      by_cases same : c = leaf
      · subst same
        refine ⟨path, wellFormed.firstPath?_new ends new, ?_⟩
        refine (DependencyGraph.problemsOf_addProblem_self _).trans ?_
        rw [coordinates]
        exact congrArg (· ++ _) (wellFormed.unreported c (.inl new))
      · have earlier := (List.mem_cons.1 expanded).resolve_left same
        obtain ⟨first, found, reported⟩ := wellFormed.reported c earlier unlocated
        refine ⟨first, stays c first found, ?_⟩
        exact (DependencyGraph.problemsOf_addProblem_of_ne (Ne.symm same)).trans reported
    · intro c nothing
      have different : leaf ≠ c := by
        rintro rfl
        exact nothing.elim (fun absent => absent List.mem_cons_self) fun located => located missing
      refine (DependencyGraph.problemsOf_addProblem_of_ne different).trans ?_
      exact wellFormed.unreported c
        (nothing.imp_left fun absent earlier => absent (List.mem_cons_of_mem _ earlier))
  | located leaf file dependencies ends new found read =>
    have members : ∀ known ∈ walk.graph.paths ++ [path] ++
        (rest ++ (dependencies.filter (follows path)).map path.append),
        known ∈ walk.graph.paths ++ walk.queue ∨
          ∃ dependency ∈ dependencies, follows path dependency = true ∧
            known = path.append dependency := by
      intro known member
      rw [← List.append_assoc, taken] at member
      rcases List.mem_append.1 member with old | child
      · exact .inl old
      · obtain ⟨dependency, followed, rfl⟩ := List.mem_map.1 child
        obtain ⟨declared, followed⟩ := List.mem_filter.1 followed
        exact .inr ⟨dependency, declared, followed, rfl⟩
    refine ⟨surveyed, ?_, ?_, ?_, ?_⟩
    · intro known member
      rcases members known member with old | ⟨dependency, declared, followed, rfl⟩
      · exact wellFormed.paths known old
      · exact wellFormed_append (wellFormed.paths path waits) ends
          (agrees leaf dependency ⟨dependencies, read, declared⟩) followed
    · intro known member i node at_ inside
      rcases members known member with old | ⟨dependency, _, _, rfl⟩
      · exact wellFormed.continues_addPath old at_ inside
      · exact wellFormed.continues_append waits ends new dependency at_ inside
    · intro c expanded missing
      have different : c ≠ leaf := by
        rintro rfl
        rw [found] at missing
        cases missing
      have earlier := (List.mem_cons.1 expanded).resolve_left different
      obtain ⟨first, found, reported⟩ := wellFormed.reported c earlier missing
      exact ⟨first, stays c first found, reported⟩
    · intro c nothing
      refine wellFormed.unreported c
        (nothing.imp_left fun absent earlier => absent (List.mem_cons_of_mem _ earlier))

/-- After any number of steps, all recorded and waiting paths are well-formed, paths through one
artifact are the same up to it, and each artifact that was looked at has a file or is reported once,
with the first path to it. -/
theorem after_wellFormed
    (walked : after repositories fs steps (.ofRoots roots) memory = (.ok walk, later)) :
    (∀ path ∈ walk.graph.paths ++ walk.queue,
      path.WellFormed (memory.Declares repositories fs) roots) ∧
    (∀ first ∈ walk.graph.paths ++ walk.queue, ∀ second ∈ walk.graph.paths ++ walk.queue,
      ∀ i j (node other : Dependency),
        first.dependencies[i]? = some node → i + 1 < first.dependencies.length →
        second.dependencies[j]? = some other → j + 1 < second.dependencies.length →
        node.coordinate = other.coordinate →
          first.dependencies.take (i + 1) = second.dependencies.take (j + 1)) ∧
    ∀ c, (∃ path ∈ walk.graph.paths, path.leaf = some c) →
      (∃ file, walk.graph.file? c = some file) ∧ walk.graph.problemsOf c = [] ∨
        walk.graph.file? c = none ∧ ∃ first, walk.graph.firstPath? c = some first ∧
          walk.graph.problemsOf c = [⟨c, first.coordinates⟩] := by
  obtain ⟨wellFormed, _⟩ := after_keeps
    (fun walk current => walk.WellFormed repositories fs (memory.Declares repositories fs) roots ∧
      current.Agrees repositories fs memory)
    ⟨wellFormed_ofRoots roots, fun _ => rfl⟩
    (fun walk current path rest next later queued stepped holds => by
      obtain ⟨wellFormed, agrees⟩ := holds
      refine ⟨(step_ok stepped).wellFormed queued ?_ wellFormed, ?_⟩
      · intro c dependency declared
        obtain ⟨dependencies, read, member⟩ := declared
        exact ⟨dependencies, (agrees c).symm.trans read, member⟩
      · exact (agrees_of_step stepped).trans agrees)
    walked
  refine ⟨wellFormed.paths, ?_, ?_⟩
  · intro first member second member' i j node other at_ inside at' inside' same
    have begins := wellFormed.continues first member i node at_ inside
    have begins' := wellFormed.continues second member' j other at' inside'
    rw [same, begins'] at begins
    exact congrArg DependencyPath.dependencies (Option.some.inj begins).symm
  · intro c reached
    have expanded := (wellFormed.surveyed.expanded_iff c).2 reached
    have located := wellFormed.surveyed.located c expanded
    cases found : repositories.jarPath fs c with
    | none => exact .inr ⟨located.trans found, wellFormed.reported c expanded found⟩
    | some file =>
      refine .inl ⟨⟨file, located.trans found⟩, wellFormed.unreported c (.inr ?_)⟩
      rw [found]
      exact Option.some_ne_none file

namespace CycleSample

open PrecedenceSample (blank sampleRepositories)

def app : Coordinate := .plain "g" "app" "1"

def lib : Coordinate := .plain "g" "lib" "1"

def gone : Coordinate := .plain "g" "gone" "1"

def dependencyOn (c : Coordinate) (exclusions : List Key) : PomDependency :=
  ⟨c.group, c.artifact, some c.version, none, none, none, false, exclusions⟩

/-- The application and the library depend on each other and on an artifact without a file, which
the application excludes for the library. -/
def appPom : Pom :=
  { blank with dependencies := [dependencyOn lib [gone.key], dependencyOn gone []] }

def libPom : Pom := { blank with dependencies := [dependencyOn app [], dependencyOn gone []] }

def files : FileSystem := .ofNodes (
  [["m2"], ["m2", "g"], ["m2", "g", "app"], ["m2", "g", "app", "1"], ["m2", "g", "lib"],
    ["m2", "g", "lib", "1"]].map (fun names => (⟨false, names⟩, .directory)) ++
  [(⟨false, ["m2", "g", "app", "1", "app-1.jar"]⟩, .archive []),
    (⟨false, ["m2", "g", "app", "1", "app-1.pom"]⟩, .file (Utf8.encode appPom.written)),
    (⟨false, ["m2", "g", "lib", "1", "lib-1.jar"]⟩, .archive []),
    (⟨false, ["m2", "g", "lib", "1", "lib-1.pom"]⟩, .file (Utf8.encode libPom.written))])

/-- What the files say of the dependencies. -/
def described : PomMemory := [
  (app, some ⟨[], [], appPom.dependencies⟩), (lib, some ⟨[], [], libPom.dependencies⟩)]

theorem load_app : Pom.load files ⟨"m2/g/app/1/app-1.pom"⟩ = .ok appPom :=
  Pom.load_written rfl (by decide +kernel)

private theorem load_lib : Pom.load files ⟨"m2/g/lib/1/lib-1.pom"⟩ = .ok libPom :=
  Pom.load_written rfl (by decide +kernel)

theorem described_agrees : described.Agrees sampleRepositories files [] := by
  apply PomMemory.agrees_nil_of_rows
  simp only [described, List.forall_mem_cons]
  refine ⟨?_, ?_, fun _ member => absurd member List.not_mem_nil⟩
  · exact (PomMemory.directDependencies_of_load (by decide +kernel) load_app rfl rfl).trans
      (by decide +kernel)
  · exact (PomMemory.directDependencies_of_load (by decide +kernel) load_lib rfl rfl).trans
      (by decide +kernel)

/-- After three steps the way back to the application waits, and the artifact without a file is
reported for the application alone. -/
theorem after_wellFormed_in_cycle :
    ∃ walk later,
      after sampleRepositories files 3 (.ofRoots [app]) [] = (.ok walk, later) ∧
      walk.graph.paths.map (·.coordinates) = [[app], [app, lib], [app, gone]] ∧
      walk.queue.map (·.coordinates) = [[app, lib, app]] ∧
      (∀ path ∈ walk.graph.paths ++ walk.queue,
        path.WellFormed (PomMemory.Declares [] sampleRepositories files) [app]) ∧
      walk.graph.file? gone = none ∧ walk.graph.problemsOf gone = [⟨gone, [app, gone]⟩] := by
  have evaluated : ((after sampleRepositories files 3 (.ofRoots [app]) described).1.map fun walk =>
      (walk.graph.paths.map (·.coordinates), walk.queue.map (·.coordinates),
        walk.graph.file? gone, (walk.graph.firstPath? gone).map (·.coordinates))) =
        .ok ([[app], [app, lib], [app, gone]], [[app, lib, app]], none, some [app, gone]) :=
    toOption_eq_some_iff.1 (by decide +kernel)
  obtain ⟨walk, ran, results⟩ := map_ok evaluated
  obtain ⟨recorded, results⟩ := Prod.mk.inj results
  obtain ⟨waiting, results⟩ := Prod.mk.inj results
  obtain ⟨unlocated, first⟩ := Prod.mk.inj results
  obtain ⟨path, found, through⟩ := Option.map_eq_some_iff.1 first
  have remembered : after sampleRepositories files 3 (.ofRoots [app]) described = (.ok walk, _) :=
    Prod.ext ran rfl
  obtain ⟨later, walked⟩ := exists_after_of_agrees described_agrees remembered
  obtain ⟨wellFormed, _, looked⟩ := after_wellFormed walked
  refine ⟨walk, later, walked, recorded, waiting, wellFormed, unlocated, ?_⟩
  rcases looked gone ⟨path, DependencyGraph.firstPath?_some found⟩ with
    ⟨located, _⟩ | ⟨_, other, found', reported⟩
  · simp [unlocated] at located
  · cases found.symm.trans found'
    rw [reported, through]

end CycleSample

end Walk

end Linkage
