import Linkage.Proofs.HighestMediation
import Linkage.Proofs.LevelOrder

/-!
Enforced versions on class paths that are built from repositories.

A walk looks for the files of the artifacts at the ends of its paths, and of no others. So an
enforced version has an entry exactly if some path leads to it. Where it takes the place of another
version, it is reported as an artifact without a file, even if a repository keeps one.
-/

set_option autoImplicit false

namespace Linkage

namespace Walk

/-- What has been looked at is what the recorded paths lead to, and only that can have a file. -/
structure Surveyed (repositories : LocalRepositories) (fs : FileSystem) (walk : Walk) : Prop where
  expanded_iff : ∀ c, c ∈ walk.expanded ↔ ∃ path ∈ walk.graph.paths, path.leaf = some c
  located : ∀ c ∈ walk.expanded, walk.graph.file? c = repositories.jarPath fs c
  unlocated : ∀ c, c ∉ walk.expanded → walk.graph.file? c = none

variable {repositories : LocalRepositories} {fs : FileSystem} {walk next : Walk}
  {path : DependencyPath} {rest : List DependencyPath} {memory later : PomMemory}

theorem surveyed_ofRoots (roots : List Coordinate) :
    Surveyed repositories fs (.ofRoots roots) where
  expanded_iff c := by simp [ofRoots, DependencyGraph.empty]
  located c member := by simp [ofRoots] at member
  unlocated c _ := rfl

theorem exists_concat_leaf_iff {paths : List DependencyPath} {leaf : Coordinate}
    (ends : path.leaf = some leaf) (c : Coordinate) :
    (∃ known ∈ paths ++ [path], known.leaf = some c) ↔
      c = leaf ∨ ∃ known ∈ paths, known.leaf = some c := by
  simp [or_and_right, exists_or, ends, eq_comm, or_comm]

private theorem file?_setFile (graph : DependencyGraph) (leaf c : Coordinate) (file : Path) :
    (graph.setFile leaf file).file? c = if c = leaf then some file else graph.file? c := by
  by_cases same : c = leaf
  · simp [DependencyGraph.file?, DependencyGraph.setFile, same]
  · simp [DependencyGraph.file?, DependencyGraph.setFile, same, List.lookup_cons,
      beq_eq_false_iff_ne.2 same]

theorem Stepped.surveyed (stepped : Stepped repositories fs memory walk path rest next)
    (surveyed : Surveyed repositories fs walk) : Surveyed repositories fs next := by
  cases stepped with
  | endless => exact ⟨surveyed.expanded_iff, surveyed.located, surveyed.unlocated⟩
  | again leaf ends known =>
    refine ⟨fun c => ?_, surveyed.located, surveyed.unlocated⟩
    refine Iff.trans ?_ (exists_concat_leaf_iff ends c).symm
    rw [← surveyed.expanded_iff]
    exact (or_iff_right_of_imp fun same => same ▸ known).symm
  | unlocated leaf ends new missing =>
    refine ⟨fun c => ?_, fun c member => ?_, fun c absent => ?_⟩
    · refine Iff.trans ?_ (exists_concat_leaf_iff ends c).symm
      rw [← surveyed.expanded_iff]
      exact List.mem_cons
    · rcases List.mem_cons.1 member with rfl | earlier
      · exact (surveyed.unlocated c new).trans missing.symm
      · exact surveyed.located c earlier
    · exact surveyed.unlocated c fun earlier => absent (List.mem_cons_of_mem _ earlier)
  | located leaf file dependencies ends new found =>
    refine ⟨fun c => ?_, fun c member => ?_, fun c absent => ?_⟩
    · refine Iff.trans ?_ (exists_concat_leaf_iff ends c).symm
      rw [← surveyed.expanded_iff]
      exact List.mem_cons
    · refine (file?_setFile _ leaf c file).trans ?_
      split
      next same => rw [same, found]
      next different =>
        exact surveyed.located c ((List.mem_cons.1 member).resolve_left different)
    · refine (file?_setFile _ leaf c file).trans ?_
      have different : c ≠ leaf := fun same => absent (same ▸ List.mem_cons_self)
      rw [if_neg different]
      exact surveyed.unlocated c fun earlier => absent (List.mem_cons_of_mem _ earlier)

/-- After a walk, an artifact has the file that the repositories lead to if a path leads to it, and
no file otherwise. -/
theorem Returns.file? {roots : List Coordinate} {graph : DependencyGraph}
    (returns : Returns repositories fs (.ofRoots roots) memory (.ok graph) later)
    (c : Coordinate) :
    ((∃ path ∈ graph.paths, path.leaf = some c) → graph.file? c = repositories.jarPath fs c) ∧
      ((¬ ∃ path ∈ graph.paths, path.leaf = some c) → graph.file? c = none) := by
  obtain ⟨final, surveyed, _, rfl⟩ :=
    returns.keeps (Surveyed repositories fs) (surveyed_ofRoots roots)
      fun walk memory path rest next _ stepped surveyed => stepped.surveyed surveyed
  rw [← surveyed.expanded_iff]
  exact ⟨surveyed.located c, surveyed.unlocated c⟩

end Walk

namespace Mediation.Highest

variable {platform : Platform} {paths : List DependencyPath} {key : Key} {version : String}

/-- Among artifacts without classifiers, an enforced version determines what is selected. -/
theorem selected?_of_enforced (pinned : platform.lookup key = some version)
    (reached : ∃ path ∈ paths, path.leafKey? = some key)
    (plain : ∀ leaf ∈ leaves paths key, leaf.classifier = none) :
    selected? platform paths key = some (.plain key.group key.artifact version) := by
  obtain ⟨path, member, reaches⟩ := reached
  obtain ⟨leaf, ends, rfl⟩ := Option.map_eq_some_iff.1 reaches
  obtain ⟨winner, won⟩ := exists_selected platform member ends
  obtain ⟨origin, observed, same⟩ := (isSelected won).stems
  have keyed : origin.key = leaf.key := (mem_leaves.1 observed).2
  rw [won, same, (isSelected won).enforced version pinned, ← keyed]
  simp [Coordinate.plain, Coordinate.withVersion, Coordinate.key, plain origin observed]

end Mediation.Highest

namespace ClasspathBuilder

open Mediation

variable {builder : ClasspathBuilder} {fs : FileSystem} {roots : List Coordinate}
  {memory later : PomMemory} {graph : DependencyGraph} {key : Key} {version : String}

private theorem resolve_gradle (gradle : builder.strategy = .gradle)
    (returns : Walk.Returns builder.repositories fs (.ofRoots roots) memory (.ok graph) later) :
    (builder.resolve fs roots memory).1 = .ok { highest builder.platform graph with
      entryPoints := roots.filterMap (highest builder.platform graph).classpath.entryFor? } := by
  rw [resolve_eq returns, gradle]
  rfl

/-- After a walk that returns, an enforced version of a key that paths lead to is on the class path
exactly if one of them leads to that version. Otherwise the key has no entry. -/
theorem resolve_enforced_iff (gradle : builder.strategy = .gradle)
    (returns : Walk.Returns builder.repositories fs (.ofRoots roots) memory (.ok graph) later)
    (pinned : builder.platform.lookup key = some version)
    (reached : ∃ path ∈ graph.paths, path.leafKey? = some key)
    (plain : ∀ leaf ∈ Highest.leaves graph.paths key, leaf.classifier = none)
    (stored : (builder.repositories.jarPath fs
      (.plain key.group key.artifact version)).isSome = true) :
    ∃ resolved, (builder.resolve fs roots memory).1 = .ok resolved ∧
      ((∃ entry ∈ resolved.entries, ∃ artifact, entry.coordinate = some artifact ∧
          artifact.key = key ∧ artifact.version = version) ↔
        ∃ path ∈ graph.paths, path.leaf = some (.plain key.group key.artifact version)) ∧
      ((¬ ∃ path ∈ graph.paths, path.leaf = some (.plain key.group key.artifact version)) →
        (∀ entry ∈ resolved.entries, entry.key? ≠ some key) ∧
          ∃ problem ∈ resolved.artifactProblems,
            problem.coordinate = .plain key.group key.artifact version) := by
  have served := Highest.serves (Highest.selected?_of_enforced pinned reached plain)
  obtain ⟨located, unlocated⟩ := returns.file? (.plain key.group key.artifact version)
  have missing (unobserved : ¬ ∃ path ∈ graph.paths,
      path.leaf = some (.plain key.group key.artifact version)) :
      ∀ entry ∈ (highest builder.platform graph).entries, entry.key? ≠ some key := by
    have entries := served.entries
    rw [unlocated unobserved] at entries
    intro entry member keyed
    exact List.filter_eq_nil_iff.1 entries entry member (beq_iff_eq.2 keyed)
  refine ⟨_, resolve_gradle gradle returns, ⟨?_, ?_⟩, ?_⟩
  · rintro ⟨entry, member, artifact, named, keyed, _⟩
    by_contra unobserved
    exact missing unobserved entry member (by simp [ClasspathEntry.key?, named, keyed])
  · intro observed
    obtain ⟨file, found⟩ := Option.isSome_iff_exists.1 stored
    have entries := served.entries
    rw [located observed, found] at entries
    have member : (⟨file, some (.plain key.group key.artifact version)⟩ : ClasspathEntry) ∈
        (highest builder.platform graph).entries.filter (·.key? == some key) := by
      rw [entries]
      exact List.mem_singleton_self _
    exact ⟨_, (List.mem_filter.1 member).1, _, rfl, rfl, rfl⟩
  · intro unobserved
    exact ⟨missing unobserved, served.reported (unlocated unobserved)⟩

namespace EnforcedSample

open NearestSample
open PrecedenceSample (sampleRepositories)

/-- The earlier version of the library is enforced. -/
def enforcing : ClasspathBuilder := ⟨sampleRepositories, .gradle, [(near.key, near.version)]⟩

theorem resolve_keeps_enforced_version :
    (enforcing.repositories.jarPath files near).isSome = true ∧
      ∃ graph later resolved,
        Walk.Returns enforcing.repositories files (.ofRoots [far, near]) [] (.ok graph) later ∧
        graph.paths.filterMap (·.leaf) = [far, near, further] ∧
        (enforcing.resolve files [far, near] []).1 = .ok resolved ∧
        ∃ entry ∈ resolved.entries, ∃ artifact, entry.coordinate = some artifact ∧
          artifact.key = near.key ∧ artifact.version = near.version := by
  have evaluated : (Walk.graphAfter sampleRepositories files 3 (.ofRoots [far, near]) described).map
      (fun graph => graph.paths.filterMap (·.leaf)) = some [far, near, further] := by
    decide +kernel
  obtain ⟨graph, finished, ends⟩ := Option.map_eq_some_iff.1 evaluated
  obtain ⟨later, returns⟩ : ∃ later, Walk.Returns enforcing.repositories files
      (.ofRoots [far, near]) [] (.ok graph) later := returns_of_described finished
  have stored : (enforcing.repositories.jarPath files near).isSome = true := by decide +kernel
  have plain : ∀ leaf ∈ Highest.leaves graph.paths near.key, leaf.classifier = none := by
    rw [Highest.leaves, ends]
    decide
  have observed : ∃ path ∈ graph.paths, path.leaf = some near := by
    rw [← List.mem_filterMap, ends]
    decide
  have reached : ∃ path ∈ graph.paths, path.leafKey? = some near.key := by
    obtain ⟨path, member, ends⟩ := observed
    exact ⟨path, member, Highest.leafKey?_of_leaf ends⟩
  obtain ⟨resolved, built, honoured, _⟩ :=
    resolve_enforced_iff rfl returns rfl reached plain stored
  exact ⟨stored, graph, later, resolved, returns, ends, built, honoured.2 observed⟩

/-- The repository keeps the enforced version, but no path leads to it. -/
theorem resolve_drops_enforced_version :
    (enforcing.repositories.jarPath files near).isSome = true ∧
      ∃ graph later resolved,
        Walk.Returns enforcing.repositories files (.ofRoots [far]) [] (.ok graph) later ∧
        graph.paths.filterMap (·.leaf) = [far, further] ∧
        (enforcing.resolve files [far] []).1 = .ok resolved ∧
        resolved.entries.map (·.coordinate) = [some far] := by
  have evaluated : (Walk.graphAfter sampleRepositories files 2 (.ofRoots [far]) described).map
      (fun graph => (graph.paths.filterMap (·.leaf),
        (highest enforcing.platform graph).entries.map (·.coordinate))) =
          some ([far, further], [some far]) := by
    decide +kernel
  obtain ⟨graph, finished, results⟩ := Option.map_eq_some_iff.1 evaluated
  obtain ⟨ends, entries⟩ := Prod.mk.inj results
  obtain ⟨later, returns⟩ : ∃ later, Walk.Returns enforcing.repositories files
      (.ofRoots [far]) [] (.ok graph) later := returns_of_described finished
  exact ⟨by decide +kernel, graph, later, _, returns, ends, resolve_gradle rfl returns, entries⟩

end EnforcedSample

end ClasspathBuilder

end Linkage
