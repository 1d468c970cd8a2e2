import Linkage.Proofs.WellFormedWalks

/-!
Class paths that were built from artifacts.

What has been read before does not change which class path is built, nor whether one is. Every entry
is that of an artifact, and the first path that is recorded for it runs from a root to the artifact.
-/

set_option autoImplicit false

namespace Linkage

namespace Walk

variable {repositories : LocalRepositories} {fs : FileSystem} {memory later : PomMemory}

/-- The paths of a walk start at its roots. -/
theorem Returns.starts {roots : List Coordinate} {graph : DependencyGraph}
    (returns : Returns repositories fs (.ofRoots roots) memory (.ok graph) later) :
    ∀ path ∈ graph.paths, path.root = none ∧
      ∃ root ∈ roots, path.dependencies.head? = some (.plain root) := by
  obtain ⟨final, wellFormed, _, rfl⟩ := returns.keeps
    (WellFormed repositories fs (fun _ _ => True) roots) (wellFormed_ofRoots roots)
    fun walk memory path rest next queued stepped wellFormed =>
      stepped.wellFormed queued (fun _ _ _ => trivial) wellFormed
  intro path member
  have formed := wellFormed.paths path (List.mem_append_left _ member)
  obtain ⟨root, isRoot, first⟩ := formed.starts
  exact ⟨formed.rootless, root, isRoot, List.head?_eq_getElem?.trans first⟩

end Walk

namespace Mediation.Highest

private theorem recorded_of_located {platform : Platform} {graph : DependencyGraph} {entry : ClasspathEntry}
    (located : ∀ c file, graph.file? c = some file → ∃ path ∈ graph.paths, path.leaf = some c)
    (member : entry ∈ (highest platform graph).entries) :
    ∃ c, entry.coordinate = some c ∧ (∃ path ∈ graph.paths, path.leaf = some c) ∧
      (highest platform graph).classpath.paths entry =
        (graph.paths.filter (·.leaf == some c)).eraseDups := by
  have placed := member
  rw [highest_eq_assemble, Placement.entries_assemble] at placed
  obtain ⟨c, placed, entryOf⟩ := List.mem_filterMap.1 placed
  obtain ⟨file, stored, _⟩ := Option.map_eq_some_iff.1 entryOf
  have reached := located c file stored
  have won := mem_artifacts.1 placed
  refine ⟨c, Placement.coordinate_of_entryOf? entryOf, reached, ?_⟩
  rw [paths_of_entry won member (Placement.key?_of_entryOf? entryOf),
    pathsOf_of_observed won (mem_leaves.2 ⟨reached, rfl⟩)]

end Mediation.Highest

namespace ClasspathBuilder

open Mediation

/-- Whether the walk behind a class path returns. -/
def Ends (builder : ClasspathBuilder) (fs : FileSystem) (roots : List Coordinate)
    (memory : PomMemory) : Prop :=
  Walk.Ends builder.repositories fs (.ofRoots roots) memory

variable {builder : ClasspathBuilder} {fs : FileSystem} {roots : List Coordinate}
  {memory other later : PomMemory} {resolved : ResolvedClasspath} {graph : DependencyGraph}

/-- What has been read before changes neither whether a class path is built nor which one. -/
theorem resolve_agrees (ends : builder.Ends fs roots memory)
    (agrees : memory.Agrees builder.repositories fs other) :
    builder.Ends fs roots other ∧
      (builder.resolve fs roots memory).1 = (builder.resolve fs roots other).1 ∧
      (builder.resolve fs roots memory).2.Agrees builder.repositories fs memory := by
  obtain ⟨result, later, returns⟩ := ends
  obtain ⟨last, returns'⟩ := returns.of_agrees agrees
  refine ⟨returns'.ends, ?_, ?_⟩
  · rw [resolve_eq returns, resolve_eq returns']
  · rw [resolve_eq returns]
    exact returns.agrees

private theorem resolve_ok (ends : builder.Ends fs roots memory)
    (built : (builder.resolve fs roots memory).1 = .ok resolved) :
    ∃ graph later,
      Walk.Returns builder.repositories fs (.ofRoots roots) memory (.ok graph) later ∧
      resolved.classpath = (builder.strategy.mediate builder.platform graph).classpath := by
  obtain ⟨result, later, returns⟩ := ends
  rw [resolve_eq returns] at built
  obtain ⟨graph, rfl, same⟩ := map_ok built
  exact ⟨graph, later, returns, by rw [← same]⟩

/-- Either way of mediation records for an entry all paths to its artifact. -/
theorem recorded_of_mediate
    (returns : Walk.Returns builder.repositories fs (.ofRoots roots) memory (.ok graph) later)
    {entry : ClasspathEntry}
    (member : entry ∈ (builder.strategy.mediate builder.platform graph).entries) :
    ∃ c, entry.coordinate = some c ∧ (∃ path ∈ graph.paths, path.leaf = some c) ∧
      (builder.strategy.mediate builder.platform graph).classpath.paths entry =
        (graph.paths.filter (·.leaf == some c)).eraseDups := by
  cases strategy : builder.strategy with
  | maven =>
    rw [strategy] at member
    obtain ⟨winner, named, won, recorded⟩ := Nearest.paths_of_entry member
    obtain ⟨_, first, found, ends⟩ := Nearest.winner?_some won
    exact ⟨winner, named, ⟨first, (Nearest.first?_some found).1, ends⟩, recorded⟩
  | gradle =>
    rw [strategy] at member
    -- An artifact has an entry only if it has a file, and a file only if a path leads to it.
    refine Highest.recorded_of_located (fun c file stored => ?_) member
    by_contra unreached
    rw [(returns.file? c).2 unreached] at stored
    cases stored

/-- The first path that is recorded for an entry runs from a root to its artifact. -/
theorem exists_first_path (ends : builder.Ends fs roots memory)
    (built : (builder.resolve fs roots memory).1 = .ok resolved) {entry : ClasspathEntry}
    (member : entry ∈ resolved.entries) :
    ∃ c path, entry.coordinate = some c ∧ (resolved.classpath.paths entry).head? = some path ∧
      path.root = none ∧ (∃ root ∈ roots, path.dependencies.head? = some (.plain root)) ∧
      path.leaf = some c := by
  obtain ⟨graph, _, returns, same⟩ := resolve_ok ends built
  rw [ResolvedClasspath.entries, same] at member
  obtain ⟨c, named, ⟨reaching, reached, ends⟩, recorded⟩ := recorded_of_mediate returns member
  have among : reaching ∈ graph.paths.filter (·.leaf == some c) :=
    List.mem_filter.2 ⟨reached, beq_iff_eq.2 ends⟩
  obtain ⟨path, rest, filtered⟩ := List.exists_cons_of_ne_nil (List.ne_nil_of_mem among)
  have kept : path ∈ graph.paths.filter (·.leaf == some c) := by simp [filtered]
  obtain ⟨isPath, leads⟩ := List.mem_filter.1 kept
  obtain ⟨rootless, starts⟩ := returns.starts path isPath
  refine ⟨c, path, named, ?_, rootless, starts, beq_iff_eq.1 leads⟩
  rw [same, recorded, Nearest.head?_eraseDups, filtered]
  rfl

end ClasspathBuilder

end Linkage
