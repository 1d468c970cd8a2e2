import Linkage.Proofs.Ordered
import Linkage.Resolution.Mediation
import Mathlib.Data.List.Basic

/-!
What a sequence of placed artifacts makes of a class path.

Mediations differ in what they place, not in what becomes of it. Each placed artifact with a file
has one entry, in the order in which the artifacts were first placed, with the distinct paths that
it was placed with. Those without a file are reported, unless the graph reports them already.
-/

set_option autoImplicit false

namespace Linkage

/-- An artifact with a path that leads to it. -/
abbrev Placement := Coordinate × DependencyPath

namespace Placement

def artifacts (placed : List Placement) : List Coordinate := (placed.map (·.1)).eraseDups

def pathsOf (placed : List Placement) (artifact : Coordinate) : List DependencyPath :=
  ((placed.filter (·.1 == artifact)).map (·.2)).eraseDups

def entryOf? (graph : DependencyGraph) (artifact : Coordinate) : Option ClasspathEntry :=
  (graph.file? artifact).map (⟨·, some artifact⟩)

def annotated? (graph : DependencyGraph) (placed : List Placement) (artifact : Coordinate) :
    Option (ClasspathEntry × List DependencyPath) :=
  (entryOf? graph artifact).map fun entry => (entry, pathsOf placed artifact)

def problem? (graph : DependencyGraph) (placed : List Placement) (artifact : Coordinate) :
    Option ArtifactProblem :=
  if (graph.file? artifact).isSome || graph.artifactProblems.any (·.coordinate == artifact) then
    none
  else (placed.lookup artifact).map fun path => ⟨artifact, path.coordinates⟩

/-- The class path of some placed artifacts, without reference to the order of insertions. -/
def assemble (graph : DependencyGraph) (placed : List Placement) : ResolvedClasspath :=
  ⟨⟨(artifacts placed).filterMap (annotated? graph placed)⟩, [],
    graph.artifactProblems ++ (artifacts placed).filterMap (problem? graph placed)⟩

theorem eraseDups_concat {α : Type} [BEq α] [LawfulBEq α] (items : List α) (item : α) :
    (items ++ [item]).eraseDups =
      if items.contains item then items.eraseDups else items.eraseDups ++ [item] := by
  rw [List.eraseDups_append]
  by_cases member : item ∈ items
  · simp [List.removeAll, member]
  · simp [List.removeAll, member, List.eraseDups_cons]

theorem nodup_eraseDups {α : Type} [BEq α] [LawfulBEq α] (items : List α) :
    items.eraseDups.Nodup := by
  match items with
  | [] => exact .nil
  | first :: rest =>
    have shorter := List.length_filter_le (fun item => !item == first) rest
    rw [List.eraseDups_cons, List.nodup_cons]
    exact ⟨by simp, nodup_eraseDups _⟩
termination_by items.length

theorem filterMap_singleton {α β : Type} (f : α → Option β) (item : α) :
    [item].filterMap f = (f item).toList := by
  rw [List.filterMap_eq_flatMap_toList, List.flatMap_singleton]

variable {graph : DependencyGraph} {placed : List Placement} {artifact other : Coordinate}
  {path : DependencyPath}

theorem mem_artifacts : artifact ∈ artifacts placed ↔ ∃ path, (artifact, path) ∈ placed := by
  simp [artifacts]

theorem artifacts_concat_of_mem (known : artifact ∈ artifacts placed) :
    artifacts (placed ++ [(artifact, path)]) = artifacts placed := by
  have member : artifact ∈ placed.map (·.1) := List.mem_eraseDups.1 known
  simp only [artifacts, List.map_append, List.map_cons, List.map_nil, eraseDups_concat]
  rw [if_pos (List.contains_iff_mem.2 member)]

theorem artifacts_concat_of_not_mem (new : artifact ∉ artifacts placed) :
    artifacts (placed ++ [(artifact, path)]) = artifacts placed ++ [artifact] := by
  have absent : artifact ∉ placed.map (·.1) := fun member => new (List.mem_eraseDups.2 member)
  simp only [artifacts, List.map_append, List.map_cons, List.map_nil, eraseDups_concat]
  rw [if_neg (fun found => absent (List.contains_iff_mem.1 found))]

private theorem pathsOf_concat_self :
    pathsOf (placed ++ [(artifact, path)]) artifact =
      Classpath.addPath (pathsOf placed artifact) path := by
  simp [pathsOf, Classpath.addPath, eraseDups_concat]

theorem pathsOf_concat_of_ne (different : other ≠ artifact) :
    pathsOf (placed ++ [(artifact, path)]) other = pathsOf placed other := by
  simp [pathsOf, different.symm]

private theorem mem_pathsOf : path ∈ pathsOf placed artifact ↔ (artifact, path) ∈ placed := by
  simp [pathsOf]

private theorem pathsOf_eq_nil (new : artifact ∉ artifacts placed) : pathsOf placed artifact = [] := by
  rw [List.eq_nil_iff_forall_not_mem]
  intro path member
  exact new (mem_artifacts.2 ⟨path, mem_pathsOf.1 member⟩)

theorem coordinate_of_entryOf? {entry : ClasspathEntry}
    (located : entryOf? graph artifact = some entry) : entry.coordinate = some artifact := by
  obtain ⟨file, _, rfl⟩ := Option.map_eq_some_iff.1 located
  rfl

theorem same_iff {entry otherEntry : ClasspathEntry}
    (located : entryOf? graph artifact = some entry)
    (otherLocated : entryOf? graph other = some otherEntry) :
    entry.same otherEntry = true ↔ artifact = other := by
  constructor
  · intro same
    have coordinates := (ClasspathEntry.same_iff.1 same).2
    rw [coordinate_of_entryOf? located, coordinate_of_entryOf? otherLocated] at coordinates
    exact Option.some.inj coordinates
  · rintro rfl
    cases located.symm.trans otherLocated
    exact entry.same_refl

/-- Recording a path for the entry of an artifact changes what is recorded for that artifact. -/
theorem annotated?_concat {entry : ClasspathEntry} (located : entryOf? graph artifact = some entry)
    (other : Coordinate) :
    annotated? graph (placed ++ [(artifact, path)]) other =
      (annotated? graph placed other).map fun annotated =>
        if entry.same annotated.1 then (annotated.1, Classpath.addPath annotated.2 path)
        else annotated := by
  cases otherLocated : entryOf? graph other with
  | none => simp [annotated?, otherLocated]
  | some otherEntry =>
    simp only [annotated?, otherLocated, Option.map_some, same_iff located otherLocated]
    by_cases same : artifact = other
    · subst same
      rw [if_pos rfl, pathsOf_concat_self]
    · rw [if_neg same, pathsOf_concat_of_ne (Ne.symm same)]

private theorem contains_iff {entry : ClasspathEntry} (located : entryOf? graph artifact = some entry) :
    (assemble graph placed).classpath.contains entry = true ↔ artifact ∈ artifacts placed := by
  simp only [assemble, Classpath.contains, Classpath.entries, List.any_eq_true, List.mem_map,
    List.mem_filterMap]
  constructor
  · rintro ⟨_, ⟨annotated, ⟨other, member, recorded⟩, rfl⟩, same⟩
    obtain ⟨otherEntry, otherLocated, rfl⟩ := Option.map_eq_some_iff.1 recorded
    exact (same_iff located otherLocated).1 same ▸ member
  · intro member
    exact ⟨entry, ⟨(entry, pathsOf placed artifact), ⟨artifact, member, by
      simp [annotated?, located]⟩, rfl⟩, entry.same_refl⟩

/-- With an entry for the artifact, the annotations stand for the artifacts that are placed when it
is. -/
theorem insertEntry_annotated {entry : ClasspathEntry}
    (located : entryOf? graph artifact = some entry) :
    ((assemble graph placed).classpath.insertEntry entry).annotated =
      (artifacts (placed ++ [(artifact, path)])).filterMap (annotated? graph placed) := by
  by_cases known : artifact ∈ artifacts placed
  · rw [Classpath.insertEntry, if_pos ((contains_iff located).2 known),
      artifacts_concat_of_mem known]
    rfl
  · have new : annotated? graph placed artifact = some (entry, []) := by
      simp [annotated?, located, pathsOf_eq_nil known]
    rw [Classpath.insertEntry, if_neg (fun held => known ((contains_iff located).1 held)),
      artifacts_concat_of_not_mem known, List.filterMap_append]
    simp [assemble, new]

private theorem insert_annotated {entry : ClasspathEntry} (located : entryOf? graph artifact = some entry) :
    ((assemble graph placed).classpath.insert entry path).annotated =
      (artifacts (placed ++ [(artifact, path)])).filterMap
        (annotated? graph (placed ++ [(artifact, path)])) := by
  rw [funext (annotated?_concat located), ← List.map_filterMap, ← insertEntry_annotated located]
  rfl

/-- Later paths to a placed artifact do not change how it is reported. -/
theorem problem?_concat_of_mem (known : other ∈ artifacts placed) :
    problem? graph (placed ++ [(artifact, path)]) other = problem? graph placed other := by
  obtain ⟨first, member⟩ := mem_artifacts.1 known
  have placedBefore : (placed.lookup other).isSome :=
    List.lookup_isSome_iff.2 ⟨(other, first), member, beq_self_eq_true other⟩
  rw [problem?, problem?, List.lookup_append, Option.or_of_isSome placedBefore]

private theorem problem?_concat_of_not_mem (new : artifact ∉ artifacts placed) :
    problem? graph (placed ++ [(artifact, path)]) artifact =
      if (graph.file? artifact).isSome || graph.artifactProblems.any (·.coordinate == artifact) then
        none
      else some ⟨artifact, path.coordinates⟩ := by
  have first : placed.lookup artifact = none := by
    rw [List.lookup_eq_none_iff]
    intro placement member
    refine bne_iff_ne.2 fun same => new (mem_artifacts.2 ⟨placement.2, ?_⟩)
    rwa [same]
  rw [problem?, List.lookup_append, first]
  simp

theorem problems_concat_of_mem (known : artifact ∈ artifacts placed) :
    (assemble graph (placed ++ [(artifact, path)])).artifactProblems =
      (assemble graph placed).artifactProblems := by
  simp only [assemble, artifacts_concat_of_mem known]
  rw [List.filterMap_congr fun other member => problem?_concat_of_mem member]

private theorem problems_concat_of_not_mem (new : artifact ∉ artifacts placed) :
    (assemble graph (placed ++ [(artifact, path)])).artifactProblems =
      (assemble graph placed).artifactProblems ++
        (problem? graph (placed ++ [(artifact, path)]) artifact).toList := by
  simp only [assemble, artifacts_concat_of_not_mem new, List.filterMap_append, List.append_assoc]
  rw [List.filterMap_congr fun other member => problem?_concat_of_mem member, filterMap_singleton]

theorem reported_of_mem (unlocated : graph.file? artifact = none)
    (known : artifact ∈ artifacts placed) :
    (assemble graph placed).artifactProblems.any (·.coordinate == artifact) = true := by
  by_cases before : graph.artifactProblems.any (·.coordinate == artifact)
  · rw [assemble, List.any_append, before, Bool.true_or]
  · obtain ⟨first, member⟩ := mem_artifacts.1 known
    have placedBefore : (placed.lookup artifact).isSome :=
      List.lookup_isSome_iff.2 ⟨(artifact, first), member, beq_self_eq_true artifact⟩
    obtain ⟨path, looked⟩ := Option.isSome_iff_exists.1 placedBefore
    have reported : problem? graph placed artifact = some ⟨artifact, path.coordinates⟩ := by
      simp [problem?, unlocated, before, looked]
    have listed : ⟨artifact, path.coordinates⟩ ∈
        (artifacts placed).filterMap (problem? graph placed) :=
      List.mem_filterMap.2 ⟨artifact, known, reported⟩
    exact List.any_eq_true.2
      ⟨_, List.mem_append_right _ listed, beq_self_eq_true artifact⟩

private theorem reported_of_not_mem (new : artifact ∉ artifacts placed) :
    (assemble graph placed).artifactProblems.any (·.coordinate == artifact) =
      graph.artifactProblems.any (·.coordinate == artifact) := by
  have others : ((artifacts placed).filterMap (problem? graph placed)).any
      (·.coordinate == artifact) = false := by
    rw [List.any_eq_false]
    intro problem member same
    obtain ⟨other, known, reported⟩ := List.mem_filterMap.1 member
    rw [problem?] at reported
    split at reported
    next => cases reported
    next =>
      obtain ⟨_, _, rfl⟩ := Option.map_eq_some_iff.1 reported
      exact new (beq_iff_eq.1 same ▸ known)
  rw [assemble, List.any_append, others, Bool.or_false]

private theorem classpath_concat_of_unlocated (unlocated : graph.file? artifact = none) :
    (assemble graph (placed ++ [(artifact, path)])).classpath =
      (assemble graph placed).classpath := by
  have nothing : annotated? graph (placed ++ [(artifact, path)]) artifact = none := by
    simp [annotated?, entryOf?, unlocated]
  have others : annotated? graph (placed ++ [(artifact, path)]) = annotated? graph placed := by
    funext other
    by_cases same : other = artifact
    · simp [annotated?, entryOf?, same, unlocated]
    · rw [annotated?, annotated?, pathsOf_concat_of_ne same]
  simp only [assemble, Classpath.mk.injEq]
  rw [← others]
  by_cases known : artifact ∈ artifacts placed
  · rw [artifacts_concat_of_mem known]
  · simp [artifacts_concat_of_not_mem known, nothing]

theorem eq_assemble {resolved : ResolvedClasspath}
    (classpath : resolved.classpath = (assemble graph placed).classpath)
    (entryPoints : resolved.entryPoints = [])
    (problems : resolved.artifactProblems = (assemble graph placed).artifactProblems) :
    resolved = assemble graph placed := by
  cases resolved
  cases classpath
  cases entryPoints
  cases problems
  rfl

private theorem report_assemble (unlocated : graph.file? artifact = none) :
    Mediation.report (assemble graph placed) artifact path =
      assemble graph (placed ++ [(artifact, path)]) := by
  have classpath : (assemble graph placed).classpath =
      (assemble graph (placed ++ [(artifact, path)])).classpath :=
    (classpath_concat_of_unlocated unlocated).symm
  by_cases known : artifact ∈ artifacts placed
  · rw [Mediation.report, if_pos (reported_of_mem unlocated known)]
    exact eq_assemble classpath rfl (problems_concat_of_mem known).symm
  · have problems : (assemble graph (placed ++ [(artifact, path)])).artifactProblems = _ :=
      problems_concat_of_not_mem known
    rw [problem?_concat_of_not_mem known, unlocated] at problems
    rw [Mediation.report, reported_of_not_mem known]
    split
    next before => exact eq_assemble classpath rfl (by simp [problems, before])
    next unreported => exact eq_assemble classpath rfl (by simp [problems, unreported])

/-- Placing one more artifact. -/
theorem place_assemble (graph : DependencyGraph) (placed : List Placement) (artifact : Coordinate)
    (path : DependencyPath) :
    Mediation.place graph (assemble graph placed) artifact path =
      assemble graph (placed ++ [(artifact, path)]) := by
  rw [Mediation.place]
  cases located : graph.file? artifact with
  | none => exact report_assemble located
  | some file =>
    have found : entryOf? graph artifact = some ⟨file, some artifact⟩ := by simp [entryOf?, located]
    refine eq_assemble (congrArg Classpath.mk (insert_annotated found)) rfl ?_
    by_cases known : artifact ∈ artifacts placed
    · exact (problems_concat_of_mem known).symm
    · rw [problems_concat_of_not_mem known, problem?_concat_of_not_mem known]
      simp [located]

/-- Placing an artifact with the same path again changes nothing. -/
theorem assemble_concat_of_mem (known : (artifact, path) ∈ placed) :
    assemble graph (placed ++ [(artifact, path)]) = assemble graph placed := by
  have listed : artifact ∈ artifacts placed := mem_artifacts.2 ⟨path, known⟩
  have recorded : pathsOf (placed ++ [(artifact, path)]) = pathsOf placed := by
    funext other
    by_cases same : other = artifact
    · subst same
      rw [pathsOf_concat_self, Classpath.addPath, if_pos (by simpa using mem_pathsOf.2 known)]
    · exact pathsOf_concat_of_ne same
  have annotations : annotated? graph (placed ++ [(artifact, path)]) = annotated? graph placed := by
    funext other
    rw [annotated?, annotated?, recorded]
  refine eq_assemble ?_ rfl (problems_concat_of_mem listed)
  rw [assemble, assemble, artifacts_concat_of_mem listed, annotations]

theorem entries_assemble (graph : DependencyGraph) (placed : List Placement) :
    (assemble graph placed).entries = (artifacts placed).filterMap (entryOf? graph) := by
  simp only [assemble, ResolvedClasspath.entries, Classpath.entries, List.map_filterMap]
  congr
  funext artifact
  rw [annotated?, Option.map_map]
  exact Option.map_id'

private theorem paths_eq_find? (classpath : Classpath) (entry : ClasspathEntry) :
    classpath.paths entry =
      ((classpath.annotated.find? fun annotated => entry.same annotated.1).map (·.2)).getD [] :=
  rfl

theorem paths_assemble {entry : ClasspathEntry} (known : artifact ∈ artifacts placed)
    (located : entryOf? graph artifact = some entry) :
    (assemble graph placed).classpath.paths entry = pathsOf placed artifact := by
  rw [paths_eq_find?]
  cases found : (assemble graph placed).classpath.annotated.find? fun annotated =>
      entry.same annotated.1 with
  | none =>
    have member : (entry, pathsOf placed artifact) ∈ (assemble graph placed).classpath.annotated :=
      List.mem_filterMap.2 ⟨artifact, known, by simp [annotated?, located]⟩
    exact (List.find?_eq_none.1 found (entry, pathsOf placed artifact) member entry.same_refl).elim
  | some annotated =>
    obtain ⟨other, _, recorded⟩ := List.mem_filterMap.1 (List.mem_of_find?_eq_some found)
    obtain ⟨otherEntry, otherLocated, rfl⟩ := Option.map_eq_some_iff.1 recorded
    have same := List.find?_some found
    rw [(same_iff located otherLocated).1 same]
    rfl

end Placement

end Linkage
