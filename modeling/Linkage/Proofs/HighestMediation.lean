import Linkage.Proofs.ArtifactSelection
import Mathlib.Data.List.Nodup

/-!
The Gradle way of mediation, in terms of the paths of a graph.

A key goes to the artifact that is selected for it. If paths lead to that artifact, these are
placed. If none does, because its version is enforced, it takes the place of the artifact at the end
of the first path to the key.
-/

set_option autoImplicit false

namespace Linkage

namespace Mediation.Highest

variable {platform : Platform} {graph : DependencyGraph} {paths : List DependencyPath}
  {path : DependencyPath} {key : Key} {leaf winner : Coordinate}

/-- What is placed on account of a path. A selected artifact that no path leads to is placed for the
first path to its key. -/
def placement? (platform : Platform) (paths : List DependencyPath) (path : DependencyPath) :
    Option Placement :=
  path.leaf.bind fun leaf => (selected? platform paths leaf.key).bind fun winner =>
    if winner = leaf then some (leaf, path)
    else if winner ∉ leaves paths leaf.key ∧ Nearest.first? paths leaf.key = some path then
      some (winner, substitute path winner)
    else none

def placements (platform : Platform) (paths : List DependencyPath) : List Placement :=
  paths.filterMap (placement? platform paths)

variable {seen rest : List DependencyPath} {state : Highest}

/-- What the state stands for after some of the paths. -/
structure Follows (platform : Platform) (graph : DependencyGraph) (seen : List DependencyPath)
    (state : Highest) : Prop where
  /-- A key whose artifact is on no path is taken care of once a path to the key is met. -/
  placed : ∀ key winner, selected? platform graph.paths key = some winner →
    winner ∉ leaves graph.paths key →
      (key ∈ state.placed ↔ ∃ path ∈ seen, path.leafKey? = some key)
  resolved : state.resolved =
    Placement.assemble graph (seen.filterMap (placement? platform graph.paths))

private theorem exists_concat_iff_of_ne (different : path.leafKey? ≠ some key) :
    (∃ known ∈ seen ++ [path], known.leafKey? = some key) ↔
      ∃ known ∈ seen, known.leafKey? = some key := by
  simp [or_and_right, exists_or, different]

/-- A path for which nothing new is placed, either because its key is taken care of or because the
selected artifact is on another path. -/
theorem Follows.pass (follows : Follows platform graph seen state)
    (met : ∀ key winner, selected? platform graph.paths key = some winner →
      winner ∉ leaves graph.paths key → path.leafKey? = some key → key ∈ state.placed)
    (known : ∀ placement, placement? platform graph.paths path = some placement →
      placement ∈ seen.filterMap (placement? platform graph.paths)) :
    Follows platform graph (seen ++ [path]) state where
  placed key winner won unobserved := by
    by_cases ends : path.leafKey? = some key
    · have settled := met key winner won unobserved ends
      exact ⟨fun _ => ⟨path, by simp, ends⟩, fun _ => settled⟩
    · rw [exists_concat_iff_of_ne ends]
      exact follows.placed key winner won unobserved
  resolved := by
    rw [List.filterMap_append, Placement.filterMap_singleton, follows.resolved]
    cases made : placement? platform graph.paths path with
    | none => rw [Option.toList_none, List.append_nil]
    | some placement => exact (Placement.assemble_concat_of_mem (known placement made)).symm

theorem Follows.add {artifact : Coordinate} {route : DependencyPath}
    (follows : Follows platform graph seen state) (ends : path.leaf = some leaf)
    (made : placement? platform graph.paths path = some (artifact, route)) :
    Follows platform graph (seen ++ [path])
      ⟨leaf.key :: state.placed, place graph state.resolved artifact route⟩ where
  placed key winner won unobserved := by
    by_cases same : key = leaf.key
    · subst same
      exact ⟨fun _ => ⟨path, by simp, leafKey?_of_leaf ends⟩, fun _ => List.mem_cons_self⟩
    · have different : path.leafKey? ≠ some key := by
        simp [leafKey?_of_leaf ends, Ne.symm same]
      rw [exists_concat_iff_of_ne different, List.mem_cons, or_iff_right same]
      exact follows.placed key winner won unobserved
  resolved := by
    rw [List.filterMap_append, Placement.filterMap_singleton, made, follows.resolved,
      Placement.place_assemble]
    rfl

private theorem first?_append_of_mem (met : ∃ known ∈ seen, known.leafKey? = some key)
    (found : Nearest.first? (seen ++ rest) key = some path) : path ∈ seen := by
  obtain ⟨known, member, ends⟩ := met
  rw [Nearest.first?, List.find?_append] at found
  cases before : seen.find? (·.leafKey? == some key) with
  | none => exact absurd (beq_iff_eq.2 ends) (List.find?_eq_none.1 before known member)
  | some first =>
    rw [before, Option.some_or] at found
    cases found
    exact List.mem_of_find?_eq_some before

private theorem first?_append_of_new (new : ¬ ∃ known ∈ seen, known.leafKey? = some key)
    (ends : path.leafKey? = some key) :
    Nearest.first? (seen ++ path :: rest) key = some path := by
  have before : seen.find? (·.leafKey? == some key) = none :=
    List.find?_eq_none.2 fun known member same => new ⟨known, member, beq_iff_eq.1 same⟩
  rw [Nearest.first?, List.find?_append, before, Option.none_or, List.find?_cons]
  simp [ends]

/-- What a step does with a path to a key for which an artifact is selected. -/
theorem next_eq (ends : path.leaf = some leaf)
    (won : selected? platform graph.paths leaf.key = some winner) :
    state.next graph (observed graph) (winners platform (observed graph)) path =
      if winner = leaf then ⟨leaf.key :: state.placed, place graph state.resolved leaf path⟩
      else if leaf.key ∈ state.placed ∨ winner ∈ leaves graph.paths leaf.key then state
      else ⟨leaf.key :: state.placed,
        place graph state.resolved winner (substitute path winner)⟩ := by
  simp only [Highest.next, ends, lookup_selected, won, key_of_selected? won, Bool.or_eq_true,
    isObserved_iff, List.contains_iff_mem]

private theorem Follows.next_of_held (follows : Follows platform graph seen state)
    (split : graph.paths = seen ++ path :: rest) (ends : path.leaf = some leaf)
    (won : selected? platform graph.paths leaf.key = some winner) (different : winner ≠ leaf)
    (held : leaf.key ∈ state.placed ∨ winner ∈ leaves graph.paths leaf.key) :
    Follows platform graph (seen ++ [path]) state := by
  refine follows.pass (fun key other otherWon offPath keyed => ?_) (fun placement made => ?_)
  · cases (leafKey?_of_leaf ends).symm.trans keyed
    cases won.symm.trans otherWon
    exact held.resolve_right offPath
  · -- Only a path that equals the first one to its key, which was seen, can be placed here.
    have substituted : winner ∉ leaves graph.paths leaf.key ∧
        Nearest.first? graph.paths leaf.key = some path := by
      by_contra otherwise
      simp [placement?, ends, won, different, otherwise] at made
    obtain ⟨offPath, first⟩ := substituted
    have met := (follows.placed leaf.key winner won offPath).1 (held.resolve_right offPath)
    rw [split] at first
    exact List.mem_filterMap.2 ⟨path, first?_append_of_mem met first, made⟩

theorem Follows.next (follows : Follows platform graph seen state)
    (split : graph.paths = seen ++ path :: rest) :
    Follows platform graph (seen ++ [path])
      (state.next graph (observed graph) (winners platform (observed graph)) path) := by
  cases ends : path.leaf with
  | none =>
    simp only [Highest.next, ends]
    refine follows.pass (fun key _ _ _ keyed => ?_) (fun placement made => ?_)
    · simp [DependencyPath.leafKey?, ends] at keyed
    · simp [placement?, ends] at made
  | some leaf =>
    have member : path ∈ graph.paths := by simp [split]
    obtain ⟨winner, won⟩ := exists_selected platform member ends
    rw [next_eq ends won]
    split
    next same =>
      subst same
      exact follows.add ends (by simp [placement?, ends, won])
    next different =>
      split
      next held => exact follows.next_of_held split ends won different held
      next free =>
        obtain ⟨unsettled, offPath⟩ := not_or.1 free
        have new := (not_congr (follows.placed leaf.key winner won offPath)).1 unsettled
        have first : Nearest.first? graph.paths leaf.key = some path := by
          rw [split]
          exact first?_append_of_new new (leafKey?_of_leaf ends)
        exact follows.add ends (by simp [placement?, ends, won, different, offPath, first])

theorem Follows.foldl (follows : Follows platform graph seen state)
    (split : graph.paths = seen ++ rest) :
    Follows platform graph graph.paths
      (rest.foldl (Highest.next graph (observed graph) (winners platform (observed graph)))
        state) := by
  induction rest generalizing seen state with
  | nil =>
    rw [List.append_nil] at split
    rwa [split]
  | cons path rest ih =>
    exact ih (follows.next split) (by simp [split])

theorem follows_start (platform : Platform) (graph : DependencyGraph) :
    Follows platform graph [] ⟨[], start graph⟩ where
  placed _ _ _ _ := by simp
  resolved := by simp [start, Placement.assemble, Placement.artifacts, Classpath.empty]

/-- The paths to the selected artifacts are placed, and one path for each of those that no path
leads to. -/
theorem highest_eq_assemble (platform : Platform) (graph : DependencyGraph) :
    highest platform graph = Placement.assemble graph (placements platform graph.paths) :=
  ((follows_start platform graph).foldl rfl).resolved

theorem placement?_some {placement : Placement}
    (made : placement? platform paths path = some placement) :
    ∃ leaf, path.leaf = some leaf ∧ selected? platform paths leaf.key = some placement.1 ∧
      (placement = (leaf, path) ∨ placement.1 ∉ leaves paths leaf.key ∧
        Nearest.first? paths leaf.key = some path ∧
        placement.2 = substitute path placement.1) := by
  obtain ⟨leaf, ends, made⟩ := Option.bind_eq_some_iff.1 made
  obtain ⟨winner, won, made⟩ := Option.bind_eq_some_iff.1 made
  refine ⟨leaf, ends, ?_⟩
  split at made
  next same =>
    cases made
    exact ⟨same ▸ won, .inl rfl⟩
  next =>
    split at made
    next first =>
      cases made
      exact ⟨won, .inr ⟨first.1, first.2, rfl⟩⟩
    next => cases made

private theorem placement?_of_leaf (won : selected? platform paths winner.key = some winner)
    (ends : path.leaf = some winner) : placement? platform paths path = some (winner, path) := by
  simp [placement?, ends, won]

private theorem placement?_of_unobserved (won : selected? platform paths winner.key = some winner)
    (offPath : winner ∉ leaves paths winner.key)
    (found : Nearest.first? paths winner.key = some path) :
    placement? platform paths path = some (winner, substitute path winner) := by
  obtain ⟨member, leaf, ends, keyed⟩ := Nearest.first?_some found
  have different : winner ≠ leaf := by
    rintro rfl
    exact offPath (mem_leaves.2 ⟨⟨path, member, ends⟩, rfl⟩)
  simp [placement?, ends, keyed, won, different, offPath, found]

private theorem exists_first (won : selected? platform paths key = some winner) :
    ∃ first, Nearest.first? paths key = some first := by
  obtain ⟨leaf, member, _⟩ := (isSelected won).stems
  obtain ⟨⟨path, pathMember, ends⟩, rfl⟩ := mem_leaves.1 member
  refine Option.ne_none_iff_exists'.1 fun nothing => ?_
  exact List.find?_eq_none.1 nothing path pathMember (beq_iff_eq.2 (leafKey?_of_leaf ends))

theorem mem_artifacts :
    winner ∈ Placement.artifacts (placements platform paths) ↔
      selected? platform paths winner.key = some winner := by
  simp only [Placement.mem_artifacts, placements, List.mem_filterMap]
  constructor
  · rintro ⟨route, path, _, made⟩
    obtain ⟨leaf, _, won, _⟩ := placement?_some made
    rwa [← key_of_selected? won] at won
  · intro won
    by_cases onPath : winner ∈ leaves paths winner.key
    · obtain ⟨⟨path, member, ends⟩, _⟩ := mem_leaves.1 onPath
      exact ⟨path, path, member, placement?_of_leaf won ends⟩
    · obtain ⟨first, found⟩ := exists_first won
      exact ⟨substitute first winner, first, (Nearest.first?_some found).1,
        placement?_of_unobserved won onPath found⟩

private theorem distinct_keys (platform : Platform) (paths : List DependencyPath) :
    ((Placement.artifacts (placements platform paths)).map (·.key)).Nodup := by
  refine List.Nodup.map_on ?_ (Placement.nodup_eraseDups _)
  intro first firstMember second secondMember same
  have won := mem_artifacts.1 firstMember
  rw [same, mem_artifacts.1 secondMember] at won
  exact (Option.some.inj won).symm

/-- An artifact that paths lead to is placed for these paths only. -/
theorem pathsOf_of_observed (won : selected? platform paths winner.key = some winner)
    (onPath : winner ∈ leaves paths winner.key) :
    Placement.pathsOf (placements platform paths) winner =
      (paths.filter (·.leaf == some winner)).eraseDups := by
  have selected (path : DependencyPath) :
      ((placement? platform paths path).filter (·.1 == winner)).map (·.2) =
        Option.guard (fun path => path.leaf == some winner) path := by
    by_cases ends : path.leaf = some winner
    · simp [placement?_of_leaf won ends, ends, Option.guard]
    · have elsewhere : (placement? platform paths path).filter (·.1 == winner) = none := by
        rw [Option.filter_eq_none_iff]
        intro placement made same
        obtain ⟨leaf, leafEnds, leafWon, rfl | ⟨offPath, _⟩⟩ := placement?_some made
        · exact ends (beq_iff_eq.1 same ▸ leafEnds)
        · rw [beq_iff_eq.1 same] at leafWon offPath
          rw [← key_of_selected? leafWon] at offPath
          exact offPath onPath
      simp [elsewhere, ends, Option.guard]
  rw [Placement.pathsOf, placements, List.filter_filterMap, List.map_filterMap, funext selected,
    List.filterMap_eq_filter]

private theorem eraseDups_eq_singleton {α : Type} [BEq α] [LawfulBEq α] {items : List α} {item : α}
    (member : item ∈ items) (same : ∀ other ∈ items, other = item) : items.eraseDups = [item] := by
  cases items with
  | nil => cases member
  | cons first rest =>
    have others : rest.filter (fun other => !other == first) = [] := by
      rw [List.filter_eq_nil_iff]
      intro other later
      simp [same other (List.mem_cons_of_mem _ later), same first List.mem_cons_self]
    rw [List.eraseDups_cons, others, same first List.mem_cons_self]
    rfl

/-- An artifact that no path leads to is placed for the first path to its key. -/
theorem pathsOf_of_unobserved {first : DependencyPath}
    (won : selected? platform paths winner.key = some winner)
    (offPath : winner ∉ leaves paths winner.key)
    (found : Nearest.first? paths winner.key = some first) :
    Placement.pathsOf (placements platform paths) winner = [substitute first winner] := by
  have placed : (winner, substitute first winner) ∈ placements platform paths :=
    List.mem_filterMap.2
      ⟨first, (Nearest.first?_some found).1, placement?_of_unobserved won offPath found⟩
  refine eraseDups_eq_singleton ?_ ?_
  · simpa using placed
  · intro route member
    obtain ⟨placement, kept, rfl⟩ := List.mem_map.1 member
    obtain ⟨placed, same⟩ := List.mem_filter.1 kept
    obtain ⟨path, pathMember, made⟩ := List.mem_filterMap.1 placed
    obtain ⟨leaf, ends, leafWon, rfl | ⟨_, leafFound, rerouted⟩⟩ := placement?_some made
    · rw [← beq_iff_eq.1 same] at offPath
      exact absurd (mem_leaves.2 ⟨⟨path, pathMember, ends⟩, rfl⟩) offPath
    · rw [beq_iff_eq.1 same] at leafWon rerouted
      rw [← key_of_selected? leafWon, found] at leafFound
      rw [rerouted, Option.some.inj leafFound]

theorem paths_of_entry {entry : ClasspathEntry}
    (won : selected? platform graph.paths winner.key = some winner)
    (member : entry ∈ (highest platform graph).entries) (keyed : entry.key? = some winner.key) :
    (highest platform graph).classpath.paths entry =
      Placement.pathsOf (placements platform graph.paths) winner := by
  rw [highest_eq_assemble] at member ⊢
  rw [Placement.entries_assemble] at member
  obtain ⟨artifact, placed, located⟩ := List.mem_filterMap.1 member
  have same := (Placement.key?_of_entryOf? located).symm.trans keyed
  have artifactWon := mem_artifacts.1 placed
  rw [Option.some.inj same, won] at artifactWon
  cases artifactWon
  exact Placement.paths_assemble placed located

theorem entries_of_key (won : selected? platform graph.paths key = some winner) :
    (highest platform graph).entries.filter (·.key? == some key) =
      (Placement.entryOf? graph winner).toList := by
  have keyed := key_of_selected? won
  subst keyed
  rw [highest_eq_assemble]
  exact Placement.entries_of_key graph (distinct_keys platform graph.paths) (mem_artifacts.2 won)

private theorem exists_path_of_entry {entry : ClasspathEntry}
    (member : entry ∈ (highest platform graph).entries) :
    ∃ path ∈ graph.paths, ∃ key, path.leafKey? = some key ∧ entry.key? = some key := by
  rw [highest_eq_assemble, Placement.entries_assemble] at member
  obtain ⟨artifact, placed, located⟩ := List.mem_filterMap.1 member
  obtain ⟨first, found⟩ := exists_first (mem_artifacts.1 placed)
  have ends := List.find?_some found
  exact ⟨first, List.mem_of_find?_eq_some found, artifact.key, beq_iff_eq.1 ends,
    Placement.key?_of_entryOf? located⟩

private theorem substitute_concat {before : List Dependency} {last : Dependency}
    (ends : path.dependencies = before ++ [last]) :
    substitute path winner = ⟨path.root, before ++ [{ last with coordinate := winner }]⟩ := by
  simp [substitute, DependencyPath.parent, DependencyPath.append, ends]

end Mediation.Highest

open Mediation in
/-- How a class path treats a key that goes to an artifact. -/
structure Serves (platform : Platform) (graph : DependencyGraph) (resolved : ResolvedClasspath)
    (key : Key) (winner : Coordinate) : Prop where
  keyed : winner.key = key
  enforced : ∀ version, platform.lookup key = some version → winner.version = version
  observed : platform.lookup key = none → winner ∈ Highest.leaves graph.paths key
  /-- The key has the entry of the artifact, if that has a file, and no other one. -/
  entries : resolved.entries.filter (·.key? == some key) =
    ((graph.file? winner).map (⟨·, some winner⟩)).toList
  reported : graph.file? winner = none →
    ∃ problem ∈ resolved.artifactProblems, problem.coordinate = winner
  /-- If paths to the key end in that version, the entry has the distinct paths to the artifact. -/
  recorded : (∃ leaf ∈ Highest.leaves graph.paths key, leaf.version = winner.version) →
    ∀ entry ∈ resolved.entries, entry.key? = some key →
      resolved.classpath.paths entry = (graph.paths.filter (·.leaf == some winner)).eraseDups
  /-- Otherwise it has the first path to the key, which then ends in the artifact. -/
  rerouted : (∀ leaf ∈ Highest.leaves graph.paths key, leaf.version ≠ winner.version) →
    ∀ entry ∈ resolved.entries, entry.key? = some key →
      ∀ first before last, Nearest.first? graph.paths key = some first →
        first.dependencies = before ++ [last] →
          resolved.classpath.paths entry =
            [⟨first.root, before ++ [{ last with coordinate := winner }]⟩]

/-- The class path with one artifact for each key at the end of a path, and nothing else. -/
structure WinnersPlaced (platform : Platform) (graph : DependencyGraph)
    (resolved : ResolvedClasspath) : Prop where
  served : ∀ path ∈ graph.paths, ∀ key, path.leafKey? = some key →
    ∃ winner, (Mediation.winners platform (Mediation.observed graph)).lookup key = some winner ∧
      Serves platform graph resolved key winner
  exhaustive : ∀ entry ∈ resolved.entries,
    ∃ path ∈ graph.paths, ∃ key, path.leafKey? = some key ∧ entry.key? = some key

namespace Mediation.Highest

variable {platform : Platform} {graph : DependencyGraph} {key : Key} {winner : Coordinate}

theorem serves (won : selected? platform graph.paths key = some winner) :
    Serves platform graph (highest platform graph) key winner := by
  have chosen := isSelected won
  have keyed := key_of_selected? won
  subst keyed
  refine ⟨rfl, chosen.enforced, chosen.observed, entries_of_key won, ?_, ?_, ?_⟩
  · intro unlocated
    rw [highest_eq_assemble]
    exact Placement.exists_problem unlocated (mem_artifacts.2 won)
  · rintro ⟨leaf, member, same⟩ entry entryMember entryKeyed
    have onPath := chosen.replaces.resolve_right fun others => others leaf member same
    rw [paths_of_entry won entryMember entryKeyed, pathsOf_of_observed won onPath]
  · intro others entry entryMember entryKeyed first before last found ends
    have offPath : winner ∉ leaves graph.paths winner.key := fun onPath => others winner onPath rfl
    rw [paths_of_entry won entryMember entryKeyed, pathsOf_of_unobserved won offPath found,
      substitute_concat ends]

end Mediation.Highest

namespace MediationStrategy

open Mediation

/-- Each key goes to one artifact, which is on the class path exactly if it has a file. -/
theorem gradle_winnersPlaced (platform : Platform) (graph : DependencyGraph) :
    WinnersPlaced platform graph (gradle.mediate platform graph) where
  served path member key keyed := by
    obtain ⟨leaf, ends, rfl⟩ := Option.map_eq_some_iff.1 keyed
    obtain ⟨winner, won⟩ := Highest.exists_selected platform member ends
    exact ⟨winner, (Highest.lookup_selected platform graph leaf.key).trans won, Highest.serves won⟩
  exhaustive _ member := Highest.exists_path_of_entry member

/-- The Gradle way selects a version that no observed one exceeds, if the observed ones are
compatible with each other. -/
theorem gradle_selects_highest {platform : Platform} {graph : DependencyGraph} {key : Key}
    (unpinned : platform.lookup key = none)
    (compatibles : ∀ first ∈ Highest.leaves graph.paths key,
      ∀ second ∈ Highest.leaves graph.paths key,
        Version.Compatible first.version second.version)
    {path : DependencyPath} (member : path ∈ graph.paths) (keyed : path.leafKey? = some key) :
    ∃ winner, (winners platform (observed graph)).lookup key = some winner ∧
      (gradle.mediate platform graph).entries.filter (·.key? == some key) =
        ((graph.file? winner).map (⟨·, some winner⟩)).toList ∧
      ∀ leaf ∈ Highest.leaves graph.paths key,
        Version.order leaf.version winner.version ≠ .gt := by
  obtain ⟨leaf, ends, rfl⟩ := Option.map_eq_some_iff.1 keyed
  obtain ⟨winner, won⟩ := Highest.exists_selected platform member ends
  exact ⟨winner, (Highest.lookup_selected platform graph leaf.key).trans won,
    Highest.entries_of_key won, Highest.unexceeded_of_selected unpinned compatibles won⟩

namespace HighestSample

def library (version : String) : Coordinate := .plain "g" "a" version

/-- A path to each version of a library, all of which have files. -/
def sampleGraph (versions : List String) : DependencyGraph :=
  ⟨versions.map fun version => .ofRoot (library version),
    versions.map fun version => (library version, ⟨version ++ ".jar"⟩), []⟩

def qualified : DependencyGraph := sampleGraph ["1-alpha", "1-jre", "1"]

theorem gradle_selects_highest_qualifier :
    (∀ first ∈ Highest.leaves qualified.paths ⟨"g", "a"⟩,
        ∀ second ∈ Highest.leaves qualified.paths ⟨"g", "a"⟩,
          Version.Compatible first.version second.version) ∧
      ∃ winner, (winners [] (observed qualified)).lookup ⟨"g", "a"⟩ = some winner ∧
        winner = library "1-jre" ∧
        ∀ leaf ∈ Highest.leaves qualified.paths ⟨"g", "a"⟩,
          Version.order leaf.version winner.version ≠ .gt := by
  have unpinned : ([] : Platform).lookup ⟨"g", "a"⟩ = none := rfl
  have compatibles : ∀ first ∈ Highest.leaves qualified.paths ⟨"g", "a"⟩,
      ∀ second ∈ Highest.leaves qualified.paths ⟨"g", "a"⟩,
        Version.Compatible first.version second.version := by
    decide +kernel
  have member : .ofRoot (library "1") ∈ qualified.paths := by decide
  have keyed : (DependencyPath.ofRoot (library "1")).leafKey? = some ⟨"g", "a"⟩ := rfl
  obtain ⟨winner, won, _, unexceeded⟩ :=
    gradle_selects_highest unpinned compatibles member keyed
  have evaluated : (winners [] (observed qualified)).lookup ⟨"g", "a"⟩ =
      some (library "1-jre") := by
    decide +kernel
  exact ⟨compatibles, winner, won, Option.some.inj (won.symm.trans evaluated), unexceeded⟩

/-- The second version is exceeded by none, but it equals the first one, which the third one
exceeds. -/
theorem gradle_overlooks_highest :
    ((gradle.mediate [] (sampleGraph ["1", "1-0.2", "1.jre"])).entries.map (·.coordinate) =
        [some (library "1.jre")]) ∧
      Version.order "1-0.2" "1.jre" = .gt ∧
      Version.order "1" "1-0.2" ≠ .gt ∧ Version.order "1.jre" "1-0.2" ≠ .gt := by
  decide +kernel

end HighestSample

end MediationStrategy

end Linkage
