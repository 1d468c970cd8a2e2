import Linkage.Proofs.Placement
import Mathlib.Data.List.Induction

/-!
The Maven way of mediation, in terms of the paths of a graph.

A key goes to the artifact at the end of the first path that ends in it. All paths to that artifact
are placed, and no others.
-/

set_option autoImplicit false

namespace Linkage

/-- The key of the artifact at the end. -/
def DependencyPath.leafKey? (path : DependencyPath) : Option Key := path.leaf.map (·.key)

def ClasspathEntry.key? (entry : ClasspathEntry) : Option Key := entry.coordinate.map (·.key)

namespace Placement

variable {graph : DependencyGraph} {placed : List Placement} {artifact : Coordinate}

private theorem filter_eq_singleton {α β : Type} [BEq β] [LawfulBEq β] {f : α → β} {items : List α}
    {item : α} (distinct : (items.map f).Nodup) (member : item ∈ items) :
    items.filter (f · == f item) = [item] := by
  induction items with
  | nil => cases member
  | cons first rest ih =>
    obtain ⟨new, distinct⟩ := List.nodup_cons.1 distinct
    rcases List.mem_cons.1 member with rfl | later
    · have others : rest.filter (f · == f item) = [] := by
        rw [List.filter_eq_nil_iff]
        intro other otherMember same
        exact new (beq_iff_eq.1 same ▸ List.mem_map_of_mem otherMember)
      simp [others]
    · have different : f first ≠ f item := fun same => new (same ▸ List.mem_map_of_mem later)
      simp [different, ih distinct later]

theorem key?_of_entryOf? {entry : ClasspathEntry}
    (located : entryOf? graph artifact = some entry) : entry.key? = some artifact.key := by
  simp [ClasspathEntry.key?, coordinate_of_entryOf? located]

/-- If no two placed artifacts share a key, a key has at most the entry of its artifact. -/
theorem entries_of_key (graph : DependencyGraph)
    (distinct : ((artifacts placed).map (·.key)).Nodup) (member : artifact ∈ artifacts placed) :
    (assemble graph placed).entries.filter (·.key? == some artifact.key) =
      (entryOf? graph artifact).toList := by
  have alone := filter_eq_singleton distinct member
  have keyed (other : Coordinate) :
      (entryOf? graph other).filter (·.key? == some artifact.key) =
        if other.key == artifact.key then entryOf? graph other else none := by
    cases located : entryOf? graph other with
    | none => simp
    | some entry => simp [Option.filter, key?_of_entryOf? located]
  rw [entries_assemble, List.filter_filterMap, funext keyed, ← List.filterMap_filter, alone,
    filterMap_singleton]

theorem exists_problem (unlocated : graph.file? artifact = none)
    (member : artifact ∈ artifacts placed) :
    ∃ problem ∈ (assemble graph placed).artifactProblems, problem.coordinate = artifact := by
  obtain ⟨problem, reported, same⟩ := List.any_eq_true.1 (reported_of_mem unlocated member)
  exact ⟨problem, reported, beq_iff_eq.1 same⟩

end Placement

namespace Mediation.Nearest

/-- The first of some paths that ends in a key. -/
def first? (paths : List DependencyPath) (key : Key) : Option DependencyPath :=
  paths.find? (·.leafKey? == some key)

def winner? (paths : List DependencyPath) (key : Key) : Option Coordinate :=
  (first? paths key).bind (·.leaf)

/-- What is placed on account of a path. -/
def placement? (paths : List DependencyPath) (path : DependencyPath) : Option Placement :=
  path.leaf.bind fun leaf => if winner? paths leaf.key = some leaf then some (leaf, path) else none

def placements (paths : List DependencyPath) : List Placement :=
  paths.filterMap (placement? paths)

variable {graph : DependencyGraph} {paths : List DependencyPath} {path : DependencyPath}
  {key : Key} {leaf winner : Coordinate}

theorem first?_some (found : first? paths key = some path) :
    path ∈ paths ∧ ∃ leaf, path.leaf = some leaf ∧ leaf.key = key := by
  have ends := List.find?_some found
  exact ⟨List.mem_of_find?_eq_some found, Option.map_eq_some_iff.1 (beq_iff_eq.1 ends)⟩

theorem winner?_some (won : winner? paths key = some winner) :
    winner.key = key ∧ ∃ path, first? paths key = some path ∧ path.leaf = some winner := by
  obtain ⟨path, found, ends⟩ := Option.bind_eq_some_iff.1 won
  obtain ⟨_, leaf, same, keyed⟩ := first?_some found
  cases same.symm.trans ends
  exact ⟨keyed, path, found, ends⟩

theorem winner?_eq_none_iff :
    winner? paths key = none ↔ ∀ path ∈ paths, path.leafKey? ≠ some key := by
  constructor
  · intro lost path member ends
    cases found : first? paths key with
    | none => exact List.find?_eq_none.1 found path member (beq_iff_eq.2 ends)
    | some first =>
      obtain ⟨_, leaf, ends, _⟩ := first?_some found
      simp [winner?, found, ends] at lost
  · intro avoided
    have nothing : first? paths key = none :=
      List.find?_eq_none.2 fun path member ends => avoided path member (beq_iff_eq.1 ends)
    simp [winner?, nothing]

theorem winner?_append (won : winner? paths key = some winner) (more : List DependencyPath) :
    winner? (paths ++ more) key = some winner := by
  obtain ⟨_, path, found, ends⟩ := winner?_some won
  have first : first? (paths ++ more) key = some path := by
    rw [first?, List.find?_append, ← first?, found, Option.some_or]
  rw [winner?, first, Option.bind_some, ends]

private theorem winner?_concat_self (lost : winner? paths leaf.key = none) (ends : path.leaf = some leaf) :
    winner? (paths ++ [path]) leaf.key = some leaf := by
  have before : first? paths leaf.key = none :=
    List.find?_eq_none.2 fun path member ends =>
      winner?_eq_none_iff.1 lost path member (beq_iff_eq.1 ends)
  have first : first? (paths ++ [path]) leaf.key = some path := by
    rw [first?, List.find?_append, ← first?, before]
    simp [DependencyPath.leafKey?, ends]
  rw [winner?, first, Option.bind_some, ends]

theorem winner?_concat_of_ne (different : path.leafKey? ≠ some key) :
    winner? (paths ++ [path]) key = winner? paths key := by
  simp [winner?, first?, List.find?_append, different]

private theorem winner?_concat_of_some (won : winner? paths leaf.key = some winner)
    (ends : path.leaf = some leaf) (key : Key) :
    winner? (paths ++ [path]) key = winner? paths key := by
  by_cases same : key = leaf.key
  · rw [same, winner?_append won, won]
  · exact winner?_concat_of_ne (by simp [DependencyPath.leafKey?, ends, Ne.symm same])

theorem exists_winner (member : path ∈ paths) (ends : path.leaf = some leaf) :
    ∃ winner, winner? paths leaf.key = some winner := by
  refine Option.ne_none_iff_exists'.1 fun lost => ?_
  exact winner?_eq_none_iff.1 lost path member (by simp [DependencyPath.leafKey?, ends])

/-- Which artifact is selected does not depend on the paths after the first one to its key. -/
theorem placements_concat :
    placements (paths ++ [path]) =
      placements paths ++ (placement? (paths ++ [path]) path).toList := by
  have settled : ∀ known ∈ paths, placement? (paths ++ [path]) known = placement? paths known := by
    intro known member
    cases ends : known.leaf with
    | none => simp [placement?, ends]
    | some leaf =>
      obtain ⟨winner, won⟩ := exists_winner member ends
      simp [placement?, ends, won, winner?_append won]
  rw [placements, placements, List.filterMap_append, List.filterMap_congr settled,
    Placement.filterMap_singleton]

private theorem placements_concat_of_endless (ends : path.leaf = none) :
    placements (paths ++ [path]) = placements paths := by
  simp [placements_concat, placement?, ends]

private theorem placements_concat_of_new (lost : winner? paths leaf.key = none)
    (ends : path.leaf = some leaf) :
    placements (paths ++ [path]) = placements paths ++ [(leaf, path)] := by
  simp [placements_concat, placement?, ends, winner?_concat_self lost ends]

private theorem placements_concat_of_winner (won : winner? paths leaf.key = some leaf)
    (ends : path.leaf = some leaf) :
    placements (paths ++ [path]) = placements paths ++ [(leaf, path)] := by
  simp [placements_concat, placement?, ends, winner?_append won]

private theorem placements_concat_of_loser (won : winner? paths leaf.key = some winner)
    (different : winner ≠ leaf) (ends : path.leaf = some leaf) :
    placements (paths ++ [path]) = placements paths := by
  simp [placements_concat, placement?, ends, winner?_append won, different]

/-- What the state stands for after some paths. -/
structure Follows (graph : DependencyGraph) (paths : List DependencyPath) (state : Nearest) :
    Prop where
  selected : ∀ key, state.selected.lookup key = winner? paths key
  resolved : state.resolved = Placement.assemble graph (placements paths)

theorem Follows.next {state : Nearest} (follows : Follows graph paths state)
    (path : DependencyPath) : Follows graph (paths ++ [path]) (state.next graph path) := by
  cases ends : path.leaf with
  | none =>
    have different (key : Key) : path.leafKey? ≠ some key := by
      simp [DependencyPath.leafKey?, ends]
    simp only [Nearest.next, ends]
    refine ⟨fun key => ?_, ?_⟩
    · rw [follows.selected, winner?_concat_of_ne (different key)]
    · rw [follows.resolved, placements_concat_of_endless ends]
  | some leaf =>
    cases won : winner? paths leaf.key with
    | none =>
      simp only [Nearest.next, ends, follows.selected, won]
      refine ⟨fun key => ?_, ?_⟩
      · by_cases same : key = leaf.key
        · simp [same, winner?_concat_self won ends]
        · rw [winner?_concat_of_ne (by simp [DependencyPath.leafKey?, ends, Ne.symm same])]
          simp [List.lookup_cons, beq_eq_false_iff_ne.2 same, follows.selected]
      · rw [follows.resolved, Placement.place_assemble, placements_concat_of_new won ends]
    | some winner =>
      have settled (key : Key) : state.selected.lookup key = winner? (paths ++ [path]) key := by
        rw [follows.selected, winner?_concat_of_some won ends]
      simp only [Nearest.next, ends, follows.selected, won]
      split
      next same =>
        subst same
        refine ⟨settled, ?_⟩
        rw [follows.resolved, Placement.place_assemble, placements_concat_of_winner won ends]
      next different =>
        refine ⟨settled, ?_⟩
        rw [follows.resolved, placements_concat_of_loser won different ends]

theorem Follows.foldl {state : Nearest} (follows : Follows graph paths state)
    (rest : List DependencyPath) :
    Follows graph (paths ++ rest) (rest.foldl (Nearest.next graph) state) := by
  induction rest generalizing paths state with
  | nil => rwa [List.append_nil]
  | cons path rest ih =>
    have rest_follows := ih (follows.next path)
    rwa [List.append_assoc, List.singleton_append] at rest_follows

theorem follows_start (graph : DependencyGraph) : Follows graph [] ⟨[], start graph⟩ where
  selected _ := rfl
  resolved := by simp [start, placements, Placement.assemble, Placement.artifacts, Classpath.empty]

/-- All paths to the selected artifacts are placed, and nothing else. -/
theorem nearest_eq_assemble (graph : DependencyGraph) :
    nearest graph = Placement.assemble graph (placements graph.paths) :=
  ((follows_start graph).foldl graph.paths).resolved

private theorem placement?_eq_some_iff {placement : Placement} :
    placement? paths path = some placement ↔
      path.leaf = some placement.1 ∧ winner? paths placement.1.key = some placement.1 ∧
        path = placement.2 := by
  obtain ⟨artifact, other⟩ := placement
  simp only [placement?, Option.bind_eq_some_iff, Option.ite_none_right_eq_some, Option.some.injEq,
    Prod.mk.injEq]
  constructor
  · rintro ⟨leaf, ends, won, rfl, rfl⟩
    exact ⟨ends, won, rfl⟩
  · rintro ⟨ends, won, rfl⟩
    exact ⟨artifact, ends, won, rfl, rfl⟩

theorem mem_artifacts :
    winner ∈ Placement.artifacts (placements paths) ↔ winner? paths winner.key = some winner := by
  simp only [Placement.mem_artifacts, placements, List.mem_filterMap, placement?_eq_some_iff]
  constructor
  · rintro ⟨_, _, _, _, won, _⟩
    exact won
  · intro won
    obtain ⟨_, path, found, ends⟩ := winner?_some won
    exact ⟨path, path, (first?_some found).1, ends, won, rfl⟩

/-- The keys of the selected artifacts are those at the ends of paths, in that order. -/
theorem keys_artifacts (paths : List DependencyPath) :
    (Placement.artifacts (placements paths)).map (·.key) =
      (paths.filterMap (·.leafKey?)).eraseDups := by
  induction paths using List.reverseRecOn with
  | nil => rfl
  | append_singleton paths path ih =>
    cases ends : path.leaf with
    | none =>
      rw [placements_concat_of_endless ends, ih]
      simp [DependencyPath.leafKey?, ends]
    | some leaf =>
      have listed : (paths ++ [path]).filterMap (·.leafKey?) =
          paths.filterMap (·.leafKey?) ++ [leaf.key] := by
        simp [DependencyPath.leafKey?, ends]
      have known_iff : (paths.filterMap (·.leafKey?)).contains leaf.key = true ↔
          winner? paths leaf.key ≠ none := by
        simp [winner?_eq_none_iff, List.mem_filterMap]
      rw [listed, Placement.eraseDups_concat, ← ih]
      -- A new key comes with a new artifact; any other path changes neither side.
      cases won : winner? paths leaf.key with
      | none =>
        have new : leaf ∉ Placement.artifacts (placements paths) := by
          rw [mem_artifacts, won]
          exact nofun
        rw [if_neg (fun known => known_iff.1 known won), placements_concat_of_new won ends,
          Placement.artifacts_concat_of_not_mem new, List.map_append]
        rfl
      | some winner =>
        rw [if_pos (known_iff.2 (by simp [won]))]
        by_cases same : winner = leaf
        · subst same
          rw [placements_concat_of_winner won ends,
            Placement.artifacts_concat_of_mem (mem_artifacts.2 won)]
        · rw [placements_concat_of_loser won same ends]

private theorem pathsOf_placements (won : winner? paths winner.key = some winner) :
    Placement.pathsOf (placements paths) winner =
      (paths.filter (·.leaf == some winner)).eraseDups := by
  have selected (path : DependencyPath) :
      ((placement? paths path).filter (·.1 == winner)).map (·.2) =
        Option.guard (fun path => path.leaf == some winner) path := by
    cases ends : path.leaf with
    | none => simp [placement?, ends, Option.guard]
    | some leaf =>
      by_cases same : leaf = winner
      · subst same
        simp [placement?, ends, won, Option.guard]
      · simp [placement?, ends, Option.guard, same]
  rw [Placement.pathsOf, placements, List.filter_filterMap, List.map_filterMap, funext selected,
    List.filterMap_eq_filter]

private theorem entries_nearest (graph : DependencyGraph) :
    (nearest graph).entries =
      (Placement.artifacts (placements graph.paths)).filterMap (Placement.entryOf? graph) := by
  rw [nearest_eq_assemble, Placement.entries_assemble]

private theorem keys_ordered (graph : DependencyGraph) :
    ((nearest graph).entries.map (·.key?)).Sublist
      ((graph.paths.filterMap (·.leafKey?)).eraseDups.map some) := by
  have keys : (nearest graph).entries.map (·.key?) =
      ((Placement.artifacts (placements graph.paths)).filter
        fun artifact => (Placement.entryOf? graph artifact).isSome).map
          fun artifact => some artifact.key := by
    rw [entries_nearest, List.map_filterMap, ← List.filterMap_eq_map, List.filterMap_filter]
    congr
    funext artifact
    cases located : Placement.entryOf? graph artifact with
    | none => rfl
    | some entry => simp [Placement.key?_of_entryOf? located]
  rw [keys, ← keys_artifacts, List.map_map]
  exact List.filter_sublist.map _

theorem entries_of_key (graph : DependencyGraph) {key : Key}
    (won : winner? graph.paths key = some winner) :
    (nearest graph).entries.filter (·.key? == some key) =
      (Placement.entryOf? graph winner).toList := by
  have distinct : ((Placement.artifacts (placements graph.paths)).map (·.key)).Nodup := by
    rw [keys_artifacts]
    exact Placement.nodup_eraseDups _
  obtain ⟨rfl, _⟩ := winner?_some won
  rw [nearest_eq_assemble]
  exact Placement.entries_of_key graph distinct (mem_artifacts.2 won)

theorem paths_of_entry {entry : ClasspathEntry} (member : entry ∈ (nearest graph).entries) :
    ∃ winner, entry.coordinate = some winner ∧ winner? graph.paths winner.key = some winner ∧
      (nearest graph).classpath.paths entry =
        (graph.paths.filter (·.leaf == some winner)).eraseDups := by
  rw [entries_nearest] at member
  obtain ⟨winner, placed, located⟩ := List.mem_filterMap.1 member
  have won := mem_artifacts.1 placed
  refine ⟨winner, Placement.coordinate_of_entryOf? located, won, ?_⟩
  rw [nearest_eq_assemble, Placement.paths_assemble placed located, pathsOf_placements won]

private theorem reported_of_unlocated (won : winner? graph.paths winner.key = some winner)
    (unlocated : graph.file? winner = none) :
    ∃ problem ∈ (nearest graph).artifactProblems, problem.coordinate = winner := by
  rw [nearest_eq_assemble]
  exact Placement.exists_problem unlocated (mem_artifacts.2 won)

end Mediation.Nearest

open Mediation in
/-- The class path that gives each key to the artifact at the end of the first path to it. -/
structure FirstWins (graph : DependencyGraph) (resolved : ResolvedClasspath) : Prop where
  unique : (resolved.entries.map (·.key?)).Nodup
  /-- A key at the end of a path has the entry of the first artifact that a path gives it, if that
  artifact has a file. Otherwise the key has no entry and the artifact is reported. -/
  selected : ∀ path ∈ graph.paths, ∀ key, path.leafKey? = some key →
    ∃ winner, Nearest.winner? graph.paths key = some winner ∧
      resolved.entries.filter (·.key? == some key) =
        ((graph.file? winner).map (⟨·, some winner⟩)).toList ∧
      (graph.file? winner = none →
        ∃ problem ∈ resolved.artifactProblems, problem.coordinate = winner)
  /-- The entries stand in the order in which their keys first end a path. -/
  ordered : (resolved.entries.map (·.key?)).Sublist
    ((graph.paths.filterMap (·.leafKey?)).eraseDups.map some)
  /-- An entry stands for a selected artifact, with the distinct paths that end in it. -/
  recorded : ∀ entry ∈ resolved.entries, ∃ winner, entry.coordinate = some winner ∧
    Nearest.winner? graph.paths winner.key = some winner ∧
      resolved.classpath.paths entry = (graph.paths.filter (·.leaf == some winner)).eraseDups

namespace MediationStrategy

theorem maven_firstWins (platform : Platform) (graph : DependencyGraph) :
    FirstWins graph (maven.mediate platform graph) where
  unique := by
    have distinct := Placement.nodup_eraseDups (graph.paths.filterMap (·.leafKey?))
    have still : ((graph.paths.filterMap (·.leafKey?)).eraseDups.map some).Nodup :=
      List.Pairwise.map some (fun _ _ different same => different (Option.some.inj same)) distinct
    exact still.sublist (Mediation.Nearest.keys_ordered graph)
  selected path member key keyed := by
    obtain ⟨leaf, ends, rfl⟩ := Option.map_eq_some_iff.1 keyed
    obtain ⟨winner, won⟩ := Mediation.Nearest.exists_winner member ends
    refine ⟨winner, won, Mediation.Nearest.entries_of_key graph won, fun unlocated => ?_⟩
    rw [← (Mediation.Nearest.winner?_some won).1] at won
    exact Mediation.Nearest.reported_of_unlocated won unlocated
  ordered := Mediation.Nearest.keys_ordered graph
  recorded _ member := Mediation.Nearest.paths_of_entry member

end MediationStrategy

end Linkage
