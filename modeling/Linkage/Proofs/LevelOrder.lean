import Linkage.Proofs.NearestMediation
import Linkage.Proofs.WalkSteps
import Linkage.Resolution.Builder

/-!
Walks go level by level, so that the first path to a key is a shortest one.

The recorded paths followed by the queue are in the order of their lengths, and the queue holds at
most two lengths. The paths that a step adds to the end of the queue are one longer than the path
that it takes from the front.
-/

set_option autoImplicit false

namespace Linkage

namespace Walk

variable {repositories : LocalRepositories} {fs : FileSystem} {walk next : Walk}
  {path : DependencyPath} {rest : List DependencyPath} {memory later : PomMemory}

/-- The order in which paths are recorded and wait to be. -/
structure Levelled (recorded queue : List DependencyPath) : Prop where
  ordered : (recorded ++ queue).Pairwise (·.length ≤ ·.length)
  adjacent : ∀ earlier ∈ queue, ∀ later ∈ queue, later.length ≤ earlier.length + 1

variable {recorded children : List DependencyPath}

private theorem levelled_ofRoots (roots : List Coordinate) : Levelled [] (roots.map .ofRoot) where
  ordered := by
    rw [List.nil_append, List.pairwise_map]
    exact List.pairwise_of_forall fun _ _ => Nat.le_refl _
  adjacent earlier earlierMember later laterMember := by
    obtain ⟨_, _, rfl⟩ := List.mem_map.1 earlierMember
    obtain ⟨_, _, rfl⟩ := List.mem_map.1 laterMember
    exact Nat.le_succ _

theorem Levelled.skip (levelled : Levelled recorded (path :: rest)) : Levelled recorded rest where
  ordered := levelled.ordered.sublist ((List.sublist_cons_self path rest).append_left recorded)
  adjacent earlier earlierMember later laterMember :=
    levelled.adjacent earlier (List.mem_cons_of_mem _ earlierMember) later
      (List.mem_cons_of_mem _ laterMember)

theorem Levelled.take (levelled : Levelled recorded (path :: rest)) :
    Levelled (recorded ++ [path]) rest where
  ordered := by
    rw [List.append_assoc]
    exact levelled.ordered
  adjacent := levelled.skip.adjacent

theorem Levelled.le_length (levelled : Levelled recorded (path :: rest))
    {waiting : DependencyPath} (member : waiting ∈ rest) : path.length ≤ waiting.length :=
  (List.pairwise_cons.1 (List.pairwise_append.1 levelled.ordered).2.1).1 waiting member

theorem Levelled.length_le (levelled : Levelled recorded (path :: rest)) {known : DependencyPath}
    (member : known ∈ recorded ++ path :: rest) : known.length ≤ path.length + 1 := by
  rcases List.mem_append.1 member with before | waiting
  · have ordered := (List.pairwise_append.1 levelled.ordered).2.2
    exact Nat.le_succ_of_le (ordered known before path List.mem_cons_self)
  · exact levelled.adjacent path List.mem_cons_self known waiting

/-- The children of the first path go behind all that wait, none of which is longer. -/
theorem Levelled.spread (levelled : Levelled recorded (path :: rest))
    (longer : ∀ child ∈ children, child.length = path.length + 1) :
    Levelled (recorded ++ [path]) (rest ++ children) where
  ordered := by
    rw [← List.append_assoc, List.pairwise_append]
    refine ⟨levelled.take.ordered, ?_, ?_⟩
    · refine List.pairwise_of_forall_mem_list fun first firstMember second secondMember => ?_
      exact Nat.le_of_eq ((longer first firstMember).trans (longer second secondMember).symm)
    · intro known knownMember child childMember
      rw [longer child childMember]
      rw [List.append_assoc] at knownMember
      exact levelled.length_le knownMember
  adjacent earlier earlierMember later laterMember := by
    have lower : path.length ≤ earlier.length := by
      rcases List.mem_append.1 earlierMember with waiting | child
      · exact levelled.le_length waiting
      · exact longer earlier child ▸ Nat.le_succ _
    have upper : later.length ≤ path.length + 1 := by
      rcases List.mem_append.1 laterMember with waiting | child
      · exact levelled.adjacent path List.mem_cons_self later (List.mem_cons_of_mem _ waiting)
      · exact Nat.le_of_eq (longer later child)
    exact Nat.le_trans upper (Nat.succ_le_succ lower)

theorem length_append (dependency : Dependency) :
    (path.append dependency).length = path.length + 1 := by
  simp [DependencyPath.length, DependencyPath.append]

theorem Stepped.levelled (stepped : Stepped repositories fs memory walk path rest next)
    (levelled : Levelled walk.graph.paths (path :: rest)) :
    Levelled next.graph.paths next.queue := by
  cases stepped with
  | endless => exact levelled.skip
  | again => exact levelled.take
  | unlocated => exact levelled.take
  | located leaf file dependencies =>
    refine levelled.spread fun child member => ?_
    obtain ⟨dependency, _, rfl⟩ := List.mem_map.1 member
    exact length_append dependency

theorem Returns.levelled {roots : List Coordinate} {graph : DependencyGraph}
    (returns : Returns repositories fs (.ofRoots roots) memory (.ok graph) later) :
    graph.paths.Pairwise (·.length ≤ ·.length) := by
  obtain ⟨final, levelled, done, rfl⟩ :=
    returns.keeps (fun walk => Levelled walk.graph.paths walk.queue) (levelled_ofRoots roots)
      fun walk memory path rest next queued stepped levelled =>
        stepped.levelled (queued ▸ levelled)
  rw [done] at levelled
  simpa using levelled.ordered

end Walk

namespace Mediation.Nearest

variable {paths : List DependencyPath} {path first : DependencyPath} {key : Key}

private theorem find?_of_implies {α : Type} {p q : α → Bool} {items : List α} {item : α}
    (found : items.find? p = some item) (holds : q item = true)
    (implies : ∀ other, q other = true → p other = true) : items.find? q = some item := by
  obtain ⟨_, before, after, rfl, passed⟩ := List.find?_eq_some_iff_append.1 found
  refine List.find?_eq_some_iff_append.2 ⟨holds, before, after, rfl, fun other member => ?_⟩
  have missed := passed other member
  cases met : q other with
  | false => rfl
  | true => rwa [implies other met] at missed

theorem head?_eraseDups {α : Type} [BEq α] (items : List α) :
    items.eraseDups.head? = items.head? := by
  cases items with
  | nil => rfl
  | cons item items => rw [List.eraseDups_cons, List.head?_cons, List.head?_cons]

private theorem head?_paths {winner : Coordinate} (found : first? paths winner.key = some first)
    (ends : first.leaf = some winner) :
    (paths.filter (·.leaf == some winner)).eraseDups.head? = some first := by
  rw [head?_eraseDups, List.head?_filter]
  refine find?_of_implies found (beq_iff_eq.2 ends) fun other otherEnds => ?_
  simp [DependencyPath.leafKey?, beq_iff_eq.1 otherEnds]

private theorem first?_shortest (ordered : paths.Pairwise (·.length ≤ ·.length))
    (found : first? paths key = some first) (member : path ∈ paths)
    (ends : path.leafKey? = some key) : first.length ≤ path.length := by
  obtain ⟨_, before, after, rfl, passed⟩ := List.find?_eq_some_iff_append.1 found
  -- No path before the first one ends in the key, and none after it is shorter.
  rcases List.mem_append.1 member with earlier | later
  · have missed := passed path earlier
    simp [ends] at missed
  · rcases List.mem_cons.1 later with rfl | later
    · exact Nat.le_refl _
    · exact (List.pairwise_cons.1 (List.pairwise_append.1 ordered).2.1).1 path later

private theorem first?_earliest (found : first? paths key = some first) :
    paths.find? (fun path => path.leafKey? == some key && path.length == first.length) =
      some first := by
  have ends := List.find?_some found
  refine find?_of_implies found (by simp [beq_iff_eq.1 ends]) fun other both => ?_
  exact (Bool.and_eq_true_iff.1 both).1

end Mediation.Nearest

namespace ClasspathBuilder

open Mediation

variable {builder : ClasspathBuilder} {fs : FileSystem} {roots : List Coordinate}
  {memory later : PomMemory} {graph : DependencyGraph}

theorem resolve_eq {result : Except CheckerError DependencyGraph}
    (returns : Walk.Returns builder.repositories fs (.ofRoots roots) memory result later) :
    builder.resolve fs roots memory = (result.map fun graph =>
      { builder.strategy.mediate builder.platform graph with
        entryPoints := roots.filterMap
          (builder.strategy.mediate builder.platform graph).classpath.entryFor? }, later) := by
  simp only [resolve, returns.run_eq]

theorem resolve_maven (maven : builder.strategy = .maven)
    (returns : Walk.Returns builder.repositories fs (.ofRoots roots) memory (.ok graph) later) :
    (builder.resolve fs roots memory).1 = .ok { nearest graph with
      entryPoints := roots.filterMap (nearest graph).classpath.entryFor? } := by
  rw [resolve_eq returns, maven]
  rfl

/-- A walk that returns finds paths in the order of their lengths, and the artifact that the Maven
way selects for a key was first reached on the earliest of the shortest paths to that key. -/
theorem resolve_selects_nearest (maven : builder.strategy = .maven)
    (returns : Walk.Returns builder.repositories fs (.ofRoots roots) memory (.ok graph) later) :
    graph.paths.Pairwise (·.length ≤ ·.length) ∧
      ∃ resolved, (builder.resolve fs roots memory).1 = .ok resolved ∧
        ∀ entry ∈ resolved.entries, ∃ winner first,
          entry.coordinate = some winner ∧
          (resolved.classpath.paths entry).head? = some first ∧
          first.leaf = some winner ∧
          (∀ path ∈ graph.paths, path.leafKey? = some winner.key → first.length ≤ path.length) ∧
          graph.paths.find? (fun path =>
            path.leafKey? == some winner.key && path.length == first.length) = some first := by
  have ordered := returns.levelled
  refine ⟨ordered, _, resolve_maven maven returns, ?_⟩
  intro entry member
  obtain ⟨winner, named, won, recorded⟩ := Nearest.paths_of_entry member
  obtain ⟨_, first, found, ends⟩ := Nearest.winner?_some won
  refine ⟨winner, first, named, ?_, ends, ?_, Nearest.first?_earliest found⟩
  · exact (congrArg List.head? recorded).trans (Nearest.head?_paths found ends)
  · intro path pathMember pathEnds
    exact Nearest.first?_shortest ordered found pathMember pathEnds

namespace NearestSample

open PrecedenceSample (dependencyOn blank sampleRepositories)

def far : Coordinate := .plain "g" "far" "1"

def near : Coordinate := .plain "g" "lib" "1"

def further : Coordinate := .plain "g" "lib" "2"

def farPom : Pom := { blank with dependencies := [dependencyOn "lib" (some "2")] }

/-- The first root depends on a later version of the second one. -/
def files : FileSystem := .ofNodes (
  [["m2"], ["m2", "g"], ["m2", "g", "far"], ["m2", "g", "far", "1"], ["m2", "g", "lib"],
    ["m2", "g", "lib", "1"], ["m2", "g", "lib", "2"]].map
      (fun names => (⟨false, names⟩, .directory)) ++
  [(⟨false, ["m2", "g", "far", "1", "far-1.jar"]⟩, .archive []),
    (⟨false, ["m2", "g", "far", "1", "far-1.pom"]⟩, .file (Utf8.encode farPom.written)),
    (⟨false, ["m2", "g", "lib", "1", "lib-1.jar"]⟩, .archive []),
    (⟨false, ["m2", "g", "lib", "2", "lib-2.jar"]⟩, .archive [])])

def sampleBuilder : ClasspathBuilder := ⟨sampleRepositories, .maven, []⟩

/-- What the files say of the dependencies. -/
def described : PomMemory := [
  (far, some ⟨[], [], [dependencyOn "lib" (some "2")]⟩), (near, none), (further, none)]

private theorem load_far : Pom.load files ⟨"m2/g/far/1/far-1.pom"⟩ = .ok farPom :=
  Pom.load_written rfl (by decide +kernel)

theorem described_agrees : described.Agrees sampleRepositories files [] := by
  apply PomMemory.agrees_nil_of_rows
  simp only [described, List.forall_mem_cons]
  refine ⟨?_, ?_, ?_, fun _ member => absurd member List.not_mem_nil⟩
  · exact (PomMemory.directDependencies_of_load (by decide +kernel) load_far rfl rfl).trans
      (by decide +kernel)
  · exact PomMemory.directDependencies_of_absent (by decide +kernel)
  · exact PomMemory.directDependencies_of_absent (by decide +kernel)

/-- What is read from the files is what is remembered, so a walk may be followed by memory. -/
theorem returns_of_described {roots : List Coordinate} {steps : Nat} {graph : DependencyGraph}
    (finished :
      Walk.graphAfter sampleRepositories files steps (.ofRoots roots) described = some graph) :
    ∃ later, Walk.Returns sampleRepositories files (.ofRoots roots) [] (.ok graph) later := by
  obtain ⟨_, returns⟩ := Walk.returns_of_graphAfter finished
  exact returns.of_agrees described_agrees

/-- The version that is nearer stays, although the other one is later. -/
theorem resolve_selects_nearer_version :
    ∃ graph later resolved,
      Walk.Returns sampleBuilder.repositories files (.ofRoots [far, near]) [] (.ok graph) later ∧
      graph.paths.map (·.coordinates) = [[far], [near], [far, further]] ∧
      (sampleBuilder.resolve files [far, near] []).1 = .ok resolved ∧
      resolved.entries.map (·.coordinate) = [some far, some near] ∧
      ∀ entry ∈ resolved.entries, ∃ winner first,
        entry.coordinate = some winner ∧ (resolved.classpath.paths entry).head? = some first ∧
          ∀ path ∈ graph.paths, path.leafKey? = some winner.key → first.length ≤ path.length := by
  have evaluated : (Walk.graphAfter sampleRepositories files 3 (.ofRoots [far, near]) described).map
      (fun graph => (graph.paths.map (·.coordinates), (nearest graph).entries.map (·.coordinate))) =
        some ([[far], [near], [far, further]], [some far, some near]) := by
    decide +kernel
  obtain ⟨graph, finished, results⟩ := Option.map_eq_some_iff.1 evaluated
  obtain ⟨paths, entries⟩ := Prod.mk.inj results
  obtain ⟨later, returns⟩ : ∃ later, Walk.Returns sampleBuilder.repositories files
      (.ofRoots [far, near]) [] (.ok graph) later := returns_of_described finished
  obtain ⟨_, resolved, built, nearest⟩ := resolve_selects_nearest rfl returns
  refine ⟨graph, later, resolved, returns, paths, built, ?_, fun entry member => ?_⟩
  · cases built.symm.trans (resolve_maven rfl returns)
    exact entries
  · obtain ⟨winner, first, named, recorded, _, shortest, _⟩ := nearest entry member
    exact ⟨winner, first, named, recorded, shortest⟩

end NearestSample

end ClasspathBuilder

end Linkage
