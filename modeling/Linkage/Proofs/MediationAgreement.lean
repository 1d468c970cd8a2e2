import Linkage.Proofs.HighestMediation

/-!
Where the two ways of mediation agree.

Mediations that select the same artifacts make the same class path, since the Gradle way then has no
artifact to put in the place of another one. They select the same artifacts if every key has a
single artifact at the ends of paths and no version is enforced.
-/

set_option autoImplicit false

namespace Linkage

/-- Whether paths that end in the same key end in the same artifact. -/
def DependencyGraph.ConflictFree (graph : DependencyGraph) : Prop :=
  ∀ first ∈ graph.paths, ∀ second ∈ graph.paths,
    first.leafKey? = second.leafKey? → first.leaf = second.leaf

instance (graph : DependencyGraph) : Decidable graph.ConflictFree :=
  inferInstanceAs (Decidable (∀ first ∈ graph.paths, ∀ second ∈ graph.paths,
    first.leafKey? = second.leafKey? → first.leaf = second.leaf))

namespace Mediation

variable {platform : Platform} {graph : DependencyGraph} {paths : List DependencyPath}
  {path : DependencyPath} {key : Key} {leaf winner : Coordinate}

private theorem Nearest.mem_leaves_of_winner (won : Nearest.winner? paths key = some winner) :
    winner ∈ Highest.leaves paths key := by
  obtain ⟨keyed, first, found, ends⟩ := Nearest.winner?_some won
  exact Highest.mem_leaves.2 ⟨⟨first, (Nearest.first?_some found).1, ends⟩, keyed⟩

/-- A path is placed alike if the same artifact is selected for the key at its end. -/
theorem placement?_of_same_selection (member : path ∈ paths)
    (same : ∀ leaf, path.leaf = some leaf →
      Highest.selected? platform paths leaf.key = Nearest.winner? paths leaf.key) :
    Highest.placement? platform paths path = Nearest.placement? paths path := by
  cases ends : path.leaf with
  | none => simp [Highest.placement?, Nearest.placement?, ends]
  | some leaf =>
    obtain ⟨winner, won⟩ := Nearest.exists_winner member ends
    have selected := (same leaf ends).trans won
    -- The nearest artifact is on a path, so it never takes the place of another one.
    have onPath := Nearest.mem_leaves_of_winner won
    simp [Highest.placement?, Nearest.placement?, ends, selected, won, onPath]

private theorem highest_eq_nearest
    (same : ∀ path ∈ graph.paths, ∀ leaf, path.leaf = some leaf →
      Highest.selected? platform graph.paths leaf.key = Nearest.winner? graph.paths leaf.key) :
    highest platform graph = nearest graph := by
  rw [Highest.highest_eq_assemble, Nearest.nearest_eq_assemble, Highest.placements,
    Nearest.placements]
  apply congrArg (Placement.assemble graph)
  apply List.filterMap_congr
  intro path member
  exact placement?_of_same_selection member (same path member)

/-- Any two artifacts that paths of a graph without conflicts give a key are the same. -/
theorem eq_of_mem_leaves (conflictFree : graph.ConflictFree)
    (left : leaf ∈ Highest.leaves graph.paths key)
    (right : winner ∈ Highest.leaves graph.paths key) : leaf = winner := by
  obtain ⟨⟨first, firstMember, firstEnds⟩, firstKeyed⟩ := Highest.mem_leaves.1 left
  obtain ⟨⟨second, secondMember, secondEnds⟩, secondKeyed⟩ := Highest.mem_leaves.1 right
  have keyed : first.leafKey? = second.leafKey? := by
    rw [Highest.leafKey?_of_leaf firstEnds, Highest.leafKey?_of_leaf secondEnds, firstKeyed,
      secondKeyed]
  have same := conflictFree first firstMember second secondMember keyed
  rw [firstEnds, secondEnds] at same
  exact Option.some.inj same

private theorem selected?_eq_winner? (conflictFree : graph.ConflictFree)
    (unpinned : platform.lookup leaf.key = none) (member : path ∈ graph.paths)
    (ends : path.leaf = some leaf) :
    Highest.selected? platform graph.paths leaf.key = Nearest.winner? graph.paths leaf.key := by
  obtain ⟨selected, isSelected⟩ := Highest.exists_selected platform member ends
  obtain ⟨winner, won⟩ := Nearest.exists_winner member ends
  have observed := (Highest.isSelected isSelected).observed unpinned
  rw [isSelected, won,
    eq_of_mem_leaves conflictFree observed (Nearest.mem_leaves_of_winner won)]

end Mediation

namespace MediationStrategy

/-- Without conflicts and without a platform, both strategies make the same class path of a graph:
the same entries in the same order, with the same paths, and the same artifact problems. -/
theorem mediations_agree (platform : Platform) {graph : DependencyGraph}
    (conflictFree : graph.ConflictFree) :
    maven.mediate platform graph = gradle.mediate [] graph := by
  refine (Mediation.highest_eq_nearest fun path member leaf ends => ?_).symm
  exact Mediation.selected?_eq_winner? conflictFree rfl member ends

namespace AgreementSample

def top : Coordinate := .plain "g" "top" "1"

def left : Coordinate := .plain "g" "left" "1"

def right : Coordinate := .plain "g" "right" "1"

def base : Coordinate := .plain "g" "base" "2"

def pathTo (artifacts : List Coordinate) : DependencyPath := ⟨none, artifacts.map .plain⟩

/-- Two paths lead to the same artifact, and one artifact has no file. -/
def diamond : DependencyGraph where
  paths := [pathTo [top], pathTo [top, left], pathTo [top, right], pathTo [top, left, base],
    pathTo [top, right, base], .empty]
  files := [(top, ⟨"top.jar"⟩), (left, ⟨"left.jar"⟩), (base, ⟨"base.jar"⟩)]
  artifactProblems := []

theorem mediations_agree_on_diamond :
    diamond.ConflictFree ∧
      maven.mediate [] diamond = gradle.mediate [] diamond ∧
      (gradle.mediate [] diamond).classpath.annotated = [
        (⟨⟨"top.jar"⟩, some top⟩, [pathTo [top]]),
        (⟨⟨"left.jar"⟩, some left⟩, [pathTo [top, left]]),
        (⟨⟨"base.jar"⟩, some base⟩, [pathTo [top, left, base], pathTo [top, right, base]])] ∧
      (gradle.mediate [] diamond).artifactProblems = [⟨right, [top, right]⟩] := by
  have conflictFree : diamond.ConflictFree := by decide +kernel
  exact ⟨conflictFree, mediations_agree [] conflictFree, by decide +kernel, by decide +kernel⟩

end AgreementSample

end MediationStrategy

end Linkage
