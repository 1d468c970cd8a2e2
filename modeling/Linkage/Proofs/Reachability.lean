import Linkage.Graph
import Linkage.Proofs.OrderedSets
import Mathlib.Data.List.Perm.Subperm
import Mathlib.Logic.Relation

/-!
What is reachable in a reference graph.

The names that a search reaches are those that a chain of edges joins to a seed. A search visits
each name once. All names are nodes, so there are visits enough to come to the end of what is
reached.
-/

set_option autoImplicit false

namespace Linkage.ReferenceGraph

/-- Whether a chain of edges leads from a name to another one. -/
def Joined (edges : List (String × String)) : String → String → Prop :=
  Relation.ReflTransGen fun source target => (source, target) ∈ edges

section Nodes

variable {nodes : List (String × List String)} {edges : List (String × String)}

/-- A table of the nodes of some edges. -/
structure Records (nodes : List (String × List String)) (edges : List (String × String)) :
    Prop where
  sorted : Ordered.Sorted (nodes.map (·.1))
  targets : ∀ name target, target ∈ targetsOf nodes name ↔ (name, target) ∈ edges ∧ name ≠ target
  listed : ∀ edge ∈ edges, edge.2 ∈ nodes.map (·.1)

private theorem records_nil : Records [] [] := by
  refine ⟨Ordered.sorted_nil, ?_, ?_⟩
  · intro name target
    simp [targetsOf, Ordered.get?]
  · intro edge member
    cases member

private theorem targetsOf_putNew (sorted : Ordered.Sorted (nodes.map (·.1))) (new name : String) :
    targetsOf (Ordered.putNew new [] nodes) name = targetsOf nodes name := by
  unfold targetsOf Ordered.putNew
  by_cases same : name = new
  · subst same
    rw [Ordered.get?_update_self sorted]
    rfl
  · rw [Ordered.get?_update_of_ne fun equal => same (Std.compare_eq_iff_eq.1 equal)]

theorem keys_putNew (new : String) (nodes : List (String × List String)) :
    (Ordered.putNew new [] nodes).map (·.1) = Ordered.insert new (nodes.map (·.1)) :=
  Ordered.keys_update _ _ _ _

theorem Records.putNew (records : Records nodes edges) (name : String) :
    Records (Ordered.putNew name [] nodes) edges := by
  refine ⟨?_, ?_, ?_⟩
  · rw [keys_putNew]
    exact records.sorted.insert
  · intro source target
    rw [targetsOf_putNew records.sorted]
    exact records.targets source target
  · intro edge member
    rw [keys_putNew, Ordered.mem_insert_iff]
    exact .inr (records.listed edge member)

private theorem mem_targetsOf_addEdge (sorted : Ordered.Sorted (nodes.map (·.1))) (edge : String × String)
    (name target : String) :
    target ∈ targetsOf (addEdge nodes edge) name ↔
      target ∈ targetsOf nodes name ∨ ((name, target) = edge ∧ name ≠ target) := by
  obtain ⟨source, reached⟩ := edge
  have sorted' : Ordered.Sorted ((Ordered.putNew reached [] nodes).map (·.1)) := by
    rw [keys_putNew]
    exact sorted.insert
  have others := targetsOf_putNew sorted reached
  simp only [targetsOf, addEdge] at others ⊢
  by_cases same : name = source
  · subst same
    rw [Ordered.get?_update_self sorted', Option.getD_some, others]
    split
    · next loop =>
      subst loop
      simp +contextual
    · next different =>
      rw [Ordered.mem_insert_iff]
      grind
  · rw [Ordered.get?_update_of_ne fun equal => same (Std.compare_eq_iff_eq.1 equal), others]
    simp [same]

theorem Records.addEdge (records : Records nodes edges) (edge : String × String) :
    Records (ReferenceGraph.addEdge nodes edge) (edges ++ [edge]) := by
  have keys : (ReferenceGraph.addEdge nodes edge).map (·.1) =
      Ordered.insert edge.1 (Ordered.insert edge.2 (nodes.map (·.1))) := by
    rw [← keys_putNew]
    exact Ordered.keys_update _ _ _ _
  refine ⟨?_, ?_, ?_⟩
  · rw [keys]
    exact records.sorted.insert.insert
  · intro name target
    rw [mem_targetsOf_addEdge records.sorted, records.targets, List.mem_append,
      List.mem_singleton, or_and_right]
  · intro other member
    rw [keys, Ordered.mem_insert_iff, Ordered.mem_insert_iff]
    rcases List.mem_append.1 member with old | new
    · exact .inr (.inr (records.listed other old))
    · rw [List.mem_singleton.1 new]
      exact .inr (.inl rfl)

private theorem Records.addEdges (records : Records nodes edges) (new : List (String × String)) :
    Records (new.foldl ReferenceGraph.addEdge nodes) (edges ++ new) := by
  induction new generalizing nodes edges with
  | nil => simpa using records
  | cons edge rest ih => simpa using ih (records.addEdge edge)

private theorem Records.addSeeds (records : Records nodes edges) (seeds : List String) :
    Records (seeds.foldl (fun nodes seed => Ordered.putNew seed [] nodes) nodes) edges ∧
      ∀ name, name ∈ nodes.map (·.1) ∨ name ∈ seeds →
        name ∈ (seeds.foldl (fun nodes seed => Ordered.putNew seed [] nodes) nodes).map (·.1) := by
  induction seeds generalizing nodes with
  | nil => exact ⟨records, by simp⟩
  | cons seed rest ih =>
    obtain ⟨kept, listed⟩ := ih (records.putNew seed)
    refine ⟨kept, ?_⟩
    intro name member
    apply listed
    rw [keys_putNew, Ordered.mem_insert_iff]
    simpa [or_assoc, or_left_comm] using member

end Nodes

section Search

theorem mem_addNew (names new : List String) (name : String) :
    name ∈ addNew names new ↔ name ∈ names ∨ name ∈ new := by
  fun_induction addNew names new with
  | case1 names => simp
  | case2 names head rest ih =>
    rw [ih]
    split
    · next known =>
      have there : head ∈ names := List.contains_iff_mem.1 known
      grind
    · simp [or_assoc]

private theorem nodup_addNew {names : List String} (distinct : names.Nodup) (new : List String) :
    (addNew names new).Nodup := by
  fun_induction addNew names new with
  | case1 names => exact distinct
  | case2 names head rest ih =>
    apply ih
    split
    · exact distinct
    · next unknown =>
      have fresh : head ∉ names := fun there => unknown (List.contains_iff_mem.2 there)
      exact List.nodup_append.2 ⟨distinct, by simp, by grind⟩

private theorem prefix_addNew (names new : List String) : names <+: addNew names new := by
  fun_induction addNew names new with
  | case1 names => exact List.prefix_rfl
  | case2 names head rest ih =>
    refine List.IsPrefix.trans ?_ ih
    split
    · exact List.prefix_rfl
    · exact List.prefix_append _ _

variable {nodes : List (String × List String)} {edges : List (String × String)}
  {seeds reached : List String} {position : Nat}

/-- What a search has reached when the names before a position have been visited. -/
structure Searched (nodes : List (String × List String)) (edges : List (String × String))
    (seeds : List String) (position : Nat) (reached : List String) : Prop where
  distinct : reached.Nodup
  known : reached ⊆ nodes.map (·.1)
  starts : seeds ⊆ reached
  joined : ∀ name ∈ reached, ∃ seed ∈ seeds, Joined edges seed name
  visited : ∀ name ∈ reached.take position, targetsOf nodes name ⊆ reached

theorem Searched.visit (searched : Searched nodes edges seeds position reached)
    (records : Records nodes edges) {name : String} (next : reached[position]? = some name) :
    Searched nodes edges seeds (position + 1) (addNew reached (targetsOf nodes name)) := by
  obtain ⟨bound, at_⟩ := List.getElem?_eq_some_iff.1 next
  have there : name ∈ reached := List.mem_of_getElem? next
  refine ⟨nodup_addNew searched.distinct _, ?_, ?_, ?_, ?_⟩
  · intro other member
    rcases (mem_addNew _ _ other).1 member with old | new
    · exact searched.known old
    · exact records.listed _ ((records.targets name other).1 new).1
  · intro seed member
    exact (mem_addNew _ _ seed).2 (.inl (searched.starts member))
  · intro other member
    rcases (mem_addNew _ _ other).1 member with old | new
    · exact searched.joined other old
    · obtain ⟨seed, isSeed, chain⟩ := searched.joined name there
      exact ⟨seed, isSeed, chain.tail ((records.targets name other).1 new).1⟩
  · intro other member target refers
    obtain ⟨more, same⟩ := prefix_addNew reached (targetsOf nodes name)
    rw [mem_addNew]
    rw [← same, List.take_append_of_le_length bound, List.take_succ_eq_append_getElem bound, at_,
      List.mem_append, List.mem_singleton] at member
    rcases member with before | rfl
    · exact .inl (searched.visited other before refers)
    · exact .inr refers

theorem Searched.length_le (searched : Searched nodes edges seeds position reached) :
    reached.length ≤ nodes.length := by
  have counted := (List.subperm_of_subset searched.distinct searched.known).length_le
  simpa using counted

/-- A search with visits enough visits all that it reaches. -/
theorem Searched.run (searched : Searched nodes edges seeds position reached)
    (records : Records nodes edges) {visits : Nat} (enough : nodes.length ≤ visits + position) :
    ∃ last, Searched nodes edges seeds last (ReferenceGraph.visit nodes visits position reached) ∧
      (ReferenceGraph.visit nodes visits position reached).length ≤ last := by
  -- Each visit moves the position on, and there are no more names to reach than nodes.
  induction visits generalizing position reached with
  | zero =>
    refine ⟨position, searched, ?_⟩
    have := searched.length_le
    simp only [ReferenceGraph.visit]
    omega
  | succ visits ih =>
    unfold ReferenceGraph.visit
    cases next : reached[position]? with
    | none => exact ⟨position, searched, List.getElem?_eq_none_iff.1 next⟩
    | some name => exact ih (searched.visit records next) (by omega)

private theorem mem_of_joined {last : Nat} (searched : Searched nodes edges seeds last reached)
    (records : Records nodes edges) (ended : reached.length ≤ last) {seed name : String}
    (isSeed : seed ∈ seeds) (chain : Joined edges seed name) : name ∈ reached := by
  induction chain with
  | refl => exact searched.starts isSeed
  | @tail source target _ edge ih =>
    -- An edge from a name to itself is not recorded.
    by_cases loop : source = target
    · exact loop ▸ ih
    · have refers := (records.targets source target).2 ⟨edge, loop⟩
      rw [← List.take_of_length_le ended] at ih
      exact searched.visited source ih refers

end Search

/-- A search starts with the seeds, and with all nodes in its table. -/
theorem searched_ofEdges (edges : List (String × String)) (seeds : List String) :
    Records (ofEdges edges seeds).edges edges ∧
      Searched (ofEdges edges seeds).edges edges seeds 0 (addNew [] seeds) := by
  obtain ⟨records, listed⟩ := (records_nil.addEdges edges).addSeeds seeds
  refine ⟨records, nodup_addNew List.nodup_nil seeds, ?_, ?_, ?_, by simp⟩
  · intro seed member
    simp only [mem_addNew, List.not_mem_nil, false_or] at member
    exact listed seed (.inr member)
  · intro seed member
    exact (mem_addNew _ _ seed).2 (.inr member)
  · intro seed member
    simp only [mem_addNew, List.not_mem_nil, false_or] at member
    exact ⟨seed, member, .refl⟩

/-- The reachable names are those that a chain of edges joins to a seed. -/
theorem mem_reachable_iff (edges : List (String × String)) (seeds : List String) (name : String) :
    name ∈ (ofEdges edges seeds).reachable ↔ ∃ seed ∈ seeds, Joined edges seed name := by
  obtain ⟨records, start⟩ := searched_ofEdges edges seeds
  obtain ⟨last, searched, ended⟩ := start.run records (Nat.le_refl _)
  constructor
  · exact searched.joined name
  · rintro ⟨seed, isSeed, chain⟩
    exact mem_of_joined searched records ended isSeed chain

end Linkage.ReferenceGraph
