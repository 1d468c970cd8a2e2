import Linkage.Proofs.Encoding
import Linkage.Proofs.EntryOrder
import Linkage.Proofs.RunComposition

/-!
The problems of reachable classes.

A class is reachable if a chain of references in class files leads to it from a class of an entry
that is used from outside. A problem is reported for an outermost class. So it is reachable if that
class is, or any class nested in it.
-/

set_option autoImplicit false

namespace Linkage

namespace ReferenceGraph

variable {nodes : List (String × List String)} {edges : List (String × String)}
  {seeds reached : List String} {position visits more : Nat}

theorem visit_of_end (ended : reached[position]? = none) :
    visit nodes visits position reached = reached := by
  cases visits with
  | zero => rfl
  | succ visits => rw [visit, ended]

/-- With visits enough for all nodes, more visits make no difference: no name is left to visit. -/
theorem Searched.visit_eq (searched : Searched nodes edges seeds position reached)
    (records : Records nodes edges) (enough : nodes.length ≤ visits + position)
    (enough' : nodes.length ≤ more + position) :
    ReferenceGraph.visit nodes visits position reached =
      ReferenceGraph.visit nodes more position reached := by
  induction visits generalizing more position reached with
  | zero =>
    have bound := searched.length_le
    rw [visit_of_end (List.getElem?_eq_none (by omega)),
      visit_of_end (List.getElem?_eq_none (by omega))]
  | succ visits ih =>
    cases next : reached[position]? with
    | none => rw [visit_of_end next, visit_of_end next]
    | some name =>
      have bound := searched.length_le
      have inside := (List.getElem?_eq_some_iff.1 next).1
      obtain ⟨fewer, rfl⟩ := Nat.exists_eq_succ_of_ne_zero (show more ≠ 0 by omega)
      simp only [ReferenceGraph.visit, next]
      exact ih (searched.visit records next) (by omega) (by omega)

end ReferenceGraph

private theorem topLevelName_of_clear {className : String} (clear : '$' ∉ className.toList) :
    topLevelName className = className := by
  unfold topLevelName
  split
  · next outer inner cut =>
    obtain ⟨_, separator, separates, whole⟩ := Text.splitOnce_eq_some_iff.1 cut
    rw [beq_iff_eq.1 separates] at whole
    exact absurd (by simp [whole]) clear
  · rfl

/-- The outermost class is around itself only. -/
theorem topLevelName_topLevelName (className : String) :
    topLevelName (topLevelName className) = topLevelName className := by
  -- Either nothing was cut off, or what stands before the first separator holds none.
  by_cases uncut : topLevelName className = className
  · rw [uncut, uncut]
  · apply topLevelName_of_clear
    unfold topLevelName at uncut ⊢
    split at uncut
    · next outer inner cut =>
      obtain ⟨clear, _⟩ := Text.splitOnce_eq_some_iff.1 cut
      split at uncut
      · exact absurd rfl uncut
      · next filled =>
        simp only [filled, Bool.false_eq_true, if_false, String.toList_ofList]
        exact fun member => absurd (clear '$' member) (by decide)
    · exact absurd rfl uncut

/-- Whether some entries hold a class file with a reference from a class to another one. -/
def RefersAmong (fs : FileSystem) (entries : List ClasspathEntry) (source target : String) : Prop :=
  ∃ entry ∈ entries, ∃ bytes info, entry.Holds fs source bytes ∧
    ClassInfo.decode bytes = .ok info ∧ ∃ symbol ∈ info.symbols, symbol.className = target

namespace SymbolReferences

variable {fs : FileSystem} {entries : List ClasspathEntry} {references : SymbolReferences}

private theorem mem_symbols_insertAll {source location : ClassLocation} {symbols listed : List Symbol}
    (member : (location, listed) ∈ (references.insertAll source symbols).table) {symbol : Symbol}
    (isListed : symbol ∈ listed) :
    location.className = source.className ∧ symbol ∈ symbols ∨
      ∃ old, (location, old) ∈ references.table ∧ symbol ∈ old := by
  rcases Ordered.mem_update member with kept | ⟨same, added⟩ | ⟨same, old, there, changed⟩
  · exact .inr ⟨listed, kept, isListed⟩
  · rw [added, Ordered.mem_foldl_insert_iff] at isListed
    exact .inl ⟨congrArg _ same, isListed.resolve_left List.not_mem_nil⟩
  · have className := (ClassLocation.same_iff.1 (beq_iff_eq.2 same)).1
    rw [changed, Ordered.mem_foldl_insert_iff] at isListed
    rcases isListed with before | new
    · exact .inr ⟨old, there, before⟩
    · exact .inl ⟨className.symm, new⟩

/-- Only references of class files of some entries are listed. -/
def ListsRead (fs : FileSystem) (entries : List ClasspathEntry) (references : SymbolReferences) :
    Prop :=
  ∀ row ∈ references.table, ∀ symbol ∈ row.2,
    RefersAmong fs entries row.1.className symbol.className

private theorem extract_listsRead (extracted : extract fs entries = .ok references) :
    references.ListsRead fs entries := by
  refine foldlM_keeps (ListsRead fs entries) extracted (fun row member => by cases member) ?_
  intro state next entry isEntry added before
  obtain ⟨files, read, added⟩ := bind_ok added
  refine foldlM_keeps (ListsRead fs entries) added before ?_
  intro state next file isFile added before row member symbol isListed
  obtain ⟨info, decoded, rfl⟩ := addClass_ok added
  rcases mem_symbols_insertAll member isListed with ⟨className, isSymbol⟩ | ⟨old, there, known⟩
  · rw [className]
    exact ⟨entry, isEntry, file.2, info, ⟨files, read, isFile⟩, decoded, symbol, isSymbol, rfl⟩
  · exact before (row.1, old) there symbol known

private theorem mem_edges_iff (extracted : extract fs entries = .ok references) (source target : String) :
    (source, target) ∈ references.edges ↔ RefersAmong fs entries source target := by
  constructor
  · intro isEdge
    obtain ⟨row, member, isEdge⟩ := List.mem_flatMap.1 isEdge
    obtain ⟨symbol, isListed, same⟩ := List.mem_map.1 isEdge
    obtain ⟨rfl, rfl⟩ := Prod.mk.inj same
    exact extract_listsRead extracted row member symbol isListed
  · intro refers
    obtain ⟨entry, isEntry, bytes, info, ⟨files, read, isFile⟩, decoded, symbol, isSymbol, rfl⟩ :=
      refers
    obtain ⟨files', read', lists⟩ := extract_lists extracted isEntry
    cases read.symm.trans read'
    obtain ⟨info', decoded', location, listed, member, same, contained⟩ := lists _ isFile
    cases decoded.symm.trans decoded'
    have className : source = location.className := (ClassLocation.same_iff.1 same).1
    refine List.mem_flatMap.2 ⟨(location, listed), member, ?_⟩
    exact List.mem_map.2 ⟨symbol, contained isSymbol, by rw [className]⟩

/-- The reachable classes of a class path are those that a chain of references leads to. -/
theorem mem_reachable_iff {points : List ClasspathEntry} {seeds : List String}
    (extracted : extract fs entries = .ok references)
    (listed : SymbolReferences.seeds fs points = .ok seeds) (name : String) :
    name ∈ (ReferenceGraph.ofEdges references.edges seeds).reachable ↔
      ∃ point ∈ points, ∃ first, point.defines fs first = .ok true ∧
        Relation.ReflTransGen (RefersAmong fs entries) first name := by
  have chains : ReferenceGraph.Joined references.edges =
      Relation.ReflTransGen (RefersAmong fs entries) := by
    unfold ReferenceGraph.Joined
    congr
    funext source target
    exact propext (mem_edges_iff extracted source target)
  rw [ReferenceGraph.mem_reachable_iff, chains]
  constructor
  · intro reached
    obtain ⟨first, isSeed, chain⟩ := reached
    obtain ⟨point, isPoint, defined⟩ := (mem_seeds_iff listed first).1 isSeed
    exact ⟨point, isPoint, first, defined, chain⟩
  · intro reached
    obtain ⟨point, isPoint, first, defined, chain⟩ := reached
    exact ⟨first, (mem_seeds_iff listed first).2 ⟨point, isPoint, defined⟩, chain⟩

end SymbolReferences

namespace Checker

variable {fs : FileSystem} {checker : Checker} {problems : List Problem}

/-- Problems are reported for outermost classes. -/
theorem topLevelName_source (ran : checker.problems fs = .ok problems) {problem : Problem}
    (member : problem ∈ problems) :
    topLevelName problem.source.className = problem.source.className := by
  rw [problems_eq_answered] at ran
  obtain ⟨_, rfl⟩ := answered_iff.1 ran
  have inserted := (List.mem_filter.1 member).1
  have isFound := ((insertAll_grows [] _).sound problem inserted).resolve_left List.not_mem_nil
  obtain ⟨row, _, ofRow⟩ := List.mem_flatMap.1 isFound
  rw [source_of_mem_found ofRow]
  exact topLevelName_topLevelName row.1.className

/-- The search in a graph ends, and reaches the names that a chain of edges joins to a seed. So the
reachable problems of a class path, or of a checker for other references that shares its graph, are
the problems for whose outermost class a chain of references leads to the class, or to one nested in
it, from a class of an entry that is used from outside. -/
theorem reachability_exact :
    (∀ (edges : List (String × String)) (seeds : List String),
      let graph := ReferenceGraph.ofEdges edges seeds
      (∀ visits, graph.nodeCount ≤ visits →
        ReferenceGraph.visit graph.edges visits 0 (ReferenceGraph.addNew [] seeds) =
          graph.reachable) ∧
      ∀ name, name ∈ graph.reachable ↔ ∃ seed ∈ seeds, ReferenceGraph.Joined edges seed name) ∧
    ∀ (fs : FileSystem) (resolved : ResolvedClasspath) (config : CheckerConfig)
      (rules : List ExclusionRule) (checker : Checker),
      create fs resolved config rules = .ok checker →
      ∀ references : SymbolReferences,
        (∀ error, (checker.withReferences references).problems fs = .error error →
          (checker.withReferences references).reachableProblems fs = .error error) ∧
        ∀ problems, (checker.withReferences references).problems fs = .ok problems →
          ∃ reachable, (checker.withReferences references).reachableProblems fs = .ok reachable ∧
            reachable.Sublist problems ∧
            ∀ problem ∈ problems, problem ∈ reachable ↔
              ∃ name, topLevelName name = topLevelName problem.source.className ∧
                ∃ point ∈ resolved.entryPoints, ∃ first, point.defines fs first = .ok true ∧
                  Relation.ReflTransGen (RefersAmong fs resolved.entries) first name := by
  constructor
  · intro edges seeds
    obtain ⟨records, searched⟩ := ReferenceGraph.searched_ofEdges edges seeds
    refine ⟨?_, ReferenceGraph.mem_reachable_iff edges seeds⟩
    exact fun visits enough => searched.visit_eq records enough (Nat.le_refl _)
  · intro fs resolved config rules checker created references
    obtain ⟨_, extracted, seeds, read, listed, rfl⟩ := create_iff.1 created
    constructor
    · intro error failed
      rw [reachableProblems, failed]
      rfl
    · intro problems ran
      rw [reachableProblems, ran]
      refine ⟨_, rfl, List.filter_sublist, ?_⟩
      intro problem member
      rw [List.mem_filter, and_iff_right member, isReachable, List.any_eq_true,
        topLevelName_source ran member]
      simp only [beq_iff_eq]
      constructor
      · intro reached
        obtain ⟨name, isReached, around⟩ := reached
        exact ⟨name, around, (SymbolReferences.mem_reachable_iff read listed name).1 isReached⟩
      · intro reached
        obtain ⟨name, around, joined⟩ := reached
        exact ⟨name, (SymbolReferences.mem_reachable_iff read listed name).2 joined, around⟩

end Checker

namespace ReachableSample

/-- The application refers to a class that is nested in one with a problem. The other class with a
problem is not used. -/
def files : FileSystem := .ofNodes [
  (⟨false, ["s.jar"]⟩, .archive [
    ⟨"a/S.class", ((ClassDraft.ofClass "a.S").declare (.referencesClass "b.T$N")).build⟩]),
  (⟨false, ["t.jar"]⟩, .archive [
    ⟨"b/T.class", ((ClassDraft.ofClass "b.T").declare (.referencesClass "x.G")).build⟩,
    ⟨"b/T$N.class", (ClassDraft.ofClass "b.T$N").build⟩,
    ⟨"b/U.class", ((ClassDraft.ofClass "b.U").declare (.referencesClass "x.G")).build⟩])]

def classpath : ResolvedClasspath :=
  (ResolvedClasspath.ofPaths [⟨"s.jar"⟩, ⟨"t.jar"⟩]).restrict [⟨"s.jar"⟩]

def config : CheckerConfig := { CheckerConfig.default none with systemPackages := ["java."] }

def sources (problems : List Problem) : List String := problems.map (·.source.className)

/-- One of two problems is reachable, through the nested class. -/
theorem reachability_through_nested_class :
    ∃ checker problems reachable,
      Checker.create files classpath config [] = .ok checker ∧
      checker.problems files = .ok problems ∧
      sources problems = ["b.T", "b.U"] ∧
      checker.reachableProblems files = .ok reachable ∧
      sources reachable = ["b.T"] ∧
      ∀ problem ∈ problems, problem ∈ reachable ↔
        ∃ name, topLevelName name = topLevelName problem.source.className ∧
          ∃ point ∈ classpath.entryPoints, ∃ first, point.defines files first = .ok true ∧
            Relation.ReflTransGen (RefersAmong files classpath.entries) first name := by
  have run : (do
      let checker ← Checker.create files classpath config []
      let problems ← checker.problems files
      let reachable ← checker.reachableProblems files
      return (sources problems, sources reachable)) = .ok (["b.T", "b.U"], ["b.T"]) :=
    toOption_eq_some_iff.1 (by decide +kernel)
  obtain ⟨checker, created, run⟩ := bind_ok run
  obtain ⟨problems, ran, run⟩ := bind_ok run
  obtain ⟨reachable, ran', listed⟩ := bind_ok run
  obtain ⟨ofProblems, ofReachable⟩ := Prod.mk.inj (Except.ok.inj listed)
  obtain ⟨_, exact⟩ := Checker.reachability_exact.2 files classpath config [] checker created
    checker.references
  obtain ⟨reachable', ran'', _, isReachable⟩ := exact problems ran
  cases ran'.symm.trans ran''
  exact ⟨checker, problems, reachable, created, ran, ofProblems, ran', ofReachable, isReachable⟩

end ReachableSample

end Linkage
