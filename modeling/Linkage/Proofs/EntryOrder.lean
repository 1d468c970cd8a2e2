import Linkage.ClassFile.Draft
import Linkage.Proofs.CacheTransparency
import Linkage.Proofs.OrderedSets
import Linkage.Proofs.Reachability
import Linkage.Proofs.Sources

/-!
The order of a class path.

If no class is defined by two entries, no entry hides a class of another one. Then the symbols of
all classes, the lookup of each class and the reachable classes are the same for every order of the
entries, and so are the problems.
-/

set_option autoImplicit false

namespace Linkage

section Results

variable {ε α β : Type} {part : α → Except ε β}

private theorem mapM_perm {items others : List α} (perm : items.Perm others) {results : List β}
    (succeeded : items.mapM part = .ok results) :
    ∃ permuted, others.mapM part = .ok permuted ∧ results.Perm permuted := by
  induction perm generalizing results with
  | nil => exact ⟨results, succeeded, .refl _⟩
  | cons item _ ih =>
    rw [List.mapM_cons] at succeeded
    obtain ⟨result, first, succeeded⟩ := bind_ok succeeded
    obtain ⟨results, rest, same⟩ := bind_ok succeeded
    cases same
    obtain ⟨permuted, ran, perm⟩ := ih rest
    exact ⟨result :: permuted, by rw [List.mapM_cons, first, ran]; rfl, perm.cons result⟩
  | swap first second rest =>
    rw [List.mapM_cons, List.mapM_cons] at succeeded
    obtain ⟨second', atSecond, succeeded⟩ := bind_ok succeeded
    obtain ⟨tail, ran, same⟩ := bind_ok succeeded
    cases same
    obtain ⟨first', atFirst, ran⟩ := bind_ok ran
    obtain ⟨results, rest', same⟩ := bind_ok ran
    cases same
    refine ⟨first' :: second' :: results, ?_, List.Perm.swap _ _ _⟩
    rw [List.mapM_cons, List.mapM_cons, atFirst, atSecond, rest']
    rfl
  | trans _ _ ihFirst ihSecond =>
    obtain ⟨middle, ran, first⟩ := ihFirst succeeded
    obtain ⟨permuted, ran, second⟩ := ihSecond ran
    exact ⟨permuted, ran, first.trans second⟩

end Results

/-- Whether no class is defined by two of some entries. -/
def Unshadowed (fs : FileSystem) (entries : List ClasspathEntry) : Prop :=
  ∀ first ∈ entries, ∀ second ∈ entries, ∀ className,
    first.defines fs className = .ok true → second.defines fs className = .ok true →
      first = second

theorem ClasspathEntry.defines_iff {entry : ClasspathEntry} {fs : FileSystem} {className : String} :
    entry.defines fs className = .ok true ↔
      ∃ names, entry.classNames fs = .ok names ∧ className ∈ names := by
  constructor
  · intro defined
    obtain ⟨names, listed, contained⟩ := map_ok defined
    exact ⟨names, listed, List.contains_iff_mem.1 contained⟩
  · rintro ⟨names, listed, member⟩
    rw [defines, listed]
    exact congrArg _ (List.contains_iff_mem.2 member)

namespace SymbolReferences

variable {fs : FileSystem} {entries others : List ClasspathEntry} {references : SymbolReferences}

/-- The class in a class file of an entry with its symbols. -/
def rowOf (entry : ClasspathEntry) (file : String × Bytes) :
    Except CheckerError (ClassLocation × List Symbol) :=
  (entry.decode file.1 file.2).map fun info => (⟨entry, file.1⟩, info.symbols)

def rowsOf (fs : FileSystem) (entry : ClasspathEntry) :
    Except CheckerError (List (ClassLocation × List Symbol)) := do
  (← entry.readAll fs).mapM (rowOf entry)

def addRow (references : SymbolReferences) (row : ClassLocation × List Symbol) : SymbolReferences :=
  references.insertAll row.1 row.2

private theorem addEntry_eq (fs : FileSystem) (references : SymbolReferences) (entry : ClasspathEntry) :
    addEntry fs references entry =
      (rowsOf fs entry).map fun rows => rows.foldl addRow references := by
  unfold addEntry rowsOf
  cases entry.readAll fs with
  | error error => rfl
  | ok files =>
    simp only [bind, Except.bind]
    induction files generalizing references with
    | nil => rfl
    | cons file rest ih =>
      rw [List.foldlM_cons, List.mapM_cons, addClass, rowOf]
      cases entry.decode file.1 file.2 with
      | error error => rfl
      | ok info =>
        refine (ih (references.insertAll ⟨entry, file.1⟩ info.symbols)).trans ?_
        simp only [Except.map, bind, Except.bind]
        cases rest.mapM (rowOf entry) <;> rfl

theorem extract_eq (fs : FileSystem) (entries : List ClasspathEntry) :
    extract fs entries =
      (entries.mapM (rowsOf fs)).map fun rows => rows.flatten.foldl addRow empty := by
  unfold extract
  generalize empty = references
  induction entries generalizing references with
  | nil => rfl
  | cons entry rest ih =>
    rw [List.foldlM_cons, List.mapM_cons, addEntry_eq]
    cases rowsOf fs entry with
    | error error => rfl
    | ok rows =>
      refine (ih (rows.foldl addRow references)).trans ?_
      simp only [bind, Except.bind]
      cases rest.mapM (rowsOf fs) with
      | error error => rfl
      | ok others => simp [Except.map, pure, Except.pure]

private theorem insertAll_comm {first second : ClassLocation}
    (distinct : compare first second = .eq → first = second) (symbols more : List Symbol)
    (references : SymbolReferences) :
    (references.insertAll first symbols).insertAll second more =
      (references.insertAll second more).insertAll first symbols := by
  unfold insertAll
  congr 1
  -- Either both add to the symbols of one class, or they change different rows.
  by_cases same : compare first second = .eq
  · cases distinct same
    rw [Ordered.update_update, Ordered.update_update]
    congr 1
    funext known
    change Ordered.insertAll (Ordered.insertAll known symbols) more =
      Ordered.insertAll (Ordered.insertAll known more) symbols
    rw [← Ordered.insertAll_append, ← Ordered.insertAll_append]
    exact Ordered.insertAll_perm List.perm_append_comm known
  · exact Ordered.update_comm same [] references.table

private theorem defines_of_row {entry : ClasspathEntry} {rows : List (ClassLocation × List Symbol)}
    (given : rowsOf fs entry = .ok rows) {row : ClassLocation × List Symbol} (member : row ∈ rows) :
    row.1.entry = entry ∧ entry.defines fs row.1.className = .ok true := by
  obtain ⟨files, read, given⟩ := bind_ok given
  obtain ⟨⟨name, bytes⟩, isFile, decoded⟩ := (mapM_ok given).2 row member
  obtain ⟨info, _, same⟩ := map_ok decoded
  cases same
  have holds : entry.Holds fs name bytes := ⟨files, read, isFile⟩
  exact ⟨rfl, ClasspathEntry.defines_iff.2 holds.mem_classNames⟩

/-- Rows of different classes are kept apart, since no two entries define the same class. -/
theorem eq_of_compare_rows (unshadowed : Unshadowed fs entries)
    {rows : List (List (ClassLocation × List Symbol))} (given : entries.mapM (rowsOf fs) = .ok rows)
    {first second : ClassLocation × List Symbol} (isRow : first ∈ rows.flatten)
    (isRow' : second ∈ rows.flatten) (same : compare first.1 second.1 = .eq) :
    first.1 = second.1 := by
  obtain ⟨ofEntry, listed, member⟩ := List.mem_flatten.1 isRow
  obtain ⟨ofEntry', listed', member'⟩ := List.mem_flatten.1 isRow'
  obtain ⟨entry, isEntry, given₁⟩ := (mapM_ok given).2 ofEntry listed
  obtain ⟨entry', isEntry', given₂⟩ := (mapM_ok given).2 ofEntry' listed'
  obtain ⟨at_, defined⟩ := defines_of_row given₁ member
  obtain ⟨at', defined'⟩ := defines_of_row given₂ member'
  have sameName := (ClassLocation.same_iff.1 (beq_iff_eq.2 same)).1
  rw [← sameName] at defined'
  have sameEntry := unshadowed entry isEntry entry' isEntry' _ defined defined'
  calc first.1 = ⟨first.1.entry, first.1.className⟩ := rfl
    _ = ⟨second.1.entry, second.1.className⟩ := by rw [at_, sameEntry, at', sameName]

private theorem extract_perm (perm : entries.Perm others) (unshadowed : Unshadowed fs entries)
    (extracted : extract fs entries = .ok references) : extract fs others = .ok references := by
  rw [extract_eq] at extracted ⊢
  obtain ⟨rows, given, same⟩ := map_ok extracted
  obtain ⟨permuted, given', rowsPerm⟩ := mapM_perm perm given
  rw [given', ← same]
  refine congrArg Except.ok (rowsPerm.flatten.foldl_eq' ?_ empty).symm
  intro first isRow second isRow' references
  exact insertAll_comm (eq_of_compare_rows unshadowed given isRow isRow') _ _ references

private theorem classNames_of_extract (extracted : extract fs entries = .ok references) :
    ∀ entry ∈ entries, ∃ names, entry.classNames fs = .ok names := by
  intro entry member
  obtain ⟨files, read, _⟩ := extract_lists extracted member
  obtain ⟨names, listed, _⟩ := bind_ok read
  exact ⟨names, listed⟩

theorem mem_seeds_iff {points : List ClasspathEntry} {names : List String}
    (listed : seeds fs points = .ok names) (name : String) :
    name ∈ names ↔ ∃ entry ∈ points, entry.defines fs name = .ok true := by
  obtain ⟨lists, given, same⟩ := bind_ok listed
  cases same
  simp only [ClasspathEntry.defines_iff]
  rw [List.mem_flatten]
  constructor
  · rintro ⟨list, listed, member⟩
    obtain ⟨entry, isPoint, ofEntry⟩ := (mapM_ok given).2 list listed
    exact ⟨entry, isPoint, list, ofEntry, member⟩
  · rintro ⟨entry, isPoint, list, ofEntry, member⟩
    obtain ⟨list', listed, ofEntry'⟩ := (mapM_ok given).1 entry isPoint
    cases ofEntry.symm.trans ofEntry'
    exact ⟨list, listed, member⟩

private theorem seeds_of_mem_iff {points points' : List ClasspathEntry} {names : List String}
    (listed : seeds fs points = .ok names) (same : ∀ entry, entry ∈ points' ↔ entry ∈ points) :
    ∃ names', seeds fs points' = .ok names' ∧ ∀ name, name ∈ names' ↔ name ∈ names := by
  obtain ⟨lists, given, _⟩ := bind_ok listed
  have succeeds : ∀ entry ∈ points', ∃ names, entry.classNames fs = .ok names := by
    intro entry member
    obtain ⟨names, _, listed⟩ := (mapM_ok given).1 entry ((same entry).1 member)
    exact ⟨names, listed⟩
  obtain ⟨lists', given'⟩ := mapM_of_ok succeeds
  have listed' : seeds fs points' = .ok lists'.flatten := by
    rw [seeds, given']
    rfl
  refine ⟨_, listed', fun name => ?_⟩
  simp only [mem_seeds_iff listed, mem_seeds_iff listed', same]

end SymbolReferences

namespace Loader

variable {fs : FileSystem} {entries others : List ClasspathEntry} {className : String}

private theorem loadFrom_of_only {entry : ClasspathEntry} (member : entry ∈ entries)
    (defined : entry.defines fs className = .ok true)
    (absent : ∀ other ∈ entries, other ≠ entry → other.readClass fs className = .ok none) :
    loadFrom fs className entries = loadFrom fs className [entry] := by
  induction entries with
  | nil => cases member
  | cons head rest ih =>
    by_cases same : head = entry
    · subst same
      obtain ⟨names, listed, isName⟩ := ClasspathEntry.defines_iff.1 defined
      have never : head.readClass fs className ≠ .ok none := by
        intro none
        obtain ⟨names', listed', notName⟩ := ClasspathEntry.readClass_none_iff.1 none
        cases listed.symm.trans listed'
        exact notName isName
      unfold loadFrom
      cases read : head.readClass fs className with
      | error error => rfl
      | ok bytes =>
        cases bytes with
        | none => exact absurd read never
        | some bytes => rfl
    · have later := (List.mem_cons.1 member).resolve_left fun equal => same equal.symm
      have first : loadFrom fs className (head :: rest) = loadFrom fs className rest := by
        simp only [loadFrom, absent head List.mem_cons_self same]
        rfl
      rw [first]
      exact ih later fun other isRest => absent other (List.mem_cons_of_mem _ isRest)

private theorem loadFrom_perm (perm : entries.Perm others) (unshadowed : Unshadowed fs entries)
    (listed : ∀ entry ∈ entries, ∃ names, entry.classNames fs = .ok names) :
    loadFrom fs className entries = loadFrom fs className others := by
  have absent : ∀ entry ∈ entries, ¬ entry.defines fs className = .ok true →
      entry.readClass fs className = .ok none := by
    intro entry member undefined
    obtain ⟨names, known⟩ := listed entry member
    refine ClasspathEntry.readClass_none_iff.2 ⟨names, known, ?_⟩
    exact fun isName => undefined (ClasspathEntry.defines_iff.2 ⟨names, known, isName⟩)
  -- At most one entry answers, so its place among the others does not matter.
  by_cases defined : ∃ entry ∈ entries, entry.defines fs className = .ok true
  · obtain ⟨entry, member, defined⟩ := defined
    have onlyHere : ∀ other ∈ entries, other ≠ entry → other.readClass fs className = .ok none := by
      intro other isEntry different
      apply absent other isEntry
      exact fun also => different (unshadowed other isEntry entry member className also defined)
    rw [loadFrom_of_only member defined onlyHere,
      loadFrom_of_only (perm.mem_iff.1 member) defined
        fun other isEntry => onlyHere other (perm.mem_iff.2 isEntry)]
  · have nowhere : ∀ entry ∈ entries, entry.readClass fs className = .ok none :=
      fun entry member => absent entry member fun also => defined ⟨entry, member, also⟩
    rw [loadFrom_none_iff.2 nowhere,
      loadFrom_none_iff.2 fun entry member => nowhere entry (perm.mem_iff.2 member)]

end Loader

namespace Checker

variable {fs : FileSystem} {checker other : Checker}

theorem create_iff {resolved : ResolvedClasspath} {config : CheckerConfig}
    {rules : List ExclusionRule} :
    create fs resolved config rules = .ok checker ↔
      resolved.entries ≠ [] ∧ ∃ references seeds,
        SymbolReferences.extract fs resolved.entries = .ok references ∧
        SymbolReferences.seeds fs resolved.entryPoints = .ok seeds ∧
        checker = {
          loader :=
            ⟨resolved.entries, config.bootstrap.map ClasspathEntry.ofPath, config.systemPackages⟩
          cacheCapacity := config.cacheCapacity
          references := references
          graph := .ofEdges references.edges seeds
          rules := rules
          guardTypes := config.guardTypes } := by
  unfold create
  constructor
  · intro created
    split at created
    · cases created
    · next filled =>
      obtain ⟨references, extracted, created⟩ := bind_ok created
      obtain ⟨graph, drawn, created⟩ := bind_ok created
      obtain ⟨seeds, listed, same⟩ := bind_ok drawn
      cases same
      cases created
      refine ⟨fun empty => filled ?_, references, seeds, extracted, listed, rfl⟩
      rw [empty]
      rfl
  · rintro ⟨filled, references, seeds, extracted, listed, rfl⟩
    rw [if_neg (by simpa using filled), extracted]
    simp only [bind, Except.bind, SymbolReferences.graph, listed]
    rfl

/-- What a run reports depends on a class path only through its symbols, its lookups, the number of
its classes and the set of those that are reachable. -/
theorem reports_congr (loads : checker.loader.load fs = other.loader.load fs)
    (bounds : (checker.loader.classNames fs).length = (other.loader.classNames fs).length)
    (packages : checker.loader.systemPackages = other.loader.systemPackages)
    (guards : checker.guardTypes = other.guardTypes) (rules : checker.rules = other.rules)
    (references : checker.references = other.references)
    (reachable : ∀ name, name ∈ checker.graph.reachable ↔ name ∈ other.graph.reachable) :
    checker.problems fs = other.problems fs ∧
      checker.reachableProblems fs = other.reachableProblems fs := by
  have problems : checker.problems fs = other.problems fs := by
    rw [problems_eq_answered, problems_eq_answered, answered, answered, inquiry, inquiry, context,
      context, loads, bounds, packages, guards, rules, references]
  have kept : checker.isReachable = other.isReachable := by
    funext problem
    rw [isReachable, isReachable, Bool.eq_iff_iff, List.any_eq_true, List.any_eq_true]
    simp only [reachable]
  refine ⟨problems, ?_⟩
  rw [reachableProblems, reachableProblems, problems, kept]

/-- If no class is defined by two entries, a class path in another order, with the same entries used
from outside, can be checked as well. Both have the same problems and the same reachable problems,
or their runs fail in the same way. -/
theorem problems_of_entry_order {first second : ResolvedClasspath} {config : CheckerConfig}
    {rules : List ExclusionRule} (perm : first.entries.Perm second.entries)
    (unshadowed : Unshadowed fs first.entries)
    (points : ∀ entry, entry ∈ second.entryPoints ↔ entry ∈ first.entryPoints)
    (created : create fs first config rules = .ok checker) :
    ∃ reordered, create fs second config rules = .ok reordered ∧
      reordered.problems fs = checker.problems fs ∧
      reordered.reachableProblems fs = checker.reachableProblems fs := by
  obtain ⟨filled, references, seeds, extracted, listed, rfl⟩ := create_iff.1 created
  obtain ⟨seeds', listed', sameSeeds⟩ := SymbolReferences.seeds_of_mem_iff listed points
  have extracted' := SymbolReferences.extract_perm perm unshadowed extracted
  have filled' : second.entries ≠ [] := by
    intro empty
    rw [empty] at perm
    exact filled perm.eq_nil
  refine ⟨_, create_iff.2 ⟨filled', references, seeds', extracted', listed', rfl⟩, ?_⟩
  apply reports_congr
  case packages | guards | rules | references => rfl
  case loads =>
    funext className
    unfold Loader.load
    dsimp only
    rw [Loader.loadFrom_perm perm unshadowed (SymbolReferences.classNames_of_extract extracted)]
    rfl
  case bounds =>
    have classes := (perm.symm.append_right (config.bootstrap.map ClasspathEntry.ofPath))
    exact ((classes.flatMap_right _).append_right _).length_eq
  case reachable =>
    intro name
    rw [ReferenceGraph.mem_reachable_iff, ReferenceGraph.mem_reachable_iff]
    simp only [sameSeeds]

end Checker

namespace EntryOrderSample

def application : ClasspathEntry := .ofPath ⟨"s.jar"⟩

def library : ClasspathEntry := .ofPath ⟨"t.jar"⟩

/-- One class of the library is used by the application, and both its classes name absent ones. -/
def files : FileSystem := .ofNodes [
  (⟨false, ["s.jar"]⟩, .archive [
    ⟨"a/S.class", ((ClassDraft.ofClass "a.S").declare (.referencesClass "b.T")).build⟩]),
  (⟨false, ["t.jar"]⟩, .archive [
    ⟨"b/T.class", ((ClassDraft.ofClass "b.T").declare (.referencesClass "x.G")).build⟩,
    ⟨"b/U.class", ((ClassDraft.ofClass "b.U").declare (.referencesClass "x.H")).build⟩])]

def inOrder : ResolvedClasspath :=
  (ResolvedClasspath.ofPaths [application.path, library.path]).restrict [application.path]

def reversed : ResolvedClasspath :=
  (ResolvedClasspath.ofPaths [library.path, application.path]).restrict [application.path]

def config : CheckerConfig := { CheckerConfig.default none with systemPackages := ["java."] }

theorem unshadowed : Unshadowed files inOrder.entries := by
  have inApplication : application.classNames files = .ok ["a.S"] :=
    toOption_eq_some_iff.1 (by decide +kernel)
  have inLibrary : library.classNames files = .ok ["b.T", "b.U"] :=
    toOption_eq_some_iff.1 (by decide +kernel)
  have apart : ∀ className, application.defines files className = .ok true →
      ¬ library.defines files className = .ok true := by
    simp only [ClasspathEntry.defines_iff, inApplication, inLibrary]
    rintro className ⟨names, ⟨⟩, member⟩ ⟨names', ⟨⟩, member'⟩
    cases List.mem_singleton.1 member
    exact absurd member' (by decide)
  have entries : inOrder.entries = [application, library] := by decide +kernel
  intro first member second member' className defined defined'
  rw [entries] at member member'
  simp only [List.mem_cons, List.not_mem_nil, or_false] at member member'
  rcases member with rfl | rfl <;> rcases member' with rfl | rfl
  · rfl
  · exact absurd defined' (apart className defined)
  · exact absurd defined (apart className defined')
  · rfl

/-- The library may come first. Two problems are found in each order, and one is reachable. -/
theorem problems_of_reversed_entries :
    ∃ checker reordered problems reachable,
      Checker.create files inOrder config [] = .ok checker ∧
      Checker.create files reversed config [] = .ok reordered ∧
      checker.problems files = .ok problems ∧ problems.length = 2 ∧
      checker.reachableProblems files = .ok reachable ∧ reachable.length = 1 ∧
      reordered.problems files = .ok problems ∧
      reordered.reachableProblems files = .ok reachable := by
  have run : (do
      let checker ← Checker.create files inOrder config []
      let problems ← checker.problems files
      let reachable ← checker.reachableProblems files
      return (problems.length, reachable.length)) = .ok (2, 1) :=
    toOption_eq_some_iff.1 (by decide +kernel)
  obtain ⟨checker, created, run⟩ := bind_ok run
  obtain ⟨problems, ran, run⟩ := bind_ok run
  obtain ⟨reachable, ran', sizes⟩ := bind_ok run
  obtain ⟨two, one⟩ := Prod.mk.inj (Except.ok.inj sizes)
  have perm : inOrder.entries.Perm reversed.entries := by decide +kernel
  have points : reversed.entryPoints = inOrder.entryPoints := by decide +kernel
  obtain ⟨reordered, created', same, same'⟩ :=
    Checker.problems_of_entry_order perm unshadowed (by simp [points]) created
  rw [ran] at same
  rw [ran'] at same'
  exact ⟨checker, reordered, problems, reachable, created, created', ran, two, ran', one, same,
    same'⟩

end EntryOrderSample

end Linkage
