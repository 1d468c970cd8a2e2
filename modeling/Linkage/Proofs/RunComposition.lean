import Linkage.ClassFile.Draft
import Linkage.Proofs.CacheTransparency
import Linkage.Proofs.Findings
import Linkage.Proofs.OrderedSets

/-!
A run is made of the runs for its classes.

What is found for a class depends on the class alone: neither the problems that were found before
nor the use of the repository shows in it. A run inserts all of it into one set. So the references
of a class path can be split and checked apart, and taking out an entry takes out its problems only.
-/

set_option autoImplicit false

namespace Linkage

namespace Inquiry

variable {α β : Type} {property : α → Prop}

/-- Every result of an inquiry has a property, whatever its lookups give. -/
def Always (property : α → Prop) : Inquiry α → Prop
  | done (.ok value) => property value
  | done (.error _) => True
  | lookUp _ next => ∀ lookup, (next lookup).Always property

theorem Always.of_answer {look : Look} {inquiry : Inquiry α} {value : α}
    (always : inquiry.Always property) (answered : inquiry.answer look = .ok value) :
    property value := by
  induction inquiry with
  | done result =>
    cases answered
    exact always
  | lookUp className next ih =>
    cases known : look className with
    | error error => simp only [answer, known] at answered; cases answered
    | ok lookup =>
      rw [answer_lookUp_ok known] at answered
      exact ih lookup (always lookup) answered

theorem Always.bind {earlier : β → Prop} {inquiry : Inquiry β} {next : β → Inquiry α}
    (always : inquiry.Always earlier)
    (continued : ∀ value, earlier value → (next value).Always property) :
    (inquiry >>= next).Always property := by
  change (inquiry.bind next).Always property
  induction inquiry with
  | done result =>
    cases result with
    | error error => trivial
    | ok value => exact continued value always
  | lookUp className continue_ ih => exact fun lookup => ih lookup (always lookup)

private theorem always_true (inquiry : Inquiry β) : inquiry.Always fun _ => True := by
  induction inquiry with
  | done result => cases result <;> trivial
  | lookUp className next ih => exact ih

theorem always_bind {inquiry : Inquiry β} {next : β → Inquiry α}
    (continued : ∀ value, (next value).Always property) : (inquiry >>= next).Always property :=
  (always_true inquiry).bind fun value _ => continued value

end Inquiry

namespace CheckContext

open Inquiry

variable (context : CheckContext) (source : SourceClass)

/-- Problems are reported for the outermost class around a source. -/
def ReportedFor (source : SourceClass) (result : Option Problem) : Prop :=
  ∀ problem, result = some problem → problem.source = source.location.topLevel

theorem reportedFor_none : ReportedFor source none := by
  intro problem same
  cases same

theorem reportedFor_problem (kind : ProblemKind) (symbol : Symbol) (target : Option LoadedClass) :
    ReportedFor source (some (source.problem kind symbol target)) := by
  rintro _ ⟨⟩
  rfl

theorem classNotFound_reportedFor (className : String) :
    (context.classNotFound source className).Always (ReportedFor source) := by
  apply always_bind
  intro guarded
  cases guarded with
  | true => exact reportedFor_none source
  | false => exact reportedFor_problem source _ _ _

private theorem symbolNotFound_reportedFor (symbol : Symbol) (target : LoadedClass) :
    (context.symbolNotFound source symbol target).Always (ReportedFor source) := by
  apply always_bind
  intro guarded
  cases guarded with
  | true => exact reportedFor_none source
  | false => exact reportedFor_problem source _ _ _

theorem checkClassAccess_reportedFor (target : LoadedClass) :
    (context.checkClassAccess source target).Always (ReportedFor source) := by
  apply always_bind
  intro access
  cases access with
  | accessible => exact reportedFor_none source
  | inaccessible => exact reportedFor_problem source _ _ _
  | missingEnclosing outer => exact classNotFound_reportedFor context source outer

private theorem checkMemberAccess_reportedFor (symbol : Symbol) (declaring : LoadedClass)
    (access : Access) :
    (context.checkMemberAccess source symbol declaring access).Always (ReportedFor source) := by
  apply always_bind
  intro accessible
  cases accessible with
  | true => exact reportedFor_none source
  | false => exact reportedFor_problem source _ _ _

theorem checkClass_reportedFor (symbol : Symbol) :
    (context.checkClass source symbol).Always (ReportedFor source) := by
  apply always_bind
  intro lookup
  cases lookup with
  | system => exact reportedFor_none source
  | notFound =>
    dsimp only
    split
    · exact reportedFor_none source
    · exact classNotFound_reportedFor context source _
  | found target =>
    dsimp only
    split
    · exact reportedFor_problem source _ _ _
    · exact checkClassAccess_reportedFor context source target

private theorem checkMethodIn_reportedFor (method : MethodSymbol) (target : LoadedClass)
    (hierarchy : Hierarchy) :
    (context.checkMethodIn source method target hierarchy).Always (ReportedFor source) := by
  unfold checkMethodIn
  dsimp only
  split
  · exact checkMemberAccess_reportedFor context source _ _ _
  · split
    · exact reportedFor_none source
    · split
      · exact reportedFor_problem source _ _ _
      · exact symbolNotFound_reportedFor context source _ _

private theorem checkMethod_reportedFor (method : MethodSymbol) :
    (context.checkMethod source method).Always (ReportedFor source) := by
  unfold checkMethod
  split
  · exact reportedFor_none source
  · apply always_bind
    intro lookup
    cases lookup with
    | system => exact reportedFor_none source
    | notFound => exact classNotFound_reportedFor context source _
    | found target =>
      refine (checkClassAccess_reportedFor context source target).bind ?_
      intro result reported
      cases result with
      | some problem => exact reported
      | none =>
        dsimp only
        split
        · exact reportedFor_problem source _ _ _
        · apply always_bind
          intro hierarchy
          split
          · exact classNotFound_reportedFor context source _
          · exact checkMethodIn_reportedFor context source method target hierarchy

private theorem checkField_reportedFor (field : FieldSymbol) :
    (context.checkField source field).Always (ReportedFor source) := by
  apply always_bind
  intro lookup
  cases lookup with
  | system => exact reportedFor_none source
  | notFound => exact classNotFound_reportedFor context source _
  | found target =>
    refine (checkClassAccess_reportedFor context source target).bind ?_
    intro result reported
    cases result with
    | some problem => exact reported
    | none =>
      apply always_bind
      intro hierarchy
      split
      · exact classNotFound_reportedFor context source _
      · split
        · exact checkMemberAccess_reportedFor context source _ _ _
        · split
          · exact reportedFor_none source
          · exact symbolNotFound_reportedFor context source _ _

theorem checkSymbol_reportedFor (symbol : Symbol) :
    (context.checkSymbol source symbol).Always (ReportedFor source) := by
  cases symbol with
  | «class» name => exact checkClass_reportedFor context source _
  | superClass name => exact checkClass_reportedFor context source _
  | superInterface name => exact checkClass_reportedFor context source _
  | method method => exact checkMethod_reportedFor context source method
  | field field => exact checkField_reportedFor context source field

private theorem checkAbstractMethods_reportedFor :
    (context.checkAbstractMethods source).Always fun abstract =>
      ∀ problem ∈ abstract, problem.source = source.location.topLevel := by
  unfold checkAbstractMethods
  split
  · exact fun _ => nofun
  · apply always_bind
    intro hierarchy
    dsimp only
    split
    · exact fun _ => nofun
    · intro problem member
      obtain ⟨declaring, _, member⟩ := List.mem_flatMap.1 member
      obtain ⟨method, _, rfl⟩ := List.mem_map.1 member
      rfl

end CheckContext

namespace Checker

open Ordered (insertAll)

section Findings

variable {context : CheckContext} {look : Look}

/-- What the checks of symbols outside of an entry find, symbol by symbol. -/
def symbolFindings (context : CheckContext) (look : Look) (source : SourceClass)
    (own : List String) (symbols : List Symbol) : Except CheckerError (List (Option Problem)) :=
  (symbols.filter fun symbol => !own.contains symbol.className).mapM fun symbol =>
    (context.checkSymbol source symbol).answer look

/-- What is found for a class that was read, in the order in which a run inserts it. -/
def sourceFindings (context : CheckContext) (look : Look) (source : SourceClass)
    (symbols : List Symbol) : Except CheckerError (List Problem) := do
  let own ← source.location.entry.classNames context.fs
  let found ← symbolFindings context look source own symbols
  let abstract ← (context.checkAbstractMethods source).answer look
  pure (found.filterMap id ++ abstract)

def findings (context : CheckContext) (look : Look) (row : ClassLocation × List Symbol) :
    Except CheckerError (List Problem) := do
  match ← (context.loadSource row.1).answer look with
  | none => pure []
  | some info => sourceFindings context look ⟨row.1, info⟩ row.2

private theorem answer_addSymbols (source : SourceClass) (own : List String) (symbols : List Symbol)
    (problems : List Problem) :
    (addSymbols context source own problems symbols).answer look =
      (symbolFindings context look source own symbols).map fun found =>
        insertAll problems (found.filterMap id) := by
  induction symbols generalizing problems with
  | nil => rfl
  | cons symbol rest ih =>
    unfold addSymbols symbolFindings
    by_cases contained : own.contains symbol.className = true
    · rw [if_pos contained, ih, List.filter_cons_of_neg (by simpa using contained)]
      rfl
    · rw [if_neg contained, List.filter_cons_of_pos (by simpa using contained), List.mapM_cons,
        Inquiry.answer_bind]
      cases (context.checkSymbol source symbol).answer look with
      | error error => rfl
      | ok found =>
        change (addSymbols _ _ _ (addProblem problems found) rest).answer look =
          Except.map _ (symbolFindings context look source own rest >>= _)
        rw [ih]
        cases symbolFindings context look source own rest with
        | error error => rfl
        | ok others => cases found <;> rfl

private theorem answer_addSource (source : SourceClass) (symbols : List Symbol) (problems : List Problem) :
    (addSource context source symbols problems).answer look =
      (sourceFindings context look source symbols).map (insertAll problems) := by
  unfold addSource sourceFindings
  rw [Inquiry.answer_bind, Inquiry.answer_ofExcept]
  cases source.location.entry.classNames context.fs with
  | error error => rfl
  | ok own =>
    change (addSymbols context source own problems symbols >>= fun problems =>
        context.checkAbstractMethods source >>= fun abstract =>
          pure (insertAll problems abstract)).answer look =
      Except.map _ (symbolFindings context look source own symbols >>= _)
    rw [Inquiry.answer_bind, answer_addSymbols]
    cases symbolFindings context look source own symbols with
    | error error => rfl
    | ok found =>
      change (context.checkAbstractMethods source >>= fun abstract =>
          pure (insertAll (insertAll problems (found.filterMap id)) abstract)).answer look =
        Except.map _ ((context.checkAbstractMethods source).answer look >>= _)
      rw [Inquiry.answer_bind]
      cases (context.checkAbstractMethods source).answer look with
      | error error => rfl
      | ok abstract => exact congrArg Except.ok (Ordered.insertAll_append _ _ _).symm

private theorem answer_addAll_cons (row : ClassLocation × List Symbol)
    (rest : List (ClassLocation × List Symbol)) (problems : List Problem) :
    (addAll context problems (row :: rest)).answer look =
      findings context look row >>= fun found =>
        (addAll context (insertAll problems found) rest).answer look := by
  rw [addAll, Inquiry.answer_bind, findings]
  cases (context.loadSource row.1).answer look with
  | error error => rfl
  | ok loaded =>
    cases loaded with
    | none => rfl
    | some info =>
      change (addSource context ⟨row.1, info⟩ row.2 problems >>= fun problems =>
          addAll context problems rest).answer look =
        sourceFindings context look ⟨row.1, info⟩ row.2 >>= _
      rw [Inquiry.answer_bind, answer_addSource]
      cases sourceFindings context look ⟨row.1, info⟩ row.2 <;> rfl

/-- What is found for a class, or nothing if its checks fail. -/
def found (context : CheckContext) (look : Look) (row : ClassLocation × List Symbol) :
    List Problem :=
  (findings context look row).toOption.getD []

/-- A run succeeds if the checks of each class do, and gives all that is found for one of them. -/
theorem answer_addAll_iff {table : List (ClassLocation × List Symbol)}
    {problems final : List Problem} :
    (addAll context problems table).answer look = .ok final ↔
      (∀ row ∈ table, findings context look row = .ok (found context look row)) ∧
        insertAll problems (table.flatMap (found context look)) = final := by
  induction table generalizing problems with
  | nil => simp [addAll, insertAll]
  | cons row rest ih =>
    rw [answer_addAll_cons, List.forall_mem_cons, List.flatMap_cons, Ordered.insertAll_append]
    cases checked : findings context look row with
    | error error => simp [bind, Except.bind]
    | ok new =>
      have same : found context look row = new := by simp [found, checked, Except.toOption]
      change (addAll context (insertAll problems new) rest).answer look = _ ↔ _
      rw [ih, same]
      simp

theorem source_of_mem_found {row : ClassLocation × List Symbol} {problem : Problem}
    (member : problem ∈ found context look row) : problem.source = row.1.topLevel := by
  unfold found at member
  cases checked : findings context look row with
  | error error => simp [checked, Except.toOption] at member
  | ok new =>
    simp only [checked, Except.toOption, Option.getD_some] at member
    obtain ⟨loaded, _, checked⟩ := bind_ok checked
    cases loaded with
    | none =>
      cases checked
      cases member
    | some info =>
      obtain ⟨own, _, checked⟩ := bind_ok checked
      obtain ⟨ofSymbols, checkedSymbols, checked⟩ := bind_ok checked
      obtain ⟨abstract, checkedMethods, same⟩ := bind_ok checked
      cases same
      rcases List.mem_append.1 member with reported | reported
      · obtain ⟨result, included, same⟩ := List.mem_filterMap.1 reported
        obtain ⟨symbol, _, answered⟩ := (mapM_ok checkedSymbols).2 result included
        exact (context.checkSymbol_reportedFor ⟨row.1, info⟩ symbol).of_answer answered problem same
      · exact (context.checkAbstractMethods_reportedFor ⟨row.1, info⟩).of_answer checkedMethods
          problem reported

end Findings

end Checker

private theorem ClassLocation.same_entry {a b : ClassLocation} (same : a.same b = true)
    (entry : ClasspathEntry) : a.entry.same entry = b.entry.same entry := by
  obtain ⟨components, coordinate⟩ := ClasspathEntry.same_iff.1 (same_iff.1 same).2
  rw [Bool.eq_iff_iff, ClasspathEntry.same_iff, ClasspathEntry.same_iff, components, coordinate]

/-- Rules look at nothing but what a problem is identified by. -/
theorem ExclusionRule.excludes_eq_of_compare (rules : List ExclusionRule) {a b : Problem}
    (same : compare a b = .eq) : excludes rules a = excludes rules b := by
  obtain ⟨symbol, source⟩ := Problem.compare_eq_iff.1 same
  have className : a.source.className = b.source.className := (ClassLocation.same_iff.1 source).1
  have matched : ∀ matcher : Matcher,
      matcher.matchesSource a.source = matcher.matchesSource b.source := by
    intro matcher
    cases matcher <;> simp only [Matcher.matchesSource, ClassLocation.topLevel, className]
  simp only [excludes, covers, symbol, matched]

namespace Checker

variable {checker : Checker} {fs : FileSystem} {all : List Problem}

abbrev foundFor (checker : Checker) (fs : FileSystem) (row : ClassLocation × List Symbol) :
    List Problem :=
  found (checker.context fs) (checker.loader.load fs) row

/-- The problems that are found for the classes of a table and that no rule covers. -/
def reportedFor (checker : Checker) (fs : FileSystem)
    (table : List (ClassLocation × List Symbol)) : List Problem :=
  (Ordered.insertAll [] (table.flatMap (checker.foundFor fs))).filter
    (!ExclusionRule.excludes checker.rules ·)

theorem answered_iff : checker.answered fs = .ok all ↔
    (∀ row ∈ checker.references.table, findings (checker.context fs) (checker.loader.load fs) row =
      .ok (checker.foundFor fs row)) ∧
      checker.reportedFor fs checker.references.table = all := by
  constructor
  · intro succeeded
    obtain ⟨problems, ran, same⟩ := map_ok succeeded
    obtain ⟨passes, inserted⟩ := answer_addAll_iff.1 ran
    rw [reportedFor, inserted]
    exact ⟨passes, same⟩
  · rintro ⟨passes, same⟩
    have ran : (checker.inquiry fs).answer (checker.loader.load fs) = .ok _ :=
      answer_addAll_iff.2 ⟨passes, rfl⟩
    rw [answered, ran, ← same]
    rfl

/-- A run for some of the classes succeeds as well, and gives what is found for these. -/
theorem answered_withReferences {references : SymbolReferences}
    (ran : checker.answered fs = .ok all)
    (subset : ∀ row ∈ references.table, row ∈ checker.references.table) :
    (checker.withReferences references).answered fs =
      .ok (checker.reportedFor fs references.table) := by
  have passes := (answered_iff.1 ran).1
  exact (@answered_iff (checker.withReferences references) fs _).2
    ⟨fun row member => passes row (subset row member), rfl⟩

theorem contains_reportedFor (table : List (ClassLocation × List Symbol)) (problem : Problem) :
    Ordered.contains (checker.reportedFor fs table) problem = true ↔
      ExclusionRule.excludes checker.rules problem = false ∧
        ∃ row ∈ table, ∃ other ∈ checker.foundFor fs row, compare problem other = .eq := by
  rw [reportedFor, Ordered.contains_filter fun a b same => by
    rw [ExclusionRule.excludes_eq_of_compare checker.rules same], Ordered.contains_insertAll]
  simp only [Ordered.contains, List.any_nil, Bool.false_eq_true, false_or, List.mem_flatMap,
    Bool.not_eq_true']
  constructor
  · rintro ⟨kept, other, ⟨row, member, found⟩, same⟩
    exact ⟨kept, row, member, other, found, same⟩
  · rintro ⟨kept, row, member, other, found, same⟩
    exact ⟨kept, other, ⟨row, member, found⟩, same⟩

private theorem foundFor_withoutEntry (references : SymbolReferences) (entry : ClasspathEntry) :
    (references.withoutEntry entry).table.flatMap (checker.foundFor fs) =
      (references.table.flatMap (checker.foundFor fs)).filter (!·.source.entry.same entry) := by
  obtain ⟨table⟩ := references
  change (table.filter fun row => !row.1.entry.same entry).flatMap _ = _
  induction table with
  | nil => rfl
  | cons row rest ih =>
    -- A problem has the entry of its class, so a class is left out with all of its problems.
    have own : ∀ problem ∈ checker.foundFor fs row,
        (!problem.source.entry.same entry) = !row.1.entry.same entry := by
      intro problem member
      rw [source_of_mem_found member]
      rfl
    rw [List.flatMap_cons, List.filter_append, List.filter_congr own, ← ih, List.filter_cons]
    cases row.1.entry.same entry with
    | true => simp
    | false =>
      have whole : (checker.foundFor fs row).filter (fun _ => !false) = checker.foundFor fs row :=
        List.filter_eq_self.2 fun _ _ => rfl
      rw [whole]
      rfl

private theorem reportedFor_withoutEntry (references : SymbolReferences) (entry : ClasspathEntry) :
    checker.reportedFor fs (references.withoutEntry entry).table =
      (checker.reportedFor fs references.table).filter (!·.source.entry.same entry) := by
  have respects : ∀ a b : Problem, compare a b = .eq →
      (!a.source.entry.same entry) = !b.source.entry.same entry := by
    intro a b same
    rw [ClassLocation.same_entry (Problem.compare_eq_iff.1 same).2]
  have restricted := Ordered.filter_insertAll respects
    (references.table.flatMap (checker.foundFor fs)) Ordered.sorted_nil
  rw [reportedFor, reportedFor, foundFor_withoutEntry, ← List.filter_nil, ← restricted,
    List.filter_filter, List.filter_filter]
  exact List.filter_congr fun problem _ => Bool.and_comm _ _

/-- The references of a class path may be split between two runs: together they report what one run
for all references reports. A run without the references of an entry reports what the run for all
references does, less the problems of the entry. Both hold however the repository that the runs
share has been used before. -/
theorem problems_compositional (ran : checker.problems fs = .ok all)
    {first second : SymbolReferences}
    (split : (first.table ++ second.table).Perm checker.references.table)
    (entry : ClasspathEntry) :
    ∃ ofFirst ofSecond,
      (∀ problem, Ordered.contains all problem =
        (Ordered.contains ofFirst problem || Ordered.contains ofSecond problem)) ∧
      ∀ {β : Type} (earlier : Inquiry β),
        let shared := (earlier.run fs (.ofCapacity checker.loader checker.cacheCapacity)).2
        ((checker.withReferences first).problemsFrom fs shared).1 = .ok ofFirst ∧
          ((checker.withReferences second).problemsFrom fs shared).1 = .ok ofSecond ∧
          ((checker.withReferences (checker.references.withoutEntry entry)).problemsFrom fs
            shared).1 = .ok (all.filter (!·.source.entry.same entry)) := by
  rw [problems_eq_answered] at ran
  have rows : ∀ row, row ∈ checker.references.table ↔ row ∈ first.table ∨ row ∈ second.table := by
    intro row
    rw [← split.mem_iff, List.mem_append]
  obtain ⟨_, rfl⟩ := answered_iff.1 ran
  refine ⟨checker.reportedFor fs first.table, checker.reportedFor fs second.table, ?_, ?_⟩
  · intro problem
    rw [Bool.eq_iff_iff, Bool.or_eq_true, contains_reportedFor, contains_reportedFor,
      contains_reportedFor, ← and_or_left]
    simp only [rows, or_and_right, exists_or]
  · intro β earlier shared
    have follows : shared.Follows fs checker.loader :=
      (earlier.run_eq_answer (Repository.ofCapacity_follows fs checker.loader _)).2
    have onShared : ∀ references : SymbolReferences,
        (∀ row ∈ references.table, row ∈ checker.references.table) →
        ((checker.withReferences references).problemsFrom fs shared).1 =
          .ok (checker.reportedFor fs references.table) := by
      intro references subset
      rw [← answered_withReferences ran subset]
      exact (@problemsFrom_eq_answered fs (checker.withReferences references) shared follows).1
    refine ⟨onShared first ?_, onShared second ?_, ?_⟩
    · exact fun row member => (rows row).2 (.inl member)
    · exact fun row member => (rows row).2 (.inr member)
    · rw [← reportedFor_withoutEntry]
      exact onShared _ fun row member => (List.mem_filter.1 member).1

end Checker

namespace CompositionSample

def outer : ClasspathEntry := .ofPath ⟨"s.jar"⟩

def other : ClasspathEntry := .ofPath ⟨"t.jar"⟩

/-- Two classes of one archive name the same absent class, and one of them is nested in the other.
-/
def files : FileSystem := .ofNodes [
  (⟨false, ["s.jar"]⟩, .archive [
    ⟨"a/S.class", ((ClassDraft.ofClass "a.S").declare (.referencesClass "x.G")).build⟩,
    ⟨"a/S$T.class", ((ClassDraft.ofClass "a.S$T").declare (.referencesClass "x.G")).build⟩]),
  (⟨false, ["t.jar"]⟩, .archive [
    ⟨"b/T.class", ((ClassDraft.ofClass "b.T").declare (.referencesClass "x.G")).build⟩])]

def config : CheckerConfig := { CheckerConfig.default none with systemPackages := ["java."] }

/-- The two classes of `s.jar` are checked in different runs, and both report the same problem. -/
theorem problems_of_nested_classes_compositional :
    ∃ checker all,
      Checker.create files (.ofPaths [outer.path, other.path]) config [] = .ok checker ∧
      checker.problems files = .ok all ∧ all.length = 2 ∧ checker.references.table.length = 3 ∧
      ∃ ofFirst ofSecond,
        (∀ problem, Ordered.contains all problem =
          (Ordered.contains ofFirst problem || Ordered.contains ofSecond problem)) ∧
        ∀ {β : Type} (earlier : Inquiry β),
          let shared := (earlier.run files (.ofCapacity checker.loader checker.cacheCapacity)).2
          ((checker.withReferences ⟨checker.references.table.take 1⟩).problemsFrom files shared).1 =
              .ok ofFirst ∧
            ((checker.withReferences ⟨checker.references.table.drop 1⟩).problemsFrom files
              shared).1 = .ok ofSecond ∧
            ((checker.withReferences (checker.references.withoutEntry outer)).problemsFrom files
              shared).1 = .ok (all.filter (!·.source.entry.same outer)) := by
  have run : (do
      let checker ← Checker.create files (.ofPaths [outer.path, other.path]) config []
      let all ← checker.problems files
      return (all.length, checker.references.table.length)) = .ok (2, 3) :=
    toOption_eq_some_iff.1 (by decide +kernel)
  obtain ⟨checker, created, run⟩ := bind_ok run
  obtain ⟨all, ran, sizes⟩ := bind_ok run
  obtain ⟨problems, classes⟩ := Prod.mk.inj (Except.ok.inj sizes)
  refine ⟨checker, all, created, ran, problems, classes, ?_⟩
  refine Checker.problems_compositional ran (.of_eq ?_) outer
  exact List.take_append_drop 1 checker.references.table

end CompositionSample

end Linkage
