import Linkage.Check.Checker
import Linkage.Proofs.Ordered
import Linkage.Proofs.Repository
import Linkage.Proofs.Supertypes

/-!
From the findings of single checks to the problems of a class path.

A run goes through classes and symbols and inserts what it finds into one set. Nothing is lost on
the way except to a problem that compares equal, and nothing else gets in.
-/

set_option autoImplicit false

namespace Linkage

namespace Checker

/-- A set of problems that has grown by some findings. -/
structure Grows (problems : List Problem) (found : Problem → Prop) (final : List Problem) :
    Prop where
  kept : problems ⊆ final
  sound : ∀ problem ∈ final, problem ∈ problems ∨ found problem
  complete : ∀ problem, found problem → ∃ other ∈ final, compare problem other = .eq

theorem Grows.refl (problems : List Problem) : Grows problems (fun _ => False) problems where
  kept := List.Subset.refl _
  sound := fun _ member => .inl member
  complete := fun _ found => found.elim

theorem Grows.trans {problems middle final : List Problem} {found more : Problem → Prop}
    (first : Grows problems found middle) (second : Grows middle more final) :
    Grows problems (fun problem => found problem ∨ more problem) final where
  kept := List.Subset.trans first.kept second.kept
  sound := by
    intro problem member
    rcases second.sound problem member with earlier | new
    · exact (first.sound problem earlier).imp_right .inl
    · exact .inr (.inr new)
  complete := by
    rintro problem (earlier | new)
    · obtain ⟨other, member, same⟩ := first.complete problem earlier
      exact ⟨other, second.kept member, same⟩
    · exact second.complete problem new

theorem Grows.congr {problems final : List Problem} {found same : Problem → Prop}
    (grows : Grows problems found final) (iff : ∀ problem, found problem ↔ same problem) :
    Grows problems same final where
  kept := grows.kept
  sound := fun problem member => (grows.sound problem member).imp_right (iff problem).1
  complete := fun problem new => grows.complete problem ((iff problem).2 new)

private theorem insert_grows (problem : Problem) (problems : List Problem) :
    Grows problems (· = problem) (Ordered.insert problem problems) where
  kept := Ordered.subset_insert problem problems
  sound := fun _ member => (Ordered.mem_insert member).symm
  complete := by
    rintro _ rfl
    exact Ordered.exists_mem_insert _ problems

private theorem addProblem_grows (problems : List Problem) (problem : Option Problem) :
    Grows problems (fun new => problem = some new) (addProblem problems problem) := by
  cases problem with
  | none => exact (Grows.refl problems).congr fun _ => by simp
  | some problem => exact (insert_grows problem problems).congr fun _ => by simp [eq_comm]

theorem insertAll_grows (problems new : List Problem) :
    Grows problems (· ∈ new)
      (new.foldl (fun set problem => Ordered.insert problem set) problems) := by
  induction new generalizing problems with
  | nil => exact (Grows.refl problems).congr fun _ => by simp
  | cons problem rest ih =>
    exact ((insert_grows problem problems).trans (ih _)).congr fun _ => by simp

section Run

variable {context : CheckContext} {look : Look} {source : SourceClass} {own : List String}

/-- What the checks of the symbols of a class find. -/
def FindsAt (context : CheckContext) (look : Look) (source : SourceClass) (own : List String)
    (symbols : List Symbol) (problem : Problem) : Prop :=
  ∃ symbol ∈ symbols, symbol.className ∉ own ∧
    (context.checkSymbol source symbol).answer look = .ok (some problem)

private theorem addSymbols_ok {symbols : List Symbol} {problems final : List Problem}
    (answered : (addSymbols context source own problems symbols).answer look = .ok final) :
    Grows problems (FindsAt context look source own symbols) final ∧
      ∀ symbol ∈ symbols, symbol.className ∉ own →
        ∃ result, (context.checkSymbol source symbol).answer look = .ok result := by
  induction symbols generalizing problems with
  | nil =>
    cases answered
    exact ⟨(Grows.refl final).congr fun _ => by simp [FindsAt], by simp⟩
  | cons symbol rest ih =>
    unfold addSymbols at answered
    split at answered
    · next contained =>
      have skipped : ¬ symbol.className ∉ own := fun absent =>
        absent (List.contains_iff_mem.1 contained)
      obtain ⟨grows, answers⟩ := ih answered
      refine ⟨grows.congr fun _ => by simp [FindsAt, skipped], ?_⟩
      simpa [skipped] using answers
    · next uncontained =>
      have foreign : symbol.className ∉ own := fun member =>
        uncontained (List.contains_iff_mem.2 member)
      obtain ⟨result, checked, answered⟩ := Inquiry.answer_bind_ok answered
      obtain ⟨grows, answers⟩ := ih answered
      refine ⟨((addProblem_grows problems result).trans grows).congr fun _ => ?_, ?_⟩
      · simp [FindsAt, foreign, checked]
      · simpa [foreign, checked] using answers

/-- What the checks of a class find. -/
def Finds (context : CheckContext) (look : Look) (source : SourceClass) (symbols : List Symbol)
    (problem : Problem) : Prop :=
  (∃ own, source.location.entry.classNames context.fs = .ok own ∧
      FindsAt context look source own symbols problem) ∨
    ∃ abstract, (context.checkAbstractMethods source).answer look = .ok abstract ∧
      problem ∈ abstract

private theorem addSource_ok {symbols : List Symbol} {problems final : List Problem}
    (answered : (addSource context source symbols problems).answer look = .ok final) :
    Grows problems (Finds context look source symbols) final ∧
      ∃ own, source.location.entry.classNames context.fs = .ok own ∧
        ∀ symbol ∈ symbols, symbol.className ∉ own →
          ∃ result, (context.checkSymbol source symbol).answer look = .ok result := by
  obtain ⟨own, listed, answered⟩ := Inquiry.answer_bind_ok answered
  obtain ⟨middle, added, answered⟩ := Inquiry.answer_bind_ok answered
  obtain ⟨abstract, checked, answered⟩ := Inquiry.answer_bind_ok answered
  cases answered
  have listed : source.location.entry.classNames context.fs = .ok own := listed
  obtain ⟨grows, answers⟩ := addSymbols_ok added
  refine ⟨(grows.trans (insertAll_grows middle abstract)).congr fun _ => ?_, own, listed, answers⟩
  simp [Finds, listed, checked]

/-- What the checks of the classes of a table find. -/
def FindsAmong (context : CheckContext) (look : Look) (table : List (ClassLocation × List Symbol))
    (problem : Problem) : Prop :=
  ∃ row ∈ table, ∃ info, (context.loadSource row.1).answer look = .ok (some info) ∧
    Finds context look ⟨row.1, info⟩ row.2 problem

/-- All checks of a class have been made. -/
def Checked (context : CheckContext) (look : Look) (row : ClassLocation × List Symbol) : Prop :=
  ∃ found, (context.loadSource row.1).answer look = .ok found ∧ ∀ info, found = some info →
    ∃ own, row.1.entry.classNames context.fs = .ok own ∧
      ∀ symbol ∈ row.2, symbol.className ∉ own →
        ∃ result, (context.checkSymbol ⟨row.1, info⟩ symbol).answer look = .ok result

private theorem addAll_ok {table : List (ClassLocation × List Symbol)} {problems final : List Problem}
    (answered : (addAll context problems table).answer look = .ok final) :
    Grows problems (FindsAmong context look table) final ∧
      ∀ row ∈ table, Checked context look row := by
  induction table generalizing problems with
  | nil =>
    cases answered
    exact ⟨(Grows.refl final).congr fun _ => by simp [FindsAmong], by simp⟩
  | cons row rest ih =>
    unfold addAll at answered
    obtain ⟨found, loaded, answered⟩ := Inquiry.answer_bind_ok answered
    cases found with
    | none =>
      obtain ⟨grows, checked⟩ := ih answered
      refine ⟨grows.congr fun _ => by simp [FindsAmong, loaded], ?_⟩
      exact List.forall_mem_cons.2 ⟨⟨none, loaded, by simp⟩, checked⟩
    | some info =>
      obtain ⟨middle, added, answered⟩ := Inquiry.answer_bind_ok answered
      obtain ⟨first, own, listed, answers⟩ := addSource_ok added
      obtain ⟨grows, checked⟩ := ih answered
      refine ⟨(first.trans grows).congr fun _ => by simp [FindsAmong, loaded], ?_⟩
      refine List.forall_mem_cons.2 ⟨⟨some info, loaded, ?_⟩, checked⟩
      rintro _ ⟨⟩
      exact ⟨own, listed, answers⟩

end Run

/-- A run without rules gives the findings of all checks, and has made all of them. -/
theorem problems_ok {checker : Checker} {fs : FileSystem} {problems : List Problem}
    (noRules : checker.rules = []) (ran : checker.problems fs = .ok problems) :
    Grows [] (FindsAmong (checker.context fs) (checker.loader.load fs) checker.references.table)
        problems ∧
      ∀ row ∈ checker.references.table,
        Checked (checker.context fs) (checker.loader.load fs) row := by
  obtain ⟨found, ran, same⟩ := map_ok ran
  have unfiltered : found.filter (!ExclusionRule.excludes checker.rules ·) = found := by
    rw [noRules]
    exact List.filter_eq_self.2 fun _ _ => rfl
  rw [unfiltered] at same
  cases same
  rw [(Inquiry.run_eq_answer _ (Repository.ofCapacity_follows fs checker.loader _)).1] at ran
  exact addAll_ok ran

/-- Whatever rules there are, a run gives nothing but findings of its checks. -/
theorem findsAmong_of_mem {checker : Checker} {fs : FileSystem} {problems : List Problem}
    {problem : Problem} (ran : checker.problems fs = .ok problems) (member : problem ∈ problems) :
    FindsAmong (checker.context fs) (checker.loader.load fs) checker.references.table problem := by
  obtain ⟨found, answered, same⟩ := map_ok ran
  subst same
  rw [(Inquiry.run_eq_answer _ (Repository.ofCapacity_follows fs checker.loader _)).1] at answered
  have inFound := (List.mem_filter.1 member).1
  exact ((addAll_ok answered).1.sound problem inFound).resolve_left List.not_mem_nil

end Checker

end Linkage
