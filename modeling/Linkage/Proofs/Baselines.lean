import Linkage.ClassFile.Draft
import Linkage.Proofs.EntryOrder
import Linkage.Proofs.WrittenRules

/-!
A written baseline covers the problems it was written for, and hardly more.

A problem is covered if a problem of the baseline has the same target, or the class of its target,
and comes from the same class or the outermost class around it. So a class path has no problems left
under a baseline of all its problems.
-/

set_option autoImplicit false

namespace Linkage

open Std (LawfulEqOrd TransOrd TransCmp)
open Markup (IsPlain)

/-- Whether a rule for one symbol covers another one. A rule for a class covers its members too. -/
inductive Symbol.Covers : Symbol → Symbol → Prop where
  | ofClass {symbol other : Symbol} (isClass : symbol.isClassReference = true)
      (same : other.className = symbol.className) : Covers symbol other
  | ofMethod {method other : MethodSymbol} (owner : other.owner = method.owner)
      (name : other.name = method.name) : Covers (.method method) (.method other)
  | ofField {field other : FieldSymbol} (owner : other.owner = field.owner)
      (name : other.name = field.name) : Covers (.field field) (.field other)

private theorem Symbol.matcher_of_isClassReference {symbol : Symbol}
    (isClass : symbol.isClassReference = true) : symbol.matcher = .class symbol.className := by
  cases symbol with
  | method method => cases isClass
  | field field => cases isClass
  | «class» name | superClass name | superInterface name => rfl

private theorem Symbol.matchesTarget_iff {symbol other : Symbol} :
    symbol.matcher.matchesTarget other = true ↔ symbol.Covers other := by
  constructor
  · intro matched
    cases symbol with
    | method method =>
      cases other with
      | method other =>
        obtain ⟨owner, name⟩ := Bool.and_eq_true_iff.1 matched
        exact .ofMethod (beq_iff_eq.1 owner) (beq_iff_eq.1 name)
      | field other | «class» name | superClass name | superInterface name => cases matched
    | field field =>
      cases other with
      | field other =>
        obtain ⟨owner, name⟩ := Bool.and_eq_true_iff.1 matched
        exact .ofField (beq_iff_eq.1 owner) (beq_iff_eq.1 name)
      | method other | «class» name | superClass name | superInterface name => cases matched
    | «class» name | superClass name | superInterface name =>
      exact .ofClass rfl (beq_iff_eq.1 matched)
  · intro covers
    cases covers with
    | ofClass isClass same =>
      rw [Symbol.matcher_of_isClassReference isClass]
      exact beq_iff_eq.2 same
    | ofMethod owner name => simp [Symbol.matcher, Matcher.matchesTarget, owner, name]
    | ofField owner name => simp [Symbol.matcher, Matcher.matchesTarget, owner, name]

private theorem Suppression.covers_iff {problem other : Problem} :
    (Suppression.ofProblem problem).rule.covers other = true ↔
      problem.symbol.Covers other.symbol ∧
        (problem.source.className = other.source.className ∨
          problem.source.className = topLevelName other.source.className) := by
  simp only [Suppression.rule, Suppression.ofProblem, ExclusionRule.covers, ExclusionRule.of,
    Option.all_some, List.any_cons, List.any_nil, Bool.or_false, Bool.and_eq_true,
    Symbol.matchesTarget_iff, Matcher.matchesSource, ClassLocation.topLevel, Bool.or_eq_true,
    beq_iff_eq]
  rw [and_comm, eq_comm, @eq_comm _ (topLevelName _)]

private theorem Suppression.excludes_iff {problems : List Problem} {suppressions : List Suppression}
    (stated : ∀ suppression, suppression ∈ suppressions ↔
      ∃ problem ∈ problems, suppression = Suppression.ofProblem problem) (other : Problem) :
    ExclusionRule.excludes (suppressions.map Suppression.rule) other = true ↔
      ∃ problem ∈ problems, problem.symbol.Covers other.symbol ∧
        (problem.source.className = other.source.className ∨
          problem.source.className = topLevelName other.source.className) := by
  rw [ExclusionRule.excludes, List.any_map, List.any_eq_true]
  constructor
  · intro excluded
    obtain ⟨suppression, member, covers⟩ := excluded
    obtain ⟨problem, isProblem, rfl⟩ := (stated suppression).1 member
    exact ⟨problem, isProblem, Suppression.covers_iff.1 covers⟩
  · intro covered
    obtain ⟨problem, isProblem, covers⟩ := covered
    exact ⟨_, (stated _).2 ⟨problem, isProblem, rfl⟩, Suppression.covers_iff.2 covers⟩

theorem Symbol.Covers.refl (symbol : Symbol) : symbol.Covers symbol := by
  cases symbol with
  | method method => exact .ofMethod rfl rfl
  | field field => exact .ofField rfl rfl
  | «class» name | superClass name | superInterface name => exact .ofClass rfl rfl

namespace Checker

variable {fs : FileSystem} {resolved : ResolvedClasspath} {config : CheckerConfig}
  {rules : List ExclusionRule} {checker : Checker}

/-- The checker of the same class path with further rules. -/
def withRules (checker : Checker) (more : List ExclusionRule) : Checker :=
  { checker with rules := checker.rules ++ more }

private theorem create_withRules (more : List ExclusionRule)
    (created : create fs resolved config rules = .ok checker) :
    create fs resolved config (rules ++ more) = .ok (checker.withRules more) := by
  obtain ⟨filled, references, seeds, extracted, listed, rfl⟩ := create_iff.1 created
  exact create_iff.2 ⟨filled, references, seeds, extracted, listed, rfl⟩

/-- Further rules take away what they cover. -/
theorem problems_withRules (checker : Checker) (fs : FileSystem) (more : List ExclusionRule) :
    (checker.withRules more).problems fs =
      (checker.problems fs).map fun problems =>
        problems.filter (!ExclusionRule.excludes more ·) := by
  have kept : ∀ problems : List Problem,
      problems.filter (!ExclusionRule.excludes (checker.rules ++ more) ·) =
        (problems.filter (!ExclusionRule.excludes checker.rules ·)).filter
          (!ExclusionRule.excludes more ·) := by
    intro problems
    rw [List.filter_filter]
    refine List.filter_congr fun problem _ => ?_
    rw [ExclusionRule.excludes, List.any_append, Bool.not_or, Bool.and_comm]
    rfl
  rw [problems_eq_answered, problems_eq_answered]
  unfold answered
  change Except.map _ ((checker.inquiry fs).answer (checker.loader.load fs)) = _
  cases (checker.inquiry fs).answer (checker.loader.load fs) with
  | error error => rfl
  | ok found => exact congrArg Except.ok (kept found)

end Checker

theorem ExclusionWriter.WrittenRule.order_eq_iff (first second : WrittenRule) :
    first.order second = .eq ↔ first = second := by
  cases first
  cases second
  simp [order]

instance : LawfulEqOrd ExclusionWriter.WrittenRule :=
  lawfulEqOrd_of_iff ExclusionWriter.WrittenRule.order_eq_iff

instance : TransOrd ExclusionWriter.WrittenRule :=
  inferInstanceAs (TransCmp (compareLex (compareOn ExclusionWriter.WrittenRule.target)
    (compareOn ExclusionWriter.WrittenRule.source)))

private theorem exists_map_eq {α β : Type} {f : α → β} {items : List α} {images : List β}
    (each : ∀ image ∈ images, image ∈ items.map f) :
    ∃ chosen, chosen ⊆ items ∧ chosen.map f = images := by
  induction images with
  | nil => exact ⟨[], List.nil_subset items, rfl⟩
  | cons image images ih =>
    obtain ⟨first, follow⟩ := List.forall_mem_cons.1 each
    obtain ⟨item, member, rfl⟩ := List.mem_map.1 first
    obtain ⟨chosen, isChosen, rfl⟩ := ih follow
    exact ⟨item :: chosen, List.cons_subset.2 ⟨member, isChosen⟩, rfl⟩

def Symbol.memberName? : Symbol → Option String
  | .method symbol => some symbol.name
  | .field symbol => some symbol.name
  | _ => none

/-- The names that are written for a problem. -/
def Problem.names (problem : Problem) : List String :=
  problem.source.className :: problem.symbol.className :: problem.symbol.memberName?.toList

private theorem Suppression.plain_ofProblem {problem : Problem}
    (plain : ∀ name ∈ problem.names, ∀ c ∈ name.toList, IsPlain c) :
    (ofProblem problem).Plain := by
  obtain ⟨source, target⟩ := List.forall_mem_cons.1 plain
  constructor
  · intro assignment member
    refine target assignment.value ?_
    cases shape : problem.symbol <;>
      simp only [ofProblem, shape, Symbol.matcher, Matcher.assignments, List.mem_cons,
        List.not_mem_nil, or_false] at member
    case method | field =>
      rcases member with rfl | rfl <;> simp [Symbol.className, Symbol.memberName?]
    all_goals
      cases member
      simp [Symbol.className]
  · intro assignment member
    cases List.mem_singleton.1 member
    exact source

namespace ExclusionWriter

/-- Some problems stand for all in a baseline, one for each target and source class. -/
theorem exists_chosen {problems : List Problem}
    (plain : ∀ problem ∈ problems, (Suppression.ofProblem problem).Plain) :
    ∃ chosen ⊆ problems, render problems = document (chosen.map WrittenRule.ofProblem) ∧
      (chosen.map Suppression.ofProblem).Nodup ∧
      ∀ suppression, suppression ∈ chosen.map Suppression.ofProblem ↔
        ∃ problem ∈ problems, suppression = Suppression.ofProblem problem := by
  obtain ⟨chosen, isChosen, written⟩ :=
    exists_map_eq (f := WrittenRule.ofProblem) fun rule => Ordered.mem_ofList_iff.1
  refine ⟨chosen, isChosen, by rw [written]; rfl, ?_, ?_⟩
  · have distinct := (Ordered.sorted_ofList (problems.map WrittenRule.ofProblem)).nodup
    rw [← written, List.Nodup, List.pairwise_map] at distinct
    refine List.pairwise_map.2 (distinct.imp_of_mem ?_)
    intro first second member member' different same
    exact different ((ofProblem_eq_iff (plain first (isChosen member))
      (plain second (isChosen member'))).2 same)
  · intro suppression
    constructor
    · intro member
      obtain ⟨problem, isProblem, rfl⟩ := List.mem_map.1 member
      exact ⟨problem, isChosen isProblem, rfl⟩
    · intro stated
      obtain ⟨problem, member, rfl⟩ := stated
      have kept : WrittenRule.ofProblem problem ∈ chosen.map WrittenRule.ofProblem := by
        rw [written]
        exact Ordered.mem_ofList_iff.2 (List.mem_map_of_mem member)
      obtain ⟨other, isOther, same⟩ := List.mem_map.1 kept
      rw [← (ofProblem_eq_iff (plain other (isChosen isOther)) (plain problem member)).1 same]
      exact List.mem_map_of_mem isOther

/-- A baseline is read back as one rule for each target and source class of its problems. Its rules
cover the problems with such a target, or with a member of such a class, from such a class or from a
class nested in it. So a class path has no problems left under the baseline of all its problems. -/
theorem baseline_exact (problems : List Problem)
    (plain : ∀ problem ∈ problems, ∀ name ∈ problem.names, ∀ c ∈ name.toList, IsPlain c) :
    ∃ suppressions : List Suppression, suppressions.Nodup ∧
      (∀ suppression, suppression ∈ suppressions ↔
        ∃ problem ∈ problems, suppression = Suppression.ofProblem problem) ∧
      ExclusionReader.parse (render problems) = .ok (suppressions.map Suppression.rule) ∧
      (∀ other, ExclusionRule.excludes (suppressions.map Suppression.rule) other = true ↔
        ∃ problem ∈ problems, problem.symbol.Covers other.symbol ∧
          (problem.source.className = other.source.className ∨
            problem.source.className = topLevelName other.source.className)) ∧
      ∀ fs resolved config rules checker,
        Checker.create fs resolved config rules = .ok checker →
        checker.problems fs = .ok problems →
        ∃ silenced, Checker.create fs resolved config
            (rules ++ suppressions.map Suppression.rule) = .ok silenced ∧
          silenced.problems fs = .ok [] := by
  have writable : ∀ problem ∈ problems, (Suppression.ofProblem problem).Plain :=
    fun problem member => Suppression.plain_ofProblem (plain problem member)
  obtain ⟨chosen, isChosen, rendered, distinct, stated⟩ := exists_chosen writable
  refine ⟨chosen.map Suppression.ofProblem, distinct, stated, ?_,
    Suppression.excludes_iff stated, ?_⟩
  · rw [rendered, parse_document fun problem member => writable problem (isChosen member),
      List.map_map]
    rfl
  · intro fs resolved config rules checker created ran
    refine ⟨_, Checker.create_withRules _ created, ?_⟩
    rw [Checker.problems_withRules, ran]
    refine congrArg Except.ok (List.filter_eq_nil_iff.2 ?_)
    intro problem member
    simp only [Bool.not_eq_true, Bool.not_eq_false']
    exact (Suppression.excludes_iff stated problem).2
      ⟨problem, member, .refl problem.symbol, .inl rfl⟩

end ExclusionWriter

namespace BaselineSample

/-- A class names an absent class, and two methods of the same name that a class does not have. -/
def files : FileSystem := .ofNodes [
  (⟨false, ["s.jar"]⟩, .archive [
    ⟨"a/S.class", ((((ClassDraft.ofClass "a.S").declare (.invokes "b.T" "go<&>" "()V")).declare
      (.invokes "b.T" "go<&>" "()I")).declare (.referencesClass "x.\"G")).build⟩]),
  (⟨false, ["t.jar"]⟩, .archive [⟨"b/T.class", (ClassDraft.ofClass "b.T").build⟩])]

def classpath : ResolvedClasspath := .ofPaths [⟨"s.jar"⟩, ⟨"t.jar"⟩]

def config : CheckerConfig := { CheckerConfig.default none with systemPackages := ["java."] }

def suppressionsOf (problems : List Problem) : List Suppression :=
  problems.map Suppression.ofProblem

def namesOf (problems : List Problem) : List String := problems.flatMap Problem.names

/-- Two rules cover the three problems. -/
theorem baseline_of_overloads :
    ∃ (checker : Checker) (problems : List Problem) (suppressions : List Suppression)
      (silenced : Checker),
      Checker.create files classpath config [] = .ok checker ∧
      checker.problems files = .ok problems ∧ problems.length = 3 ∧
      (∀ suppression, suppression ∈ suppressions ↔
        suppression = ⟨.class "x.\"G", "a.S"⟩ ∨ suppression = ⟨.method "b.T" "go<&>", "a.S"⟩) ∧
      suppressions.Nodup ∧
      ExclusionReader.parse (ExclusionWriter.render problems) =
        .ok (suppressions.map Suppression.rule) ∧
      Checker.create files classpath config (suppressions.map Suppression.rule) = .ok silenced ∧
      silenced.problems files = .ok [] := by
  have run : (do
      let checker ← Checker.create files classpath config []
      let problems ← checker.problems files
      return (suppressionsOf problems, namesOf problems)) =
        .ok ([⟨.class "x.\"G", "a.S"⟩, ⟨.method "b.T" "go<&>", "a.S"⟩,
            ⟨.method "b.T" "go<&>", "a.S"⟩],
          ["a.S", "x.\"G", "a.S", "b.T", "go<&>", "a.S", "b.T", "go<&>"]) :=
    toOption_eq_some_iff.1 (by decide +kernel)
  obtain ⟨checker, created, run⟩ := bind_ok run
  obtain ⟨problems, ran, listed⟩ := bind_ok run
  obtain ⟨targets, names⟩ := Prod.mk.inj (Except.ok.inj listed)
  have plain : ((namesOf problems).all fun name =>
      name.toList.all fun c => decide (IsPlain c)) = true := by
    rw [names]
    decide
  obtain ⟨suppressions, distinct, stated, parsed, _, silences⟩ :=
    ExclusionWriter.baseline_exact problems fun problem member name isName =>
      Markup.isPlain_of_all
        (List.all_eq_true.1 plain name (List.mem_flatMap.2 ⟨problem, member, isName⟩))
  obtain ⟨silenced, created', silent⟩ := silences files classpath config [] checker created ran
  have size : problems.length = 3 := by
    have := congrArg List.length targets
    rwa [suppressionsOf, List.length_map] at this
  refine ⟨checker, problems, suppressions, silenced, created, ran, size, ?_, distinct, parsed,
    created', silent⟩
  intro suppression
  have member : suppression ∈ suppressions ↔ suppression ∈ suppressionsOf problems := by
    rw [stated, suppressionsOf, List.mem_map]
    simp only [eq_comm]
  rw [member, targets]
  simp

end BaselineSample

end Linkage
