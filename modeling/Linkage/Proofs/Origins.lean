import Linkage.Proofs.Findings
import Linkage.Proofs.Guards

/-!
Where problems come from.

A check of a symbol reports a class that is absent, the symbol itself, or the class that the symbol
leads to, under the name that this class declares. So a problem is about a class that is absent,
about a class that was found, or about a member, and this holds of whole runs.
-/

set_option autoImplicit false

namespace Linkage

/-- Where a problem comes from: a class that is absent, a class that was found, or a member. -/
inductive Problem.Origin (look : Look) (problem : Problem) : Prop where
  | absent {name : String} (unknown : look name = .ok .notFound)
      (kind : problem.kind = .classNotFound) (symbol : problem.symbol = .class name)
  | present {name : String} {loaded : LoadedClass} (found : look name = .ok (.found loaded))
      (kind : problem.kind ≠ .classNotFound)
      (symbol : problem.symbol = .class name ∨ problem.symbol = .class loaded.info.name)
  | member (kind : problem.kind ≠ .classNotFound) (symbol : ∀ name, problem.symbol ≠ .class name)

/-- What a check of a symbol reports. The classes around a class and its supertypes count only if
they are absent. -/
inductive Problem.Concerns (look : Look) (symbol : Symbol) (problem : Problem) : Prop where
  | absent {name : String} (unknown : look name = .ok .notFound)
      (kind : problem.kind = .classNotFound) (about : problem.symbol = .class name)
  | itself {loaded : LoadedClass} (found : look symbol.className = .ok (.found loaded))
      (kind : problem.kind ≠ .classNotFound) (about : problem.symbol = symbol.normalized)
  | declared {loaded : LoadedClass} (found : look symbol.className = .ok (.found loaded))
      (kind : problem.kind = .inaccessibleClass) (about : problem.symbol = .class loaded.info.name)
      (location : problem.target = some loaded.location)

private theorem Symbol.normalized_of_isClassReference {symbol : Symbol}
    (isClass : symbol.isClassReference = true) : symbol.normalized = .class symbol.className := by
  cases symbol with
  | «class» name => rfl
  | superClass name => rfl
  | superInterface name => rfl
  | method method => cases isClass
  | field field => cases isClass

private theorem Symbol.normalized_ne_class {symbol : Symbol} (isMember : symbol.isClassReference = false)
    (name : String) : symbol.normalized ≠ .class name := by
  intro same
  cases symbol with
  | «class» name => cases isMember
  | superClass name => cases isMember
  | superInterface name => cases isMember
  | method method => cases same
  | field field => cases same

theorem Problem.Concerns.origin {look : Look} {symbol : Symbol} {problem : Problem}
    (concerns : problem.Concerns look symbol) : problem.Origin look := by
  cases concerns with
  | absent unknown kind about => exact .absent unknown kind about
  | itself found kind about =>
    cases isClass : symbol.isClassReference with
    | true =>
      exact .present found kind (.inl (about.trans (Symbol.normalized_of_isClassReference isClass)))
    | false =>
      refine .member kind fun name same => ?_
      exact Symbol.normalized_ne_class isClass name (about.symm.trans same)
  | declared found kind about _ => exact .present found (by simp [kind]) (.inr about)

namespace CheckContext

section Concerns

variable {context : CheckContext} {look : Look} {source : SourceClass} {symbol : Symbol}
  {target : LoadedClass} {problem : Problem}

theorem classNotFound_concerns {className : String} (unknown : look className = .ok .notFound)
    (answered : (context.classNotFound source className).answer look = .ok (some problem)) :
    problem.Concerns look symbol := by
  rcases classNotFound_ok answered with none | same
  · cases none
  · cases same
    exact .absent unknown rfl rfl

private theorem classAccessWithin_missing {bound levels : Nat} {info target : ClassInfo} {outer : String}
    (answered : (classAccessWithin bound info levels target).answer look =
      .ok (.missingEnclosing outer)) : look outer = .ok .notFound := by
  induction levels generalizing target with
  | zero => cases answered
  | succ levels ih =>
    obtain ⟨isOpen, _, answered⟩ := Inquiry.answer_bind_ok answered
    cases isOpen with
    | false => cases answered
    | true =>
      rw [if_pos rfl] at answered
      split at answered
      · cases answered
      · split at answered
        · cases answered
        · obtain ⟨lookup, known, answered⟩ := Inquiry.answer_find_bind_ok answered
          cases lookup with
          | found loaded => exact ih answered
          | system => cases answered
          | notFound =>
            cases answered
            exact known

section Found

variable (found : look symbol.className = .ok (.found target))

include found

theorem checkClassAccess_concerns
    (answered : (context.checkClassAccess source target).answer look = .ok (some problem)) :
    problem.Concerns look symbol := by
  obtain ⟨access, accessed, answered⟩ := Inquiry.answer_bind_ok answered
  cases access with
  | accessible => cases answered
  | inaccessible =>
    cases answered
    exact .declared found rfl rfl rfl
  | missingEnclosing outer =>
    exact classNotFound_concerns (classAccessWithin_missing accessed) answered

theorem problem_concerns {kind : ProblemKind} {other : Option LoadedClass}
    (isKnown : kind ≠ .classNotFound) :
    (source.problem kind symbol other).Concerns look symbol :=
  .itself found isKnown rfl

private theorem checkMemberAccess_concerns {declaring : LoadedClass} {access : Access}
    (answered : (context.checkMemberAccess source symbol declaring access).answer look =
      .ok (some problem)) : problem.Concerns look symbol := by
  obtain ⟨accessible, _, answered⟩ := Inquiry.answer_bind_ok answered
  cases accessible with
  | true => cases answered
  | false =>
    cases answered
    exact problem_concerns found (by simp)

private theorem symbolNotFound_concerns {owner : LoadedClass}
    (answered : (context.symbolNotFound source symbol owner).answer look = .ok (some problem)) :
    problem.Concerns look symbol := by
  rcases symbolNotFound_ok answered with none | same
  · cases none
  · cases same
    exact problem_concerns found (by simp)

end Found

private theorem checkMethodIn_concerns {method : MethodSymbol} {hierarchy : Hierarchy}
    (found : look method.owner = .ok (.found target))
    (answered : (context.checkMethodIn source method target hierarchy).answer look =
      .ok (some problem)) : problem.Concerns look (.method method) := by
  unfold checkMethodIn at answered
  dsimp only at answered
  split at answered
  · exact checkMemberAccess_concerns found answered
  · split at answered
    · cases answered
    · split at answered
      · cases answered
        exact problem_concerns found (by simp)
      · exact symbolNotFound_concerns found answered

section Hierarchies

variable {names : List String}
  (listed : ∀ {name loaded}, look name = .ok (.found loaded) → name ∈ names)
  (bound : context.bound = names.length)

include listed bound

private theorem hierarchy_concerns {withObject : Bool} {hierarchy : Hierarchy} {missing : String}
    (computed : (Hierarchy.of context.bound target withObject).answer look = .ok hierarchy)
    (lacks : hierarchy.missing = some missing)
    (answered : (context.classNotFound source missing).answer look = .ok (some problem)) :
    problem.Concerns look symbol := by
  rw [bound] at computed
  exact classNotFound_concerns (Hierarchy.of_missing listed computed lacks) answered

private theorem checkMethod_concerns {method : MethodSymbol}
    (answered : (context.checkMethod source method).answer look = .ok (some problem)) :
    problem.Concerns look (.method method) := by
  unfold checkMethod at answered
  split at answered
  · cases answered
  · obtain ⟨lookup, known, answered⟩ := Inquiry.answer_find_bind_ok answered
    cases lookup with
    | system => cases answered
    | notFound => exact classNotFound_concerns known answered
    | found target =>
      obtain ⟨access, accessed, answered⟩ := Inquiry.answer_bind_ok answered
      cases access with
      | some other =>
        cases answered
        exact checkClassAccess_concerns known accessed
      | none =>
        dsimp only at answered
        split at answered
        · cases answered
          exact problem_concerns known (by simp)
        · obtain ⟨hierarchy, computed, answered⟩ := Inquiry.answer_bind_ok answered
          split at answered
          · next lacks => exact hierarchy_concerns listed bound computed lacks answered
          · exact checkMethodIn_concerns known answered

private theorem checkField_concerns {field : FieldSymbol}
    (answered : (context.checkField source field).answer look = .ok (some problem)) :
    problem.Concerns look (.field field) := by
  obtain ⟨lookup, known, answered⟩ := Inquiry.answer_find_bind_ok answered
  cases lookup with
  | system => cases answered
  | notFound => exact classNotFound_concerns known answered
  | found target =>
    obtain ⟨access, accessed, answered⟩ := Inquiry.answer_bind_ok answered
    cases access with
    | some other =>
      cases answered
      exact checkClassAccess_concerns known accessed
    | none =>
      obtain ⟨hierarchy, computed, answered⟩ := Inquiry.answer_bind_ok answered
      split at answered
      · next lacks => exact hierarchy_concerns listed bound computed lacks answered
      · split at answered
        · exact checkMemberAccess_concerns known answered
        · split at answered
          · cases answered
          · exact symbolNotFound_concerns known answered

omit listed bound in
theorem checkClass_concerns
    (answered : (context.checkClass source symbol).answer look = .ok (some problem)) :
    problem.Concerns look symbol := by
  obtain ⟨lookup, known, answered⟩ := Inquiry.answer_find_bind_ok answered
  cases lookup with
  | system => cases answered
  | notFound =>
    dsimp only at answered
    split at answered
    · cases answered
    · exact classNotFound_concerns known answered
  | found target =>
    dsimp only at answered
    split at answered
    · cases answered
      exact problem_concerns known (by simp)
    · exact checkClassAccess_concerns known answered

theorem checkSymbol_concerns
    (answered : (context.checkSymbol source symbol).answer look = .ok (some problem)) :
    problem.Concerns look symbol := by
  cases symbol with
  | «class» name => exact checkClass_concerns answered
  | superClass name => exact checkClass_concerns answered
  | superInterface name => exact checkClass_concerns answered
  | method method => exact checkMethod_concerns listed bound answered
  | field field => exact checkField_concerns listed bound answered

omit listed bound in
theorem checkAbstractMethods_ok {abstract : List Problem}
    (answered : (context.checkAbstractMethods source).answer look = .ok abstract)
    (member : problem ∈ abstract) :
    ∃ (declaring : LoadedClass) (method : MethodInfo),
      context.leavesMethods source declaring = true ∧
      problem = source.problem .abstractMethod (.method ⟨declaring.info.name, method.name,
        method.descriptor, declaring.info.isInterface⟩) (some declaring) := by
  unfold checkAbstractMethods at answered
  split at answered
  · cases answered
    cases member
  · obtain ⟨hierarchy, _, answered⟩ := Inquiry.answer_bind_ok answered
    dsimp only at answered
    split at answered
    · cases answered
      cases member
    · cases answered
      obtain ⟨declaring, leaves, member⟩ := List.mem_flatMap.1 member
      obtain ⟨method, _, same⟩ := List.mem_map.1 member
      exact ⟨declaring, method, (List.mem_filter.1 leaves).2, same.symm⟩

/-- Every finding has an origin. -/
theorem findsAmong_origin {table : List (ClassLocation × List Symbol)}
    (finds : Checker.FindsAmong context look table problem) : problem.Origin look := by
  obtain ⟨row, _, info, _, found⟩ := finds
  rcases found with ⟨_, _, symbol, _, _, answered⟩ | ⟨abstract, answered, member⟩
  · exact (checkSymbol_concerns listed bound answered).origin
  · obtain ⟨declaring, method, _, rfl⟩ := checkAbstractMethods_ok answered member
    exact .member (by simp [SourceClass.problem, Problem.of]) fun _ same => by cases same

end Hierarchies

end Concerns

end CheckContext

end Linkage
