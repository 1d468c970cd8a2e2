import Linkage.Proofs.MethodResolution

/-!
References to constructors that are missing.

Constructors are not inherited, so that only the class that a reference names is searched for one.
All the same, that a constructor is missing is reported only if all supertypes of the class are
known: one that comes with the platform and is not described hides it.
-/

set_option autoImplicit false

namespace Linkage

theorem MethodSymbol.searches_constructor_iff {method : MethodSymbol} {look : Look}
    {target loaded : LoadedClass} (isConstructor : method.name = constructorName) :
    method.Searches look target loaded ↔ loaded = target := by
  simp [Searches, isConstructor]

namespace CheckContext

variable {context : CheckContext} {look : Look} {source : SourceClass} {method : MethodSymbol}
  {target : LoadedClass} {hierarchy : Hierarchy}

private theorem isPolymorphic_constructor (isConstructor : method.name = constructorName) :
    isPolymorphic method = false := by
  simp [isPolymorphic, isConstructor, constructorName]

private theorem mem_candidates_constructor_iff {loaded : LoadedClass}
    (ascends : hierarchy.Ascends look target true) (isConstructor : method.name = constructorName) :
    loaded ∈ (if method.name = constructorName then hierarchy.classes.take 1
      else hierarchy.classes) ↔ method.Searches look target loaded := by
  obtain ⟨above, ⟨rest, starts⟩, _⟩ := ascends.superclasses
  rw [if_pos isConstructor, MethodSymbol.searches_constructor_iff isConstructor, ← starts]
  simp

/-- If a supertype is hidden, nothing is said of a method that no searched class declares. -/
theorem checkMethodIn_of_hidden
    (candidates : ∀ {loaded}, loaded ∈ (if method.name = constructorName
      then hierarchy.classes.take 1 else hierarchy.classes) ↔ method.Searches look target loaded)
    (undeclared : ∀ loaded, method.Searches look target loaded → ¬ loaded.info.Declares method)
    (hidden : hierarchy.isHidden = true) :
    (context.checkMethodIn source method target hierarchy).answer look = .ok none := by
  unfold checkMethodIn
  dsimp only
  rw [declaringMethod?_eq_none_iff.2 fun loaded member =>
    undeclared loaded (candidates.1 member)]
  simp only [hidden, if_true]
  rfl

private theorem checkMethod_of_other_kind (notArray : Text.startsWith method.owner "[" = false)
    (notPolymorphic : isPolymorphic method = false)
    (reaches : context.ReachesOwner look source method.owner target)
    (otherKind : (method.ofInterface != target.info.isInterface) = true) :
    (context.checkMethod source method).answer look =
      .ok (some (source.problem .incompatibleClassChange (.method method) (some target))) := by
  simp only [checkMethod, notArray, notPolymorphic, Bool.or_self, Bool.false_eq_true, if_false]
  rw [Inquiry.answer_bind_of_ok ((Inquiry.answer_find method.owner).trans reaches.found)]
  simp only [checkMethodOf]
  rw [Inquiry.answer_bind_of_ok (checkClassAccess_of_accessible reaches.accessible)]
  simp only [otherKind, if_true]
  rfl

end CheckContext

namespace Checker

section Undeclared

variable {checker : Checker} {fs : FileSystem} {source : SourceClass} {method : MethodSymbol}
  {target : LoadedClass} (isConstructor : method.name = constructorName)
  (reaches : (checker.context fs).Reaches (checker.loader.load fs) source method target)
  (isClass : target.info.isInterface = false)
  (present : target.info.SupertypesPresent (checker.loader.load fs) true)
  (undeclared : ¬ target.info.Declares method)

include isConstructor undeclared in
private theorem undeclared_of_searched {look : Look} (loaded : LoadedClass)
    (searched : method.Searches look target loaded) : ¬ loaded.info.Declares method := by
  rw [(MethodSymbol.searches_constructor_iff isConstructor).1 searched]
  exact undeclared

include reaches isClass present

private theorem exists_checkMethodIn : ∃ hierarchy : Hierarchy,
    (Hierarchy.of (checker.context fs).bound target true).answer (checker.loader.load fs) =
      .ok hierarchy ∧
    hierarchy.Ascends (checker.loader.load fs) target true ∧
    ((checker.context fs).checkMethod source method).answer (checker.loader.load fs) =
      ((checker.context fs).checkMethodIn source method target hierarchy).answer
        (checker.loader.load fs) := by
  obtain ⟨hierarchy, answered, complete, ascends⟩ :=
    Hierarchy.exists_ascending Loader.mem_classNames_of_load (by rw [isClass]; rfl) present
  have found : (Hierarchy.of (checker.context fs).bound target true).answer
      (checker.loader.load fs) = .ok hierarchy := answered
  refine ⟨hierarchy, found, ascends, ?_⟩
  rw [CheckContext.checkMethod_eq_hierarchy reaches, found]
  simp only [bind, Except.bind, complete]

include isConstructor undeclared

private theorem reported_of_undeclared_constructor
    (visible : ∀ name, IsSupertype (checker.loader.load fs) target.info true name →
      checker.loader.load fs name ≠ .ok .system)
    (unguarded : (checker.context fs).Unguarded (checker.loader.load fs) source
      (checker.context fs).memberGuardTypes) :
    (∃ actual, target.info.Varies method actual ∧
      ((checker.context fs).checkMethod source method).answer (checker.loader.load fs) =
        .ok (some (source.problem (.returnTypeChanged actual) (.method method) (some target)))) ∨
    (∀ actual, ¬ target.info.Varies method actual) ∧
      ((checker.context fs).checkMethod source method).answer (checker.loader.load fs) =
        .ok (some (source.problem .symbolNotFound (.method method) (some target))) := by
  obtain ⟨hierarchy, _, ascends, same⟩ := exists_checkMethodIn reaches isClass present
  have known : hierarchy.isHidden = false := by
    apply Bool.eq_false_iff.2
    intro hidden
    obtain ⟨name, above, system⟩ := ascends.hidden hidden
    exact visible name above system
  rw [same]
  rcases CheckContext.checkMethodIn_of_undeclared
      (CheckContext.mem_candidates_constructor_iff ascends isConstructor)
      (undeclared_of_searched isConstructor undeclared) known unguarded with
    ⟨loaded, actual, searched, varies, reported⟩ | ⟨never, reported⟩
  · cases (MethodSymbol.searches_constructor_iff isConstructor).1 searched
    exact .inl ⟨actual, varies, reported⟩
  · refine .inr ⟨fun actual => never target actual ?_, reported⟩
    exact (MethodSymbol.searches_constructor_iff isConstructor).2 rfl

private theorem unreported_of_hidden_supertype (own : target.OwnsName (checker.loader.load fs) true)
    (hidden : ∃ name, IsSupertype (checker.loader.load fs) target.info true name ∧
      checker.loader.load fs name = .ok .system) :
    ((checker.context fs).checkMethod source method).answer (checker.loader.load fs) =
      .ok none := by
  obtain ⟨hierarchy, answered, ascends, same⟩ := exists_checkMethodIn reaches isClass present
  have described := Hierarchy.of_describes Loader.mem_classNames_of_load own answered
  have noted : hierarchy.isHidden = true := by
    obtain ⟨name, above, system⟩ := hidden
    cases above with
    | superclass above => exact described.hidden_complete (.superclass above) system
    | interface above => exact described.hidden_complete (.interface above) system
    | object _ isInterface =>
      rw [isClass] at isInterface
      cases isInterface
  rw [same]
  exact CheckContext.checkMethodIn_of_hidden
    (CheckContext.mem_candidates_constructor_iff ascends isConstructor)
    (undeclared_of_searched isConstructor undeclared) noted

end Undeclared

/-- A reference to a constructor that the class does not declare. It is reported as missing or as
changed in its return type if all supertypes of the class are known, but it passes if one of them
comes with the platform and is not described. If the reference takes the class for an interface,
this is reported instead. Here no supertype is absent, and no handler guards against the error. -/
theorem checkMethod_of_undeclared_constructor {β : Type} (checker : Checker) (fs : FileSystem)
    (earlier : Inquiry β) {source : SourceClass} {method : MethodSymbol} {target : LoadedClass}
    (isConstructor : method.name = constructorName)
    (notArray : Text.startsWith method.owner "[" = false)
    (reaches :
      (checker.context fs).ReachesOwner (checker.loader.load fs) source method.owner target)
    (isClass : target.info.isInterface = false)
    (present : target.info.SupertypesPresent (checker.loader.load fs) true)
    (undeclared : ¬ target.info.Declares method)
    (unguarded : (checker.context fs).Unguarded (checker.loader.load fs) source
      (checker.context fs).memberGuardTypes) :
    let look := checker.loader.load fs
    let repository :=
      (earlier.run fs (.ofCapacity checker.loader checker.cacheCapacity)).2
    let result := (((checker.context fs).checkMethod source method).run fs repository).1
    (method.ofInterface = true →
      result =
        .ok (some (source.problem .incompatibleClassChange (.method method) (some target)))) ∧
    (method.ofInterface = false →
      ((∀ name, IsSupertype look target.info true name → look name ≠ .ok .system) →
        (∃ actual, target.info.Varies method actual ∧ result =
          .ok (some (source.problem (.returnTypeChanged actual) (.method method) (some target)))) ∨
        (∀ actual, ¬ target.info.Varies method actual) ∧
          result = .ok (some (source.problem .symbolNotFound (.method method) (some target)))) ∧
      (target.OwnsName look true →
        (∃ name, IsSupertype look target.info true name ∧ look name = .ok .system) →
        result = .ok none)) := by
  intro look repository result
  have result_eq : result = ((checker.context fs).checkMethod source method).answer look :=
    Inquiry.run_after_eq_answer _ earlier checker.cacheCapacity
  have notPolymorphic := CheckContext.isPolymorphic_constructor isConstructor
  rw [result_eq]
  constructor
  · intro ofInterface
    apply CheckContext.checkMethod_of_other_kind notArray notPolymorphic reaches
    rw [ofInterface, isClass]
    rfl
  · intro ofClass
    have sameKind : (checker.context fs).Reaches look source method target :=
      ⟨reaches, notArray, notPolymorphic, isClass.trans ofClass.symm⟩
    constructor
    · intro visible
      exact reported_of_undeclared_constructor isConstructor sameKind isClass present undeclared
        visible unguarded
    · intro own hidden
      exact unreported_of_hidden_supertype isConstructor sameKind isClass present undeclared own
        hidden

end Checker

/-! Two classes that lack a constructor with a parameter. One extends a class of the platform. -/

namespace ConstructorSample

open LibrarySample

theorem checkMethod_reports_undeclared_constructor :
    let method : MethodSymbol := ⟨"p.D", "<init>", "(I)V", false⟩
    (checker.context files).ReachesOwner (checker.loader.load files) source method.owner
        superclass ∧
      ¬ superclass.info.Declares method ∧
      (((checker.context files).checkMethod source method).run files (afterAsking "p.C")).1 =
        .ok (some (source.problem .symbolNotFound (.method method) (some superclass))) := by
  intro method
  have reaches : (checker.context files).ReachesOwner (checker.loader.load files) source
      method.owner superclass :=
    ⟨load_of_mem (by decide), toOption_eq_some_iff.1 (by decide +kernel)⟩
  have undeclared : ¬ superclass.info.Declares method := by decide
  have within : superclass.info.SupertypesWithin (among [objectClass]) := by decide
  refine ⟨reaches, undeclared, ?_⟩
  obtain ⟨_, ofClass⟩ := Checker.checkMethod_of_undeclared_constructor checker files
    (Inquiry.find "p.C") rfl (by decide) reaches (by decide)
    (ClassInfo.supertypesPresent_of_rows (load_among _) within (by decide)) undeclared unguarded
  rcases (ofClass rfl).1 fun name above => above.visible_of_rows (load_among _) within (by decide)
    with ⟨actual, varies, _⟩ | ⟨_, reported⟩
  · -- The only constructor of the class has other parameters.
    obtain ⟨parameters, part, returned⟩ := CheckContext.actualReturnType?_eq_some_iff.2 varies
    have parameters_eq : Descriptor.parameterPart? method.descriptor = some "(I)" := by decide
    cases Option.some.inj (parameters_eq.symm.trans part)
    have none : CheckContext.actualReturnType? method "(I)" superclass.info = none := by
      decide +kernel
    rw [none] at returned
    cases returned
  · exact reported

/-- The class extends a class of the platform that is not described. -/
theorem checkMethod_overlooks_undeclared_constructor :
    let method : MethodSymbol := ⟨"p.P", "<init>", "(I)V", false⟩
    (checker.context files).ReachesOwner (checker.loader.load files) source method.owner panel ∧
      panel.info.isInterface = false ∧
      panel.info.SupertypesPresent (checker.loader.load files) true ∧
      ¬ panel.info.Declares method ∧
      (checker.context files).Unguarded (checker.loader.load files) source
        (checker.context files).memberGuardTypes ∧
      (((checker.context files).checkMethod source method).run files
          (.ofCapacity checker.loader checker.cacheCapacity)).1 = .ok none := by
  intro method
  refine ⟨⟨load_of_mem (by decide), ?_⟩, by decide, ?_, by decide, unguarded, ?_⟩
  · exact toOption_eq_some_iff.1 (by decide +kernel)
  · exact ClassInfo.supertypesPresent_of_rows load_rows (by decide) (by decide)
  · exact toOption_eq_some_iff.1 (by decide +kernel)

end ConstructorSample

end Linkage
