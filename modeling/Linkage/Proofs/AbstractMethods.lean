import Linkage.Proofs.ClassAccess

/-!
Methods that a class leaves without a body.

A class that is neither abstract nor an interface owes a body for the abstract methods of its
supertypes. If all supertypes are found, exactly the methods that it owes are reported, each of them
once. A superclass of which nothing is known may supply any of them, so nothing is reported then. An
interface of which nothing is known makes no difference, although it may supply them as well.
-/

set_option autoImplicit false

namespace Linkage

private theorem Loader.location_of_load {loader : Loader} {fs : FileSystem} {name : String}
    {loaded : LoadedClass} (found : loader.load fs name = .ok (.found loaded)) :
    loaded.location.className = name := by
  rcases load_found found with ⟨_, read⟩ | ⟨_, read⟩ | ⟨_, _, located⟩
  · obtain ⟨_, _, _, _, _, located⟩ := read
    rw [located]
  · obtain ⟨_, _, _, _, _, located⟩ := read
    rw [located]
  · rw [located]

/-- No two methods of a class share both their name and their descriptor. -/
def ClassInfo.DistinctMethods (info : ClassInfo) : Prop :=
  info.methods.Pairwise fun left right =>
    ¬ (left.name = right.name ∧ left.descriptor = right.descriptor)

instance (info : ClassInfo) : Decidable info.DistinctMethods :=
  inferInstanceAs (Decidable (info.methods.Pairwise _))

/-- Whether a method is a body for another one. -/
def MethodInfo.Implements (body method : MethodInfo) : Prop :=
  body.name = method.name ∧ body.descriptor = method.descriptor ∧ body.access.isAbstract = false

instance (body method : MethodInfo) : Decidable (body.Implements method) :=
  inferInstanceAs (Decidable (_ ∧ _ ∧ _))

/-- Where methods are distinct, the first one with a name and descriptor is the only one. -/
theorem ClassInfo.findMethod?_eq_some_iff {info : ClassInfo} (distinct : info.DistinctMethods)
    {name descriptor : String} {method : MethodInfo} :
    info.findMethod? name descriptor = some method ↔
      method ∈ info.methods ∧ method.name = name ∧ method.descriptor = descriptor := by
  constructor
  · intro first
    have named := List.find?_some first
    simp only [Bool.and_eq_true, beq_iff_eq] at named
    exact ⟨List.mem_of_find?_eq_some first, named⟩
  · intro ⟨member, sameName, sameDescriptor⟩
    unfold DistinctMethods at distinct
    unfold findMethod?
    generalize info.methods = methods at member distinct
    induction methods with
    | nil => cases member
    | cons head rest ih =>
      obtain ⟨apart, distinct⟩ := List.pairwise_cons.1 distinct
      rcases List.mem_cons.1 member with rfl | member
      · simp [sameName, sameDescriptor]
      · have other : ¬ (head.name = name ∧ head.descriptor = descriptor) := by
          rw [← sameName, ← sameDescriptor]
          exact apart method member
        rw [List.find?_cons_of_neg (by simpa using other)]
        exact ih member distinct

/-- A class that is the given one, or one of its supertypes that are found. -/
def LoadedClass.InHierarchyOf (loaded : LoadedClass) (look : Look) (start : LoadedClass) : Prop :=
  loaded = start ∨
    ∃ name, IsSupertype look start.info true name ∧ look name = .ok (.found loaded)

namespace SourceClass

/-- The source as a class of its own hierarchy. -/
def loaded (source : SourceClass) : LoadedClass := ⟨source.info, source.location⟩

/-- A class owes a body for an abstract method of one of its supertypes, if the supertype is one
whose methods are checked, and no class of the hierarchy has a body for the method. -/
structure Owes (look : Look) (systemPackages : List String) (source : SourceClass)
    (declaring : LoadedClass) (method : MethodInfo) : Prop where
  above : ∃ name, IsSupertype look source.info true name ∧ look name = .ok (.found declaring)
  other : declaring ≠ source.loaded
  bodiless : declaring.info.isInterface = true ∨ declaring.info.isAbstract = true
  foreign : declaring.location.entry.same source.location.entry = false
  notSystem : isSystemClass systemPackages declaring.info.name = false
  declared : method ∈ declaring.info.methods
  isAbstract : method.access.isAbstract = true
  notStatic : method.access.isStatic = false
  unimplemented : ∀ loaded : LoadedClass, loaded.InHierarchyOf look source.loaded →
    ∀ body ∈ loaded.info.methods, ¬ body.Implements method

/-- What is reported for a method of a supertype that has no body. -/
def lacks (source : SourceClass) (declaring : LoadedClass) (method : MethodInfo) : Problem :=
  source.problem .abstractMethod (.method ⟨declaring.info.name, method.name, method.descriptor,
    declaring.info.isInterface⟩) (some declaring)

end SourceClass

theorem Hierarchy.Describes.mem_classes_iff {look : Look} {start loaded : LoadedClass}
    {hierarchy : Hierarchy} (describes : hierarchy.Describes look start true) :
    loaded ∈ hierarchy.classes ↔ loaded.InHierarchyOf look start := by
  constructor
  · exact describes.sound loaded
  · intro above
    rcases above with rfl | ⟨name, above, found⟩
    · obtain ⟨rest, starts⟩ := describes.starts
      rw [starts]
      exact List.mem_cons_self
    · exact describes.complete above found

namespace CheckContext

variable {context : CheckContext} {look : Look} {source : SourceClass} {hierarchy : Hierarchy}

private theorem isImplemented_iff {classes : List LoadedClass} {method : MethodInfo}
    (distinct : ∀ loaded ∈ classes, loaded.info.DistinctMethods) :
    isImplemented classes method = true ↔
      ∃ loaded ∈ classes, ∃ body ∈ loaded.info.methods, body.Implements method := by
  unfold isImplemented
  rw [List.any_eq_true]
  refine exists_congr fun loaded => and_congr_right fun member => ?_
  rw [Option.any_eq_true]
  constructor
  · intro ⟨body, first, concrete⟩
    obtain ⟨declared, sameName, sameDescriptor⟩ :=
      (ClassInfo.findMethod?_eq_some_iff (distinct loaded member)).1 first
    exact ⟨body, declared, sameName, sameDescriptor, by simpa using concrete⟩
  · intro ⟨body, declared, sameName, sameDescriptor, concrete⟩
    refine ⟨body, ?_, by simp [concrete]⟩
    exact (ClassInfo.findMethod?_eq_some_iff (distinct loaded member)).2
      ⟨declared, sameName, sameDescriptor⟩

/-- The methods that no class of a hierarchy has a body for, with the classes that declare them. -/
def owed (context : CheckContext) (source : SourceClass) (hierarchy : Hierarchy) :
    List (LoadedClass × MethodInfo) :=
  ((hierarchy.classes.drop 1).filter (context.leavesMethods source)).flatMap fun declaring =>
    (declaring.info.methods.filter fun method =>
      method.needsImplementation && !isImplemented hierarchy.classes method).map (declaring, ·)

private theorem checkAbstractMethods_eq (isClass : source.info.isInterface = false)
    (isConcrete : source.info.isAbstract = false)
    (answered : (Hierarchy.of context.bound source.loaded true).answer look = .ok hierarchy) :
    (context.checkAbstractMethods source).answer look =
      .ok (if hierarchy.missing.isSome || hierarchy.hiddenSuperclass then []
        else (context.owed source hierarchy).map fun pair => source.lacks pair.1 pair.2) := by
  have reported : (context.owed source hierarchy).map (fun pair => source.lacks pair.1 pair.2) =
      ((hierarchy.classes.drop 1).filter (context.leavesMethods source)).flatMap
        (unimplemented source hierarchy.classes) := by
    rw [owed, List.map_flatMap]
    refine congrArg (List.flatMap · _) (funext fun declaring => ?_)
    rw [List.map_map]
    rfl
  unfold checkAbstractMethods
  rw [if_neg (by simp [isClass, isConcrete])]
  unfold SourceClass.loaded at answered
  rw [Inquiry.answer_bind_of_ok answered, reported]
  dsimp only
  split <;> rfl

private theorem leavesMethods_iff {declaring : LoadedClass} :
    context.leavesMethods source declaring = true ↔
      (declaring.info.isInterface = true ∨ declaring.info.isAbstract = true) ∧
      declaring.location.entry.same source.location.entry = false ∧
      isSystemClass context.systemPackages declaring.info.name = false := by
  simp [leavesMethods, and_assoc]

private theorem mem_owed_iff {declaring : LoadedClass} {method : MethodInfo}
    (isClass : source.info.isInterface = false) (isConcrete : source.info.isAbstract = false)
    (describes : hierarchy.Describes look source.loaded true)
    (distinct : ∀ loaded : LoadedClass, loaded.InHierarchyOf look source.loaded →
      loaded.info.DistinctMethods) :
    (declaring, method) ∈ context.owed source hierarchy ↔
      source.Owes look context.systemPackages declaring method := by
  have implemented : isImplemented hierarchy.classes method = true ↔ _ :=
    isImplemented_iff fun loaded member => distinct loaded (describes.mem_classes_iff.1 member)
  obtain ⟨rest, starts⟩ := describes.starts
  have behind : hierarchy.classes.drop 1 = rest := by rw [starts, List.drop_one, List.tail_cons]
  have listed : (declaring, method) ∈ context.owed source hierarchy ↔
      (declaring ∈ rest ∧ context.leavesMethods source declaring = true) ∧
        method ∈ declaring.info.methods ∧ method.needsImplementation = true ∧
        isImplemented hierarchy.classes method = false := by
    simp [owed, behind]
  rw [listed, leavesMethods_iff, MethodInfo.needsImplementation]
  constructor
  · intro ⟨⟨member, bodiless, foreign, notSystem⟩, declared, needs, lacking⟩
    obtain ⟨isAbstract, unstatic⟩ := Bool.and_eq_true_iff.1 needs
    have notStatic : method.access.isStatic = false := by simpa using unstatic
    have other : declaring ≠ source.loaded := by
      intro same
      simp [same, SourceClass.loaded, isClass, isConcrete] at bodiless
    have above := (describes.sound declaring (starts ▸ List.mem_cons_of_mem _ member)).resolve_left
      other
    refine ⟨above, other, bodiless, foreign, notSystem, declared, isAbstract, notStatic, ?_⟩
    intro loaded inHierarchy body declares implements
    have done := implemented.2 ⟨loaded, describes.mem_classes_iff.2 inHierarchy, body, declares,
      implements⟩
    rw [lacking] at done
    cases done
  · intro owes
    have member : declaring ∈ rest := by
      have inClasses := describes.mem_classes_iff.2 (.inr owes.above)
      rw [starts] at inClasses
      exact (List.mem_cons.1 inClasses).resolve_left owes.other
    refine ⟨⟨member, owes.bodiless, owes.foreign, owes.notSystem⟩, owes.declared, ?_, ?_⟩
    · simp [owes.isAbstract, owes.notStatic]
    · rw [Bool.eq_false_iff, ne_eq, implemented]
      intro ⟨loaded, inClasses, body, declares, implements⟩
      exact owes.unimplemented loaded (describes.mem_classes_iff.1 inClasses) body declares
        implements

private theorem owed_nodup
    (apart : ((hierarchy.classes.drop 1).map (·.location.className)).Nodup)
    (distinct : ∀ loaded ∈ hierarchy.classes, loaded.info.DistinctMethods) :
    (context.owed source hierarchy).Nodup := by
  refine List.nodup_flatMap.2 ⟨fun declaring member => ?_, ?_⟩
  · have inClasses := List.mem_of_mem_drop (List.mem_filter.1 member).1
    have methods : declaring.info.methods.Nodup := by
      apply (distinct declaring inClasses).imp
      intro left right different same
      exact different (same ▸ ⟨rfl, rfl⟩)
    exact (methods.filter _).map fun _ _ same => congrArg Prod.snd same
  · have classes := (List.pairwise_map.1 apart).filter (context.leavesMethods source)
    refine classes.imp fun {left right} different => ?_
    intro pair inLeft inRight
    obtain ⟨_, _, rfl⟩ := List.mem_map.1 inLeft
    obtain ⟨_, _, same⟩ := List.mem_map.1 inRight
    exact different (congrArg (·.1.location.className) same.symm)

private theorem hierarchy_of_answer {problems : List Problem} (isClass : source.info.isInterface = false)
    (isConcrete : source.info.isAbstract = false)
    (answered : (context.checkAbstractMethods source).answer look = .ok problems) :
    ∃ hierarchy, (Hierarchy.of context.bound source.loaded true).answer look = .ok hierarchy := by
  unfold checkAbstractMethods at answered
  rw [if_neg (by simp [isClass, isConcrete])] at answered
  obtain ⟨hierarchy, known, _⟩ := Inquiry.answer_bind_ok answered
  exact ⟨hierarchy, known⟩

section Hierarchies

variable (context) (isClass : source.info.isInterface = false)
  (isConcrete : source.info.isAbstract = false) (own : source.loaded.OwnsName look true)
  {names : List String} (listed : ∀ {name loaded}, look name = .ok (.found loaded) → name ∈ names)
  (bound : context.bound = names.length)

include isClass isConcrete own listed bound

/-- The methods that a class owes are reported, each of them once, unless a supertype is absent or
nothing is known of a superclass. -/
theorem exists_owed
    (located : ∀ {name loaded}, look name = .ok (.found loaded) → loaded.location.className = name)
    (present : source.info.SupertypesPresent look true)
    (known : ∀ name, IsSuperclass look source.info name → look name ≠ .ok .system)
    (distinct : ∀ loaded : LoadedClass, loaded.InHierarchyOf look source.loaded →
      loaded.info.DistinctMethods) :
    ∃ pairs : List (LoadedClass × MethodInfo), pairs.Nodup ∧
      (∀ declaring method, (declaring, method) ∈ pairs ↔
        source.Owes look context.systemPackages declaring method) ∧
      (context.checkAbstractMethods source).answer look =
        .ok (pairs.map fun pair => source.lacks pair.1 pair.2) := by
  have plain : (true && source.loaded.info.isInterface) = false := isClass
  obtain ⟨hierarchy, answered, noneMissing, ascends⟩ :=
    Hierarchy.exists_ascending listed plain present
  have describes := Hierarchy.of_describes listed own answered
  have noneHidden : hierarchy.hiddenSuperclass = false := by
    rw [Bool.eq_false_iff]
    intro noted
    obtain ⟨name, above, hidden⟩ := ascends.hiddenSuperclass noted
    exact known name above hidden
  rw [← bound] at answered
  refine ⟨context.owed source hierarchy, ?_, ?_, ?_⟩
  · apply owed_nodup (Hierarchy.of_apart located plain answered)
    exact fun loaded member => distinct loaded (describes.mem_classes_iff.1 member)
  · exact fun declaring method => mem_owed_iff isClass isConcrete describes distinct
  · rw [checkAbstractMethods_eq isClass isConcrete answered]
    simp [noneMissing, noneHidden]

section Hidden

variable {name : String} (above : IsSuperclass look source.info name)
  (hidden : look name = .ok .system)

include above hidden

/-- A superclass of which nothing is known may have a body for every method. -/
theorem answer_of_hiddenSuperclass
    (answered : (Hierarchy.of context.bound source.loaded true).answer look = .ok hierarchy) :
    (context.checkAbstractMethods source).answer look = .ok [] := by
  rw [checkAbstractMethods_eq isClass isConcrete answered]
  rw [bound] at answered
  have plain : (true && source.loaded.info.isInterface) = false := isClass
  have noted : hierarchy.hiddenSuperclass = true :=
    Hierarchy.of_hiddenSuperclass listed plain own answered above hidden
  rw [noted, Bool.or_true, if_pos rfl]

private theorem eq_nil_of_hiddenSuperclass {problems : List Problem}
    (answered : (context.checkAbstractMethods source).answer look = .ok problems) :
    problems = [] := by
  obtain ⟨hierarchy, known⟩ := hierarchy_of_answer isClass isConcrete answered
  rw [answer_of_hiddenSuperclass context isClass isConcrete own listed bound above hidden known]
    at answered
  exact (Except.ok.inj answered).symm

private theorem answer_eq_nil_of_known
    (known : ∀ name, IsSupertype look source.info true name → ∃ lookup, look name = .ok lookup) :
    (context.checkAbstractMethods source).answer look = .ok [] := by
  have looked : ∀ {name}, IsSupertype look source.loaded.info true name →
      ∃ lookup, look name = .ok lookup := fun {name} => known name
  obtain ⟨hierarchy, answered⟩ := Hierarchy.of_answers listed looked
  rw [← bound] at answered
  exact answer_of_hiddenSuperclass context isClass isConcrete own listed bound above hidden answered

end Hidden

end Hierarchies

end CheckContext

namespace Checker

/-- If all supertypes of a class are found, exactly the methods that it owes are reported, each of
them once. A supertype that goes by the name that the class declares must be the class. -/
theorem checkAbstractMethods_exact {β : Type} (checker : Checker) (fs : FileSystem)
    (earlier : Inquiry β) {source : SourceClass} (isClass : source.info.isInterface = false)
    (isConcrete : source.info.isAbstract = false)
    (own : source.loaded.OwnsName (checker.loader.load fs) true)
    (found : ∀ name, IsSupertype (checker.loader.load fs) source.info true name →
      ∃ loaded, checker.loader.load fs name = .ok (.found loaded))
    (distinct : ∀ loaded : LoadedClass,
      loaded.InHierarchyOf (checker.loader.load fs) source.loaded → loaded.info.DistinctMethods) :
    let look := checker.loader.load fs
    let repository :=
      (earlier.run fs (.ofCapacity checker.loader checker.cacheCapacity)).2
    ∃ pairs : List (LoadedClass × MethodInfo), pairs.Nodup ∧
      (∀ declaring method, (declaring, method) ∈ pairs ↔
        source.Owes look checker.loader.systemPackages declaring method) ∧
      (((checker.context fs).checkAbstractMethods source).run fs repository).1 =
        .ok (pairs.map fun pair => source.lacks pair.1 pair.2) := by
  intro look repository
  rw [Inquiry.run_after_eq_answer _ earlier checker.cacheCapacity]
  apply CheckContext.exists_owed (checker.context fs) isClass isConcrete own
    Loader.mem_classNames_of_load rfl Loader.location_of_load ?_ ?_ distinct
  · intro name above
    obtain ⟨loaded, known⟩ := found name above
    exact ⟨.found loaded, known, ClassLookup.noConfusion⟩
  · intro name above hidden
    obtain ⟨loaded, known⟩ := found name (.superclass above)
    rw [hidden] at known
    cases known

/-- Supertypes of which nothing is known. With such a superclass no method is reported. With such
interfaces only, exactly the methods are reported that the class owes as far as its supertypes are
found. -/
theorem checkAbstractMethods_of_hidden {β : Type} (checker : Checker) (fs : FileSystem)
    (earlier : Inquiry β) {source : SourceClass} (isClass : source.info.isInterface = false)
    (isConcrete : source.info.isAbstract = false)
    (own : source.loaded.OwnsName (checker.loader.load fs) true) :
    let look := checker.loader.load fs
    let repository :=
      (earlier.run fs (.ofCapacity checker.loader checker.cacheCapacity)).2
    let result := (((checker.context fs).checkAbstractMethods source).run fs repository).1
    ((∃ name, IsSuperclass look source.info name ∧ look name = .ok .system) →
      (∀ problems, result = .ok problems → problems = []) ∧
      ((∀ name, IsSupertype look source.info true name → ∃ lookup, look name = .ok lookup) →
        result = .ok [])) ∧
    ((∀ name, IsSuperclass look source.info name → look name ≠ .ok .system) →
      source.info.SupertypesPresent look true →
      (∀ loaded : LoadedClass, loaded.InHierarchyOf look source.loaded →
        loaded.info.DistinctMethods) →
      ∃ problems, result = .ok problems ∧ ∀ problem, problem ∈ problems ↔
        ∃ declaring method, source.Owes look checker.loader.systemPackages declaring method ∧
          problem = source.lacks declaring method) := by
  intro look repository result
  have result_eq : result = ((checker.context fs).checkAbstractMethods source).answer look :=
    Inquiry.run_after_eq_answer _ earlier checker.cacheCapacity
  rw [result_eq]
  constructor
  · intro ⟨name, above, hidden⟩
    constructor
    · intro problems
      exact CheckContext.eq_nil_of_hiddenSuperclass (checker.context fs) isClass isConcrete own
        Loader.mem_classNames_of_load rfl above hidden
    · exact CheckContext.answer_eq_nil_of_known (checker.context fs) isClass isConcrete own
        Loader.mem_classNames_of_load rfl above hidden
  · intro known present distinct
    obtain ⟨pairs, _, owed, answered⟩ := CheckContext.exists_owed (checker.context fs) isClass
      isConcrete own Loader.mem_classNames_of_load rfl Loader.location_of_load present known
      distinct
    refine ⟨_, answered, fun problem => ?_⟩
    rw [List.mem_map]
    constructor
    · intro ⟨pair, member, same⟩
      exact ⟨pair.1, pair.2, (owed _ _).1 member, same.symm⟩
    · intro ⟨declaring, method, owes, same⟩
      exact ⟨(declaring, method), (owed _ _).2 owes, same.symm⟩

end Checker

theorem LoadedClass.InHierarchyOf.mem_rows {look : Look} {start loaded : LoadedClass}
    {rows : List (String × ClassLookup)} (looked : ∀ row ∈ rows, look row.1 = .ok row.2)
    (within : start.info.SupertypesWithin rows) (above : loaded.InHierarchyOf look start) :
    loaded ∈ start :: rows.filterMap (·.2.found?) := by
  rcases above with rfl | ⟨name, above, found⟩
  · exact List.mem_cons_self
  · obtain ⟨lookup, member, known⟩ := above.mem_rows looked within
    rw [found] at known
    cases known
    exact List.mem_cons_of_mem _ (List.mem_filterMap.2 ⟨_, member, rfl⟩)

/-! An interface with two methods, of which a class implements one. -/

namespace ImplementationSample

open LibrarySample

def first : MethodInfo := ⟨"m", "()V", Platform.publicAbstract, false, []⟩

def second : MethodInfo := ⟨"n", "()V", Platform.publicAbstract, false, []⟩

section Sources

variable {name superName : String} {interfaces : List String}
  (within : (sourceOf name superName interfaces).info.SupertypesWithin rows)

include within

theorem distinct_of_inHierarchy (loaded : LoadedClass)
    (above : loaded.InHierarchyOf (checker.loader.load files)
      (sourceOf name superName interfaces).loaded) : loaded.info.DistinctMethods := by
  have distinct : ∀ loaded ∈ rows.filterMap (·.2.found?), loaded.info.DistinctMethods := by
    decide
  rcases List.mem_cons.1 (above.mem_rows load_rows within) with rfl | member
  · exact List.Pairwise.nil
  · exact distinct loaded member

/-- No class has a body for the second method. -/
theorem owes_second
    (above : IsSuperinterface (checker.loader.load files) (sourceOf name superName interfaces).info
      "p.I") :
    (sourceOf name superName interfaces).Owes (checker.loader.load files)
      checker.loader.systemPackages contract second where
  above := ⟨"p.I", .interface above, load_of_mem (by decide)⟩
  other := fun same => absurd (congrArg (·.location.entry) same)
    (by decide : archive ≠ .ofPath ⟨"s.jar"⟩)
  bodiless := by decide
  foreign := (by decide : archive.same (.ofPath ⟨"s.jar"⟩) = false)
  notSystem := by decide
  declared := by decide
  isAbstract := by decide
  notStatic := by decide
  unimplemented := by
    intro loaded inHierarchy
    have bodiless : ∀ loaded ∈ rows.filterMap (·.2.found?), ∀ body ∈ loaded.info.methods,
        ¬ body.Implements second := by
      decide
    rcases List.mem_cons.1 (inHierarchy.mem_rows load_rows within) with rfl | member
    · exact fun body none => absurd none List.not_mem_nil
    · exact bodiless loaded member

end Sources

/-- The superclass has a body for one of the methods, and the other one is reported. -/
theorem checkAbstractMethods_reports_second_method :
    let source := sourceOf "a.T" "p.F" ["p.I"]
    ∃ pairs : List (LoadedClass × MethodInfo), pairs.Nodup ∧
      (contract, second) ∈ pairs ∧ (contract, first) ∉ pairs ∧
      (((checker.context files).checkAbstractMethods source).run files (afterAsking "p.B")).1 =
        .ok (pairs.map fun pair => source.lacks pair.1 pair.2) := by
  intro source
  have within : source.loaded.info.SupertypesWithin rows := by decide
  have foundWithin : source.loaded.info.SupertypesWithin (among ["p.F", "p.I", objectClass]) := by
    decide
  obtain ⟨pairs, nodup, owed, result⟩ := Checker.checkAbstractMethods_exact checker files
    (Inquiry.find "p.B") (by decide) (by decide)
    (LoadedClass.ownsName_of_rows load_rows within (by decide))
    (fun _ above => above.found_of_rows (load_among _) foundWithin (by decide))
    (distinct_of_inHierarchy within)
  refine ⟨pairs, nodup, (owed _ _).2 (owes_second within (.direct (by decide))), ?_, result⟩
  intro member
  have inHierarchy : base.InHierarchyOf (checker.loader.load files) source.loaded :=
    .inr ⟨"p.F", .superclass (.direct rfl), load_of_mem (by decide)⟩
  exact ((owed _ _).1 member).unimplemented base inHierarchy ⟨"m", "()V", .public, true, []⟩
    (by decide) (by decide)

/-- The superclass `a.S` of `p.A` is overlooked in the hierarchy of another class of its name, and
so is the interface that it implements. -/
theorem checkAbstractMethods_overlooks_namesake :
    let look := checker.loader.load files
    let source := sourceOf "a.S" "p.A" []
    (source.info.isInterface = false ∧ source.info.isAbstract = false) ∧
      (∀ name, IsSupertype look source.info true name → ∃ loaded, look name = .ok (.found loaded)) ∧
      (∀ loaded : LoadedClass, loaded.InHierarchyOf look source.loaded →
        loaded.info.DistinctMethods) ∧
      source.Owes look checker.loader.systemPackages contract second ∧
      (((checker.context files).checkAbstractMethods source).run files
        (.ofCapacity checker.loader checker.cacheCapacity)).1 = .ok [] := by
  intro look source
  have within : source.info.SupertypesWithin rows := by decide
  have foundWithin :
      source.info.SupertypesWithin (among ["a.S", "p.A", "p.I", objectClass]) := by
    decide
  have above : IsSuperclass look source.info "a.S" :=
    .above (.direct rfl) (load_rows ("p.A", .found partly) (by decide)) rfl
  refine ⟨by decide, fun _ above => above.found_of_rows (load_among _) foundWithin (by decide),
    distinct_of_inHierarchy within, ?_, toOption_eq_some_iff.1 (by decide +kernel)⟩
  exact owes_second within (.ofSuperclass above
    (load_rows ("a.S", .found namesake) (by decide)) (by decide))

/-- Nothing is reported below a superclass of which nothing is known, and the method is reported
below such an interface. -/
theorem checkAbstractMethods_passes_over_hidden_superclass :
    let result := fun source : SourceClass =>
      (((checker.context files).checkAbstractMethods source).run files (afterAsking "p.I")).1
    let other := sourceOf "a.T" "p.F" ["java.util.List", "p.I"]
    result (sourceOf "a.T" "java.awt.Panel" ["p.I"]) = .ok [] ∧
      ∃ problems, result other = .ok problems ∧ other.lacks contract second ∈ problems := by
  intro result other
  constructor
  · have within : (sourceOf "a.T" "java.awt.Panel" ["p.I"]).loaded.info.SupertypesWithin rows := by
      decide
    obtain ⟨hidden, _⟩ := Checker.checkAbstractMethods_of_hidden checker files (Inquiry.find "p.I")
      (by decide) (by decide) (LoadedClass.ownsName_of_rows load_rows within (by decide))
    apply (hidden ⟨"java.awt.Panel", .direct rfl, load_of_mem (by decide)⟩).2
    exact fun name above => (above.mem_rows load_rows within).imp fun _ => And.right
  · have within : other.loaded.info.SupertypesWithin rows := by decide
    obtain ⟨_, reported⟩ := Checker.checkAbstractMethods_of_hidden checker files
      (Inquiry.find "p.I") (by decide) (by decide)
      (LoadedClass.ownsName_of_rows load_rows within (by decide))
    have known : ∀ name, IsSuperclass (checker.loader.load files) other.info name →
        checker.loader.load files name ≠ .ok .system := by
      -- The interfaces that the class names itself lie on no path along superclasses.
      have within : (sourceOf "a.T" "p.F" []).info.SupertypesWithin
          (among ["p.F", "p.I", objectClass]) := by
        decide
      intro name above
      exact IsSuperclass.visible_of_rows (load_among _) within (by decide) (above.of_superName rfl)
    obtain ⟨problems, answered, owed⟩ := reported known
      (ClassInfo.supertypesPresent_of_rows load_rows within (by decide))
      (distinct_of_inHierarchy within)
    exact ⟨problems, answered, (owed _).2 ⟨contract, second,
      owes_second within (.direct (by decide)), rfl⟩⟩

/-- Nothing is known of `java.util.List`, which may have a body for the method, and still the method
is reported. -/
theorem checkAbstractMethods_reports_despite_hidden_interface :
    let look := checker.loader.load files
    let source := sourceOf "a.T" "p.F" ["java.util.List", "p.I"]
    (source.info.isInterface = false ∧ source.info.isAbstract = false) ∧
      IsSupertype look source.info true "java.util.List" ∧ look "java.util.List" = .ok .system ∧
      (((checker.context files).checkAbstractMethods source).run files
        (.ofCapacity checker.loader checker.cacheCapacity)).1 =
        .ok [source.lacks contract second] := by
  intro look source
  refine ⟨by decide, .interface (.direct (by decide)), load_of_mem (by decide), ?_⟩
  exact toOption_eq_some_iff.1 (by decide +kernel)

end ImplementationSample

end Linkage
