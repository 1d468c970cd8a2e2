import Linkage.Proofs.MethodResolution

/-!
Which references to fields resolve.

A field is searched by its name in a class and its superclasses, from the bottom up, and the first
one that is found decides. Its type is not compared with that of the reference. Interfaces are
passed over, and so are the fields of the class that a reference names if it is an interface.
-/

set_option autoImplicit false

namespace Linkage

/-- The first field of a name that a class offers to a search. Interfaces offer none. -/
def LoadedClass.field? (loaded : LoadedClass) (name : String) : Option FieldInfo :=
  if loaded.info.isInterface then none else loaded.info.findField? name

/-- The first field of a name on the way up from a class. -/
inductive NearestField (look : Look) (name : String) :
    LoadedClass → LoadedClass → FieldInfo → Prop where
  | here {loaded : LoadedClass} {member : FieldInfo} (offered : loaded.field? name = some member) :
      NearestField look name loaded loaded member
  | above {lower upper declaring : LoadedClass} {member : FieldInfo}
      (passed : lower.field? name = none) (superclass : DirectSuperclass look lower upper)
      (nearest : NearestField look name upper declaring member) :
      NearestField look name lower declaring member

/-- The classes that are searched for fields: a class and those of its supertypes that can be found,
unless they are interfaces. -/
def SearchedForFields (look : Look) (target loaded : LoadedClass) : Prop :=
  loaded.info.isInterface = false ∧ (loaded = target ∨
    ∃ name, IsSupertype look target.info false name ∧ look name = .ok (.found loaded))

private theorem ClassInfo.findField?_eq_none_iff {info : ClassInfo} {name : String} :
    info.findField? name = none ↔ ∀ member ∈ info.fields, member.name ≠ name := by
  simp [findField?, List.find?_eq_none]

namespace LoadedClass

variable {loaded : LoadedClass} {name : String} {member : FieldInfo}

private theorem field?_of_class (isClass : loaded.info.isInterface = false) :
    loaded.field? name = loaded.info.findField? name := by
  simp [field?, isClass]

theorem field?_eq_some_iff : loaded.field? name = some member ↔
    loaded.info.isInterface = false ∧ loaded.info.findField? name = some member := by
  cases isInterface : loaded.info.isInterface <;> simp [field?, isInterface]

end LoadedClass

/-- Along a chain of superclasses that ends only where one has been met before, a search finds the
nearest field, as long as it has found none up to the class where the way begins. -/
theorem findSome?_of_nearest {look : Look} {name : String} {chain before after : List LoadedClass}
    {loaded declaring : LoadedClass} {member : FieldInfo}
    (linked : chain.IsChain (DirectSuperclass look))
    (closed : ∀ lower ∈ chain, ∀ upper, DirectSuperclass look lower upper → upper ∈ chain)
    (split : chain = before ++ loaded :: after)
    (passed : ∀ other ∈ before, other.field? name = none)
    (nearest : NearestField look name loaded declaring member) :
    chain.findSome? (fun other => (other.field? name).map fun member => (other, member)) =
      some (declaring, member) := by
  induction nearest generalizing before after with
  | here offered =>
    refine List.findSome?_eq_some_iff.2 ⟨before, _, after, split, by simp [offered], ?_⟩
    intro other member
    simp [passed other member]
  | @above lower upper declaring member skipped superclass nearest ih =>
    have passedLower : ∀ other ∈ before ++ [lower], other.field? name = none := by
      intro other isBefore
      rcases List.mem_append.1 isBefore with earlier | same
      · exact passed other earlier
      · rw [List.mem_singleton.1 same]
        exact skipped
    cases after with
    | nil =>
      -- The way goes on in a class that the search has passed already.
      have again : upper ∈ chain := closed lower (by simp [split]) upper superclass
      obtain ⟨earlier, later, again⟩ := List.append_of_mem again
      refine ih again fun other isEarlier => passedLower other ?_
      rw [← split, again]
      exact List.mem_append_left _ isEarlier
    | cons next after =>
      rw [split] at linked
      have follows := (List.isChain_append_cons_cons.1 linked).2.1
      cases follows.unique superclass
      have moved : chain = (before ++ [lower]) ++ upper :: after := by simp [split]
      exact ih moved passedLower

namespace CheckContext

section Search

variable {look : Look} {target declaring : LoadedClass} {hierarchy : Hierarchy} {name : String}
  {member : FieldInfo}

theorem declaringField?_superclasses (hierarchy : Hierarchy) (name : String) :
    declaringField? hierarchy.superclasses name =
      hierarchy.classes.findSome? fun other =>
        (other.field? name).map fun member => (other, member) := by
  unfold declaringField? Hierarchy.superclasses
  induction hierarchy.classes with
  | nil => rfl
  | cons loaded rest ih =>
    cases isInterface : loaded.info.isInterface with
    | true =>
      rw [List.filter_cons_of_neg (by simp [isInterface]), List.findSome?_cons, ih]
      simp [LoadedClass.field?, isInterface]
    | false =>
      rw [List.filter_cons_of_pos (by simp [isInterface]), List.findSome?_cons,
        List.findSome?_cons, ih, LoadedClass.field?_of_class isInterface]

variable (ascends : hierarchy.Ascends look target false)

include ascends

private theorem declaringField?_of_nearest (own : target.OwnsName look false)
    (nearest : NearestField look name target declaring member) :
    declaringField? hierarchy.superclasses name = some (declaring, member) := by
  obtain ⟨above, isPrefix, linked, closed⟩ := ascends.superclasses
  rw [declaringField?_superclasses]
  apply isPrefix.findSome?_eq_some
  exact findSome?_of_nearest linked (closed own) (List.nil_append _).symm
    (fun _ none => absurd none List.not_mem_nil) nearest

private theorem declaringField?_of_own (offered : target.field? name = some member) :
    declaringField? hierarchy.superclasses name = some (target, member) := by
  obtain ⟨above, isPrefix, _⟩ := ascends.superclasses
  rw [declaringField?_superclasses]
  apply isPrefix.findSome?_eq_some
  simp [offered]

private theorem searched_of_declaringField?
    (found : declaringField? hierarchy.superclasses name = some (declaring, member)) :
    SearchedForFields look target declaring ∧ declaring.info.findField? name = some member := by
  rw [declaringField?_superclasses] at found
  obtain ⟨other, isListed, offered⟩ := List.exists_of_findSome?_eq_some found
  obtain ⟨_, offered, same⟩ := Option.map_eq_some_iff.1 offered
  cases same
  obtain ⟨isClass, first⟩ := LoadedClass.field?_eq_some_iff.1 offered
  exact ⟨⟨isClass, ascends.classes _ isListed⟩, first⟩

end Search

section Check

variable {context : CheckContext} {look : Look} {source : SourceClass} {field : FieldSymbol}
  {target declaring : LoadedClass} {hierarchy : Hierarchy} {member : FieldInfo}

private theorem checkMemberAccess_of_ok {symbol : Symbol} {access : Access} {accessible : Bool}
    (answered : (memberAccessible context.bound source.info declaring.info access).answer look =
      .ok accessible) :
    (context.checkMemberAccess source symbol declaring access).answer look =
      .ok (if accessible then none
        else some (source.problem .inaccessibleMember symbol (some declaring))) := by
  unfold checkMemberAccess
  rw [Inquiry.answer_bind_of_ok answered]
  cases accessible <;> rfl

/-- A field of a class that a reference reaches is searched along the superclasses, provided that no
supertype is missing. -/
theorem checkField_eq_search (reaches : context.ReachesOwner look source field.owner target)
    (answered : (Hierarchy.of context.bound target false).answer look = .ok hierarchy)
    (complete : hierarchy.missing = none) :
    (context.checkField source field).answer look =
      match declaringField? hierarchy.superclasses field.name with
      | some (declaring, member) =>
        (context.checkMemberAccess source (.field field) declaring member.access).answer look
      | none =>
        if hierarchy.hiddenSuperclass then .ok none
        else (context.symbolNotFound source (.field field) target).answer look := by
  unfold checkField
  rw [Inquiry.answer_bind_of_ok ((Inquiry.answer_find field.owner).trans reaches.found)]
  simp only [checkFieldOf]
  rw [Inquiry.answer_bind_of_ok (checkClassAccess_of_accessible reaches.accessible)]
  dsimp only
  rw [Inquiry.answer_bind_of_ok answered]
  simp only [complete]
  cases declaringField? hierarchy.superclasses field.name with
  | some found => rfl
  | none => cases hierarchy.hiddenSuperclass <;> rfl

end Check

end CheckContext

namespace Checker

section Fields

variable {checker : Checker} {fs : FileSystem} {source : SourceClass} {field : FieldSymbol}
  {target declaring : LoadedClass} {member : FieldInfo} {accessible : Bool}
  (reaches : (checker.context fs).ReachesOwner (checker.loader.load fs) source field.owner target)
  (present : target.info.SupertypesPresent (checker.loader.load fs) false)

include reaches present

private theorem checkField_of_found
    (found : ∀ {hierarchy : Hierarchy}, hierarchy.Ascends (checker.loader.load fs) target false →
      CheckContext.declaringField? hierarchy.superclasses field.name = some (declaring, member))
    (access : (memberAccessible (checker.context fs).bound source.info declaring.info
      member.access).answer (checker.loader.load fs) = .ok accessible) :
    ((checker.context fs).checkField source field).answer (checker.loader.load fs) =
      .ok (if accessible then none
        else some (source.problem .inaccessibleMember (.field field) (some declaring))) := by
  obtain ⟨hierarchy, answered, complete, ascends⟩ :=
    Hierarchy.exists_ascending Loader.mem_classNames_of_load rfl present
  rw [CheckContext.checkField_eq_search reaches answered complete, found ascends]
  exact CheckContext.checkMemberAccess_of_ok access

variable (visible : ∀ name, IsSuperclass (checker.loader.load fs) target.info name →
    checker.loader.load fs name ≠ .ok .system)
  (unguarded : (checker.context fs).Unguarded (checker.loader.load fs) source
    (checker.context fs).memberGuardTypes)

include visible unguarded

private theorem checkField_found_or_missing :
    (∃ declaring member, SearchedForFields (checker.loader.load fs) target declaring ∧
      declaring.info.findField? field.name = some member ∧
      ((checker.context fs).checkField source field).answer (checker.loader.load fs) =
        ((checker.context fs).checkMemberAccess source (.field field) declaring
          member.access).answer (checker.loader.load fs)) ∨
    ((checker.context fs).checkField source field).answer (checker.loader.load fs) =
      .ok (some (source.problem .symbolNotFound (.field field) (some target))) := by
  obtain ⟨hierarchy, answered, complete, ascends⟩ :=
    Hierarchy.exists_ascending Loader.mem_classNames_of_load rfl present
  have known : hierarchy.hiddenSuperclass = false := by
    apply Bool.eq_false_iff.2
    intro hidden
    obtain ⟨name, above, system⟩ := ascends.hiddenSuperclass hidden
    exact visible name above system
  rw [CheckContext.checkField_eq_search reaches answered complete]
  cases found : CheckContext.declaringField? hierarchy.superclasses field.name with
  | some found' =>
    obtain ⟨searched, first⟩ := CheckContext.searched_of_declaringField? ascends found
    exact .inl ⟨found'.1, found'.2, searched, first, rfl⟩
  | none =>
    rw [known]
    exact .inr (CheckContext.symbolNotFound_of_unguarded unguarded)

private theorem checkField_of_unoffered
    (undeclared : ∀ loaded, SearchedForFields (checker.loader.load fs) target loaded →
      ∀ member ∈ loaded.info.fields, member.name ≠ field.name) :
    ((checker.context fs).checkField source field).answer (checker.loader.load fs) =
      .ok (some (source.problem .symbolNotFound (.field field) (some target))) := by
  rcases checkField_found_or_missing reaches present visible unguarded with found | missing
  · obtain ⟨declaring, member, searched, first, _⟩ := found
    rw [ClassInfo.findField?_eq_none_iff.2 (undeclared declaring searched)] at first
    cases first
  · exact missing

private theorem accessible_of_unreported
    (unreported : ((checker.context fs).checkField source field).answer (checker.loader.load fs) =
      .ok none) :
    ∃ declaring member, SearchedForFields (checker.loader.load fs) target declaring ∧
      declaring.info.findField? field.name = some member ∧
      (memberAccessible (checker.context fs).bound source.info declaring.info
        member.access).answer (checker.loader.load fs) = .ok true := by
  rcases checkField_found_or_missing reaches present visible unguarded with found | missing
  · obtain ⟨declaring, member, searched, first, same⟩ := found
    rw [same] at unreported
    obtain ⟨accessible, access, result⟩ := Inquiry.answer_bind_ok unreported
    cases accessible with
    | true => exact ⟨declaring, member, searched, first, access⟩
    | false => cases result
  · rw [missing] at unreported
    cases unreported

end Fields

/-- A reference to a field that the class itself declares as public, with the type that the
reference names. In a class, the first field with the name decides, also if it has another type: the
check passes if that one is public too. The fields of an interface are not found at all. -/
theorem checkField_of_declared_public {β : Type} (checker : Checker) (fs : FileSystem)
    (earlier : Inquiry β) {source : SourceClass} {field : FieldSymbol} {target : LoadedClass}
    (reaches : (checker.context fs).ReachesOwner (checker.loader.load fs) source field.owner target)
    (present : target.info.SupertypesPresent (checker.loader.load fs) false)
    (declared : ∃ member ∈ target.info.fields, member.name = field.name ∧
      member.descriptor = field.descriptor ∧ member.access.isPublic = true) :
    let look := checker.loader.load fs
    let repository :=
      (earlier.run fs (.ofCapacity checker.loader checker.cacheCapacity)).2
    let result := (((checker.context fs).checkField source field).run fs repository).1
    (target.info.isInterface = false → ∃ first, target.info.findField? field.name = some first ∧
      (first.access.isPublic = true → result = .ok none) ∧
      ∀ accessible, (memberAccessible (checker.context fs).bound source.info target.info
          first.access).answer look = .ok accessible →
        result = .ok (if accessible then none
          else some (source.problem .inaccessibleMember (.field field) (some target)))) ∧
    (target.info.isInterface = true →
      (∀ loaded, SearchedForFields look target loaded →
        ∀ member ∈ loaded.info.fields, member.name ≠ field.name) →
      (∀ name, IsSuperclass look target.info name → look name ≠ .ok .system) →
      (checker.context fs).Unguarded look source (checker.context fs).memberGuardTypes →
      result = .ok (some (source.problem .symbolNotFound (.field field) (some target)))) := by
  intro look repository result
  have result_eq : result = ((checker.context fs).checkField source field).answer look :=
    Inquiry.run_after_eq_answer _ earlier checker.cacheCapacity
  constructor
  · intro isClass
    obtain ⟨member, isMember, named, _⟩ := declared
    cases first : target.info.findField? field.name with
    | none => exact absurd named (ClassInfo.findField?_eq_none_iff.1 first member isMember)
    | some first' =>
      have offered := (LoadedClass.field?_of_class isClass).trans first
      have decides : ∀ accessible, (memberAccessible (checker.context fs).bound source.info
          target.info first'.access).answer look = .ok accessible →
          result = .ok (if accessible then none
            else some (source.problem .inaccessibleMember (.field field) (some target))) := by
        intro accessible access
        apply result_eq.trans
        apply checkField_of_found reaches present ?_ access
        intro hierarchy ascends
        exact CheckContext.declaringField?_of_own ascends offered
      refine ⟨first', rfl, fun isPublic => ?_, decides⟩
      exact decides true (by simp [memberAccessible, isPublic])
  · intro _ undeclared visible unguarded
    exact result_eq.trans (checkField_of_unoffered reaches present visible unguarded undeclared)

end Checker

/-! Fields of one name and different types, in one class, in a superclass and in an interface. -/

namespace FieldSample

open LibrarySample

/-- The first field of the class has the name, but it is private. -/
theorem checkField_reports_private_overload :
    let field : FieldSymbol := ⟨"p.E", "f", "I"⟩
    (checker.context files).ReachesOwner (checker.loader.load files) source field.owner overloaded ∧
      (((checker.context files).checkField source field).run files (afterAsking "p.D")).1 =
        .ok (some (source.problem .inaccessibleMember (.field field) (some overloaded))) := by
  intro field
  have reaches : (checker.context files).ReachesOwner (checker.loader.load files) source field.owner
      overloaded :=
    ⟨load_of_mem (by decide), toOption_eq_some_iff.1 (by decide +kernel)⟩
  refine ⟨reaches, ?_⟩
  obtain ⟨decided, _⟩ := Checker.checkField_of_declared_public checker files (Inquiry.find "p.D")
    reaches (ClassInfo.supertypesPresent_of_rows load_rows (by decide) (by decide))
    ⟨⟨"f", "I", .public⟩, by decide⟩
  obtain ⟨first, isFirst, _, decides⟩ := decided (by decide)
  cases isFirst
  exact decides false (toOption_eq_some_iff.1 (by decide +kernel))

/-- A public field of an interface is not found. -/
theorem checkField_overlooks_interface_field :
    let field : FieldSymbol := ⟨"p.I", "f", "I"⟩
    (checker.context files).ReachesOwner (checker.loader.load files) source field.owner contract ∧
      contract.info.SupertypesPresent (checker.loader.load files) false ∧
      (∃ member ∈ contract.info.fields, member.name = field.name ∧
        member.descriptor = field.descriptor ∧ member.access.isPublic = true) ∧
      (((checker.context files).checkField source field).run files
          (.ofCapacity checker.loader checker.cacheCapacity)).1 =
        .ok (some (source.problem .symbolNotFound (.field field) (some contract))) := by
  intro field
  refine ⟨⟨load_of_mem (by decide), ?_⟩, ?_, ⟨⟨"f", "I", .public⟩, by decide⟩, ?_⟩
  · exact toOption_eq_some_iff.1 (by decide +kernel)
  · exact ClassInfo.supertypesPresent_of_rows load_rows (by decide) (by decide)
  · exact toOption_eq_some_iff.1 (by decide +kernel)

end FieldSample

namespace Checker

/-- A reference to a field is matched by its name alone. The nearest field with the name decides by
its access, whatever its type, and a check that passes has found an accessible field with the name.
Only a name that no searched class declares is reported as missing. Here no supertype of the class
is absent, all superclasses are known, and no handler guards against the error. -/
theorem checkField_matches_name {β : Type} (checker : Checker) (fs : FileSystem)
    (earlier : Inquiry β) {source : SourceClass} {field : FieldSymbol} {target : LoadedClass}
    (reaches : (checker.context fs).ReachesOwner (checker.loader.load fs) source field.owner target)
    (present : target.info.SupertypesPresent (checker.loader.load fs) false)
    (visible : ∀ name, IsSuperclass (checker.loader.load fs) target.info name →
      checker.loader.load fs name ≠ .ok .system)
    (unguarded : (checker.context fs).Unguarded (checker.loader.load fs) source
      (checker.context fs).memberGuardTypes) :
    let look := checker.loader.load fs
    let repository :=
      (earlier.run fs (.ofCapacity checker.loader checker.cacheCapacity)).2
    let result := (((checker.context fs).checkField source field).run fs repository).1
    ((∀ loaded, SearchedForFields look target loaded →
        ∀ member ∈ loaded.info.fields, member.name ≠ field.name) →
      result = .ok (some (source.problem .symbolNotFound (.field field) (some target)))) ∧
    (target.OwnsName look false → ∀ declaring member accessible,
      NearestField look field.name target declaring member →
      (memberAccessible (checker.context fs).bound source.info declaring.info
        member.access).answer look = .ok accessible →
      result = .ok (if accessible then none
        else some (source.problem .inaccessibleMember (.field field) (some declaring)))) ∧
    (result = .ok none → ∃ declaring member, SearchedForFields look target declaring ∧
      declaring.info.findField? field.name = some member ∧
      (memberAccessible (checker.context fs).bound source.info declaring.info
        member.access).answer look = .ok true) := by
  intro look repository result
  have result_eq : result = ((checker.context fs).checkField source field).answer look :=
    Inquiry.run_after_eq_answer _ earlier checker.cacheCapacity
  refine ⟨?_, ?_, ?_⟩
  · intro undeclared
    exact result_eq.trans (checkField_of_unoffered reaches present visible unguarded undeclared)
  · intro own declaring member accessible nearest access
    apply result_eq.trans
    apply checkField_of_found reaches present ?_ access
    intro hierarchy ascends
    exact CheckContext.declaringField?_of_nearest ascends own nearest
  · intro unreported
    exact accessible_of_unreported reaches present visible unguarded
      (result_eq.symm.trans unreported)

end Checker

namespace FieldSample

open LibrarySample

/-- The reference names another type than that of the field in the superclass. -/
theorem checkField_links_inherited_name :
    let field : FieldSymbol := ⟨"p.B", "f", "I"⟩
    (checker.context files).ReachesOwner (checker.loader.load files) source field.owner subclass ∧
      NearestField (checker.loader.load files) "f" subclass superclass ⟨"f", "J", .public⟩ ∧
      (((checker.context files).checkField source field).run files (afterAsking "p.D")).1 =
        .ok none := by
  intro field
  have reaches : (checker.context files).ReachesOwner (checker.loader.load files) source field.owner
      subclass :=
    ⟨load_of_mem (by decide), toOption_eq_some_iff.1 (by decide +kernel)⟩
  have nearest :
      NearestField (checker.loader.load files) "f" subclass superclass ⟨"f", "J", .public⟩ :=
    .above (by decide) ⟨"p.D", by decide, load_of_mem (by decide)⟩ (.here (by decide))
  have within : subclass.info.SupertypesWithin (among ["p.D", objectClass]) := by decide
  refine ⟨reaches, nearest, ?_⟩
  obtain ⟨_, decides, _⟩ := Checker.checkField_matches_name checker files (Inquiry.find "p.D")
    reaches (ClassInfo.supertypesPresent_of_rows (load_among _) within (by decide))
    (fun _ above => above.visible_of_rows (load_among _) within (by decide)) unguarded
  exact decides (LoadedClass.ownsName_of_rows (load_among _) within (by decide)) superclass _ true
    nearest (toOption_eq_some_iff.1 (by decide +kernel))

/-- A reference to a field whose type has changed passes the check. -/
theorem checkField_links_changed_type :
    let field : FieldSymbol := ⟨"p.D", "f", "I"⟩
    (checker.context files).ReachesOwner (checker.loader.load files) source field.owner superclass ∧
      superclass.info.SupertypesPresent (checker.loader.load files) false ∧
      (∀ name, IsSuperclass (checker.loader.load files) superclass.info name →
        checker.loader.load files name ≠ .ok .system) ∧
      (checker.context files).Unguarded (checker.loader.load files) source
        (checker.context files).memberGuardTypes ∧
      (∀ loaded, (loaded = superclass ∨ ∃ name,
          IsSupertype (checker.loader.load files) superclass.info false name ∧
          checker.loader.load files name = .ok (.found loaded)) →
        ∀ member ∈ loaded.info.fields,
          ¬ (member.name = field.name ∧ member.descriptor = field.descriptor)) ∧
      (((checker.context files).checkField source field).run files
          (.ofCapacity checker.loader checker.cacheCapacity)).1 = .ok none := by
  intro field
  have within : superclass.info.SupertypesWithin (among [objectClass]) := by decide
  refine ⟨⟨load_of_mem (by decide), ?_⟩, ?_, fun name above => ?_, unguarded, ?_, ?_⟩
  · exact toOption_eq_some_iff.1 (by decide +kernel)
  · exact ClassInfo.supertypesPresent_of_rows (load_among _) within (by decide)
  · exact above.visible_of_rows (load_among _) within (by decide)
  · rintro loaded (rfl | ⟨name, above, found⟩)
    · decide
    · have fieldless : ∀ row ∈ among [objectClass], ∀ loaded, row.2.found? = some loaded →
          loaded.info.fields = [] := by
        decide
      obtain ⟨lookup, member, known⟩ := above.mem_rows (load_among _) within
      cases found.symm.trans known
      rw [fieldless _ member loaded rfl]
      exact fun member none => absurd none List.not_mem_nil
  · exact toOption_eq_some_iff.1 (by decide +kernel)

end FieldSample

end Linkage
