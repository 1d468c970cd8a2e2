import Linkage.Check.Checker
import Linkage.ClassFile.Draft
import Linkage.Proofs.Guards
import Linkage.Proofs.Repository
import Linkage.Proofs.Superclasses

/-!
Which references to methods do not resolve.

A method is searched in a class and its supertypes. A check says that it is missing, or that its
return type has changed, exactly if none of the searched classes declares it and all of them are
known, and no handler guards against the error.
-/

set_option autoImplicit false

namespace Linkage

/-- Whether a class declares the method that a reference names. -/
def ClassInfo.Declares (info : ClassInfo) (method : MethodSymbol) : Prop :=
  ∃ declared ∈ info.methods,
    declared.name = method.name ∧ declared.descriptor = method.descriptor

instance (info : ClassInfo) (method : MethodSymbol) : Decidable (info.Declares method) :=
  inferInstanceAs (Decidable (∃ declared ∈ info.methods, _))

/-- Whether the first method of a class with the name and the parameters that a reference names has
a readable descriptor, and what it returns then. -/
def ClassInfo.Varies (info : ClassInfo) (method : MethodSymbol) (actual : String) : Prop :=
  ∃ parameters declared descriptor,
    Descriptor.parameterPart? method.descriptor = some parameters ∧
    info.methods.find? (fun other => other.name == method.name &&
      Descriptor.parameterPart? other.descriptor == some parameters) = some declared ∧
    Descriptor.parseMethod declared.descriptor = .ok descriptor ∧
    descriptor.returnTypeName = actual

/-- The classes that are searched for a method: the class that a reference names, and, unless the
method is a constructor, those of its supertypes that can be found. -/
def MethodSymbol.Searches (method : MethodSymbol) (look : Look) (target loaded : LoadedClass) :
    Prop :=
  loaded = target ∨ method.name ≠ constructorName ∧
    ∃ name, IsSupertype look target.info true name ∧ look name = .ok (.found loaded)

/-- The kinds of problems of a method that is not declared. -/
def ProblemKind.IsMissingMember : ProblemKind → Prop
  | symbolNotFound => True
  | returnTypeChanged _ => True
  | _ => False

private theorem ClassInfo.findMethod?_eq_none_iff {info : ClassInfo} {method : MethodSymbol} :
    info.findMethod? method.name method.descriptor = none ↔ ¬ info.Declares method := by
  simp [findMethod?, Declares, List.find?_eq_none]

namespace CheckContext

variable {method : MethodSymbol} {classes : List LoadedClass}

theorem declaringMethod?_eq_none_iff :
    declaringMethod? classes method = none ↔
      ∀ loaded ∈ classes, ¬ loaded.info.Declares method := by
  simp only [declaringMethod?, List.findSome?_eq_none_iff, Option.map_eq_none_iff,
    ClassInfo.findMethod?_eq_none_iff]

theorem actualReturnType?_eq_some_iff {info : ClassInfo} {actual : String} :
    (∃ parameters, Descriptor.parameterPart? method.descriptor = some parameters ∧
      actualReturnType? method parameters info = some actual) ↔ info.Varies method actual := by
  constructor
  · rintro ⟨parameters, part, returned⟩
    obtain ⟨declared, first, returned⟩ := Option.bind_eq_some_iff.1 returned
    cases parsed : Descriptor.parseMethod declared.descriptor with
    | error error => simp [parsed] at returned
    | ok descriptor =>
      simp only [parsed, Option.some.injEq] at returned
      exact ⟨parameters, declared, descriptor, part, first, parsed, returned⟩
  · rintro ⟨parameters, declared, descriptor, part, first, parsed, returned⟩
    refine ⟨parameters, part, Option.bind_eq_some_iff.2 ⟨declared, first, ?_⟩⟩
    simp only [parsed, returned]

theorem changedReturnType?_some {loaded : LoadedClass} {actual : String}
    (changed : changedReturnType? classes method = some (loaded, actual)) :
    loaded ∈ classes ∧ loaded.info.Varies method actual := by
  obtain ⟨parameters, part, changed⟩ := Option.bind_eq_some_iff.1 changed
  obtain ⟨candidate, member, changed⟩ := List.exists_of_findSome?_eq_some changed
  obtain ⟨returned, same, pair⟩ := Option.map_eq_some_iff.1 changed
  cases pair
  exact ⟨member, actualReturnType?_eq_some_iff.1 ⟨parameters, part, same⟩⟩

private theorem changedReturnType?_eq_none_iff :
    changedReturnType? classes method = none ↔
      ∀ loaded ∈ classes, ∀ actual, ¬ loaded.info.Varies method actual := by
  constructor
  · intro unchanged loaded member actual varies
    obtain ⟨parameters, part, returned⟩ := actualReturnType?_eq_some_iff.2 varies
    have absent := Option.bind_eq_none_iff.1 unchanged parameters part
    have none := List.findSome?_eq_none_iff.1 absent loaded member
    rw [returned] at none
    cases none
  · intro never
    cases changed : changedReturnType? classes method with
    | none => rfl
    | some result =>
      obtain ⟨member, varies⟩ := changedReturnType?_some changed
      exact absurd varies (never _ member _)

/-- The classes of a hierarchy that count for a method are those that are searched. -/
theorem mem_candidates_iff {look : Look} {target loaded : LoadedClass} {hierarchy : Hierarchy}
    (describes : hierarchy.Describes look target true) :
    loaded ∈ (if method.name = constructorName then hierarchy.classes.take 1
      else hierarchy.classes) ↔ method.Searches look target loaded := by
  obtain ⟨rest, starts⟩ := describes.starts
  split
  · next isConstructor =>
    simp [starts, MethodSymbol.Searches, isConstructor]
  · next isMethod =>
    constructor
    · intro member
      rcases describes.sound loaded member with same | above
      · exact .inl same
      · exact .inr ⟨isMethod, above⟩
    · rintro (same | ⟨_, name, above, found⟩)
      · rw [same, starts]
        exact List.mem_cons_self
      · exact describes.complete above found

theorem checkMemberAccess_kind {context : CheckContext} {look : Look} {source : SourceClass}
    {symbol : Symbol} {declaring : LoadedClass} {access : Access} {problem : Problem}
    (answered : (context.checkMemberAccess source symbol declaring access).answer look =
      .ok (some problem)) : problem.kind = .inaccessibleMember := by
  obtain ⟨accessible, _, answered⟩ := Inquiry.answer_bind_ok answered
  cases accessible with
  | true => cases answered
  | false =>
    cases answered
    rfl

section Resolution

variable {context : CheckContext} {look : Look} {source : SourceClass} {target : LoadedClass}
  {hierarchy : Hierarchy}

/-- In a hierarchy that describes the supertypes of a class, a method is reported as missing only if
no searched class declares it and all supertypes are known. -/
theorem checkMethodIn_missing {problem : Problem} (describes : hierarchy.Describes look target true)
    (answered : (context.checkMethodIn source method target hierarchy).answer look =
      .ok (some problem))
    (missing : problem.kind.IsMissingMember) :
    (∀ loaded, method.Searches look target loaded → ¬ loaded.info.Declares method) ∧
      hierarchy.isHidden = false := by
  unfold checkMethodIn at answered
  dsimp only at answered
  split at answered
  · rw [checkMemberAccess_kind answered] at missing
    exact missing.elim
  · next undeclared =>
    have never := declaringMethod?_eq_none_iff.1 undeclared
    split at answered
    · cases answered
    · next known =>
      refine ⟨fun loaded searched => ?_, by simpa using known⟩
      exact never loaded ((mem_candidates_iff describes).2 searched)

/-- A method that no searched class declares is missing, or its return type has changed. -/
theorem checkMethodIn_of_undeclared
    (candidates : ∀ {loaded}, loaded ∈ (if method.name = constructorName
      then hierarchy.classes.take 1 else hierarchy.classes) ↔ method.Searches look target loaded)
    (undeclared : ∀ loaded, method.Searches look target loaded → ¬ loaded.info.Declares method)
    (known : hierarchy.isHidden = false)
    (unguarded : context.Unguarded look source context.memberGuardTypes) :
    ((∃ loaded actual, method.Searches look target loaded ∧ loaded.info.Varies method actual ∧
        (context.checkMethodIn source method target hierarchy).answer look =
          .ok (some (source.problem (.returnTypeChanged actual) (.method method) (some loaded)))) ∨
      (∀ loaded actual, method.Searches look target loaded → ¬ loaded.info.Varies method actual) ∧
        (context.checkMethodIn source method target hierarchy).answer look =
          .ok (some (source.problem .symbolNotFound (.method method) (some target)))) := by
  unfold checkMethodIn
  dsimp only
  rw [declaringMethod?_eq_none_iff.2 fun loaded member =>
    undeclared loaded (candidates.1 member)]
  simp only [known, Bool.false_eq_true, if_false]
  split
  · next loaded actual changed =>
    obtain ⟨member, varies⟩ := changedReturnType?_some changed
    exact .inl ⟨loaded, actual, candidates.1 member, varies, rfl⟩
  · next unchanged =>
    refine .inr ⟨fun loaded actual searched => ?_, symbolNotFound_of_unguarded unguarded⟩
    exact changedReturnType?_eq_none_iff.1 unchanged loaded (candidates.2 searched) actual

/-- The owner of a member is a class that is found and accessible from the source. -/
structure ReachesOwner (context : CheckContext) (look : Look) (source : SourceClass)
    (owner : String) (target : LoadedClass) : Prop where
  found : look owner = .ok (.found target)
  accessible : (classAccess context.bound source.info target.info).answer look = .ok .accessible

theorem checkClassAccess_of_accessible
    (accessible : (classAccess context.bound source.info target.info).answer look =
      .ok .accessible) : (context.checkClassAccess source target).answer look = .ok none := by
  unfold checkClassAccess
  rw [Inquiry.answer_bind_of_ok accessible]
  rfl

/-- A reference whose owner is reached, and is an interface or not as the reference says. -/
structure Reaches (context : CheckContext) (look : Look) (source : SourceClass)
    (method : MethodSymbol) (target : LoadedClass) : Prop
    extends context.ReachesOwner look source method.owner target where
  notArray : Text.startsWith method.owner "[" = false
  notPolymorphic : isPolymorphic method = false
  sameKind : target.info.isInterface = method.ofInterface

/-- A method of a class that a reference reaches is looked up in the hierarchy of the class. -/
theorem checkMethod_eq_hierarchy (reaches : context.Reaches look source method target) :
    (context.checkMethod source method).answer look =
      (Hierarchy.of context.bound target true).answer look >>= fun hierarchy =>
        match hierarchy.missing with
        | some missing => (context.classNotFound source missing).answer look
        | none => (context.checkMethodIn source method target hierarchy).answer look := by
  have access := checkClassAccess_of_accessible reaches.accessible
  simp only [checkMethod, reaches.notArray, reaches.notPolymorphic, Bool.or_self,
    Bool.false_eq_true, if_false]
  rw [Inquiry.answer_bind_of_ok ((Inquiry.answer_find method.owner).trans reaches.found)]
  simp only [checkMethodOf]
  rw [Inquiry.answer_bind_of_ok access]
  simp only [reaches.sameKind, bne_self_eq_false, Bool.false_eq_true, if_false]
  rw [Inquiry.answer_bind]
  congr 1
  funext hierarchy
  cases hierarchy.missing <;> rfl

end Resolution

end CheckContext

namespace Checker

section Supertypes

variable {checker : Checker} {fs : FileSystem} {source : SourceClass} {method : MethodSymbol}
  {target : LoadedClass} (own : target.OwnsName (checker.loader.load fs) true)
  (reaches : (checker.context fs).Reaches (checker.loader.load fs) source method target)

include own reaches

private theorem undeclared_of_reported {problem : Problem}
    (reported : ((checker.context fs).checkMethod source method).answer (checker.loader.load fs) =
      .ok (some problem))
    (missing : problem.kind.IsMissingMember) :
    (∀ loaded, method.Searches (checker.loader.load fs) target loaded →
      ¬ loaded.info.Declares method) ∧
      ∀ name, IsSupertype (checker.loader.load fs) target.info true name →
        checker.loader.load fs name ≠ .ok .system := by
  rw [CheckContext.checkMethod_eq_hierarchy reaches] at reported
  obtain ⟨hierarchy, answered, reported⟩ := bind_ok reported
  have described := Hierarchy.of_describes Loader.mem_classNames_of_load own answered
  cases complete : hierarchy.missing with
  | some name =>
    -- An absent supertype is reported as a class, not as a member.
    simp only [complete] at reported
    rcases CheckContext.classNotFound_ok reported with absent | same
    · cases absent
    · cases same
      exact missing.elim
  | none =>
    simp only [complete] at reported
    obtain ⟨undeclared, known⟩ := CheckContext.checkMethodIn_missing described reported missing
    refine ⟨undeclared, fun name above hidden => ?_⟩
    -- A hierarchy does not note that the root of all classes is hidden, but it never is.
    have noted : hierarchy.isHidden = true := by
      cases above with
      | superclass above => exact described.hidden_complete (.superclass above) hidden
      | interface above => exact described.hidden_complete (.interface above) hidden
      | object _ _ => exact absurd hidden Loader.load_object_ne_system
    rw [known] at noted
    cases noted

private theorem reported_of_undeclared
    (undeclared : ∀ loaded, method.Searches (checker.loader.load fs) target loaded →
      ¬ loaded.info.Declares method)
    (found : ∀ name, IsSupertype (checker.loader.load fs) target.info true name →
      ∃ loaded, checker.loader.load fs name = .ok (.found loaded))
    (unguarded : (checker.context fs).Unguarded (checker.loader.load fs) source
      (checker.context fs).memberGuardTypes) :
    (∃ loaded actual, method.Searches (checker.loader.load fs) target loaded ∧
      loaded.info.Varies method actual ∧
      ((checker.context fs).checkMethod source method).answer (checker.loader.load fs) =
        .ok (some (source.problem (.returnTypeChanged actual) (.method method) (some loaded)))) ∨
    (∀ loaded actual, method.Searches (checker.loader.load fs) target loaded →
      ¬ loaded.info.Varies method actual) ∧
      ((checker.context fs).checkMethod source method).answer (checker.loader.load fs) =
        .ok (some (source.problem .symbolNotFound (.method method) (some target))) := by
  obtain ⟨hierarchy, answered⟩ : ∃ hierarchy,
      (Hierarchy.of (checker.context fs).bound target true).answer (checker.loader.load fs) =
        .ok hierarchy :=
    Hierarchy.of_answers Loader.mem_classNames_of_load fun {name} above =>
      (found name above).elim fun loaded known => ⟨.found loaded, known⟩
  have described := Hierarchy.of_describes Loader.mem_classNames_of_load own answered
  have complete : hierarchy.missing = none := by
    refine Option.eq_none_iff_forall_ne_some.2 fun name missing => ?_
    obtain ⟨above, absent⟩ := described.missing_sound name missing
    obtain ⟨loaded, known⟩ := found name above
    rw [absent] at known
    cases known
  have visible : hierarchy.isHidden = false := by
    cases hidden : hierarchy.isHidden with
    | false => rfl
    | true =>
      obtain ⟨name, above, system⟩ := described.hidden_sound hidden
      obtain ⟨loaded, known⟩ := found name above
      rw [system] at known
      cases known
  rw [CheckContext.checkMethod_eq_hierarchy reaches, answered]
  simp only [bind, Except.bind, complete]
  exact CheckContext.checkMethodIn_of_undeclared (CheckContext.mem_candidates_iff described)
    undeclared visible unguarded

end Supertypes

/-- A check, wherever it takes place in a run, reports a method as missing or as changed in its
return type exactly if no searched class declares it, provided that all supertypes are known and no
handler guards against the error. Here a supertype that goes by the name that the class declares is
the class. -/
theorem checkMethod_missing_exact {β : Type} (checker : Checker) (fs : FileSystem)
    (earlier : Inquiry β) {source : SourceClass} {method : MethodSymbol} {target : LoadedClass}
    (reaches : (checker.context fs).Reaches (checker.loader.load fs) source method target)
    (own : target.OwnsName (checker.loader.load fs) true) :
    let look := checker.loader.load fs
    let repository :=
      (earlier.run fs (.ofCapacity checker.loader checker.cacheCapacity)).2
    let result := (((checker.context fs).checkMethod source method).run fs repository).1
    (∀ problem, result = .ok (some problem) → problem.kind.IsMissingMember →
      (∀ loaded, method.Searches look target loaded → ¬ loaded.info.Declares method) ∧
        ∀ name, IsSupertype look target.info true name → look name ≠ .ok .system) ∧
    ((∀ loaded, method.Searches look target loaded → ¬ loaded.info.Declares method) →
      (∀ name, IsSupertype look target.info true name → ∃ loaded, look name = .ok (.found loaded)) →
      (checker.context fs).Unguarded look source (checker.context fs).memberGuardTypes →
      ((∃ loaded actual, method.Searches look target loaded ∧ loaded.info.Varies method actual) →
        ∃ loaded actual, method.Searches look target loaded ∧ loaded.info.Varies method actual ∧
          result = .ok (some
            (source.problem (.returnTypeChanged actual) (.method method) (some loaded)))) ∧
      ((¬ ∃ loaded actual, method.Searches look target loaded ∧ loaded.info.Varies method actual) →
        result = .ok (some (source.problem .symbolNotFound (.method method) (some target))))) := by
  intro look repository result
  have result_eq : result = ((checker.context fs).checkMethod source method).answer look :=
    Inquiry.run_after_eq_answer _ earlier checker.cacheCapacity
  constructor
  · intro problem reported missing
    exact undeclared_of_reported own reaches (result_eq.symm.trans reported) missing
  · intro undeclared found unguarded
    rcases reported_of_undeclared own reaches undeclared found unguarded with
      ⟨loaded, actual, searched, varies, reported⟩ | ⟨never, reported⟩
    · refine ⟨fun _ => ⟨loaded, actual, searched, varies, result_eq.trans reported⟩, ?_⟩
      intro unvaried
      exact absurd ⟨loaded, actual, searched, varies⟩ unvaried
    · refine ⟨?_, fun _ => result_eq.trans reported⟩
      rintro ⟨loaded, actual, searched, varies⟩
      exact absurd varies (never loaded actual searched)

end Checker

/-! The library of the samples here and in other modules: what is stored in it, and what is known
of its classes. -/

namespace LibrarySample

def archive : ClasspathEntry := .ofPath ⟨"lib.jar"⟩

def checker : Checker where
  loader := ⟨[archive], [], ["java."]⟩
  cacheCapacity := 2
  references := .empty
  graph := .ofEdges [] []
  rules := []
  guardTypes := [missingClassError]

/-- A class of another entry names two nested classes that it does not use. -/
def userDraft : ClassDraft := (ClassDraft.ofClass "a.S").declareAll
  [.innerClass "c.G$I" (some "c.G") .public, .innerClass "p.O$H" (some "p.O") .private]

/-- The class file of `p.C` declares the name of its superclass. -/
def drafts : List (String × ClassDraft) := [
  ("a/S.class", (ClassDraft.ofClass "a.S").declareAll
    [.access Platform.abstractClassAccess, .interface "p.I"]),
  ("p/A.class", (ClassDraft.ofClass "p.A").declareAll
    [.access Platform.abstractClassAccess, .superClass "a.S"]),
  ("p/B.class", (ClassDraft.ofClass "p.B").declare (.superClass "p.D")),
  ("p/C.class", (ClassDraft.ofClass "p.D").declare (.superClass "p.D")),
  ("p/D.class", (ClassDraft.ofClass "p.D").declareAll [.field .public "f" "J",
    .method .public "<init>" "()V", .method .public "m" "()V"]),
  ("p/E.class", (ClassDraft.ofClass "p.E").declareAll
    [.field .private "f" "J", .field .public "f" "I"]),
  ("p/F.class", (ClassDraft.ofClass "p.F").declareAll
    [.interface "p.I", .method .public "m" "()V"]),
  ("p/I.class", (ClassDraft.ofInterface "p.I").declareAll
    [.field .public "f" "I", .abstractMethod "m" "()V", .abstractMethod "n" "()V"]),
  ("p/O.class", ClassDraft.ofClass "p.O"),
  ("p/O$H.class", (ClassDraft.ofClass "p.O$H").declare
    (.innerClass "p.O$H" (some "p.O") .private)),
  ("p/O$I.class", (ClassDraft.ofClass "p.O$I").declare
    (.innerClass "p.O$I" (some "p.O") .protected)),
  ("p/P.class", (ClassDraft.ofClass "p.P").declare (.superClass "java.awt.Panel"))]

def files : FileSystem := .ofNodes [
  (⟨false, ["s.jar"]⟩, .archive [⟨"a/S.class", userDraft.build⟩]),
  (⟨false, ["lib.jar"]⟩, .archive (drafts.map fun (path, draft) => ⟨path, draft.build⟩))]

def object : LoadedClass := ⟨Platform.object.info, ⟨platformEntry, objectClass⟩⟩

/-- A class as it is found: its own name and that of the class that all classes extend are the first
of its class constants. -/
def loadedAs (description : Platform.Description) (others : List ClassConstant)
    (used : List Nat) : LoadedClass :=
  ⟨{ description.info with
      classConstants := ⟨2, description.name⟩ :: ⟨4, objectClass⟩ :: others
      usedConstants := used }, ⟨archive, description.name⟩⟩

def withFields (loaded : LoadedClass) (fields : List FieldInfo) : LoadedClass :=
  { loaded with info := { loaded.info with fields := fields } }

def withInner (loaded : LoadedClass) (inner : InnerClass) : LoadedClass :=
  { loaded with info := { loaded.info with innerClasses := [inner] } }

def namesake : LoadedClass :=
  loadedAs ⟨"a.S", Platform.abstractClassAccess, some objectClass, ["p.I"], []⟩ [⟨6, "p.I"⟩]
    [2, 4, 6]

def partly : LoadedClass :=
  loadedAs ⟨"p.A", Platform.abstractClassAccess, some "a.S", [], []⟩ [⟨6, "a.S"⟩] [2, 6]

def subclass : LoadedClass :=
  loadedAs ⟨"p.B", Platform.classAccess, some "p.D", [], []⟩ [⟨6, "p.D"⟩] [2, 6]

def misnamed : LoadedClass :=
  { loadedAs ⟨"p.D", Platform.classAccess, some "p.D", [], []⟩ [] [2, 2] with
    location := ⟨archive, "p.C"⟩ }

def superclass : LoadedClass :=
  withFields (loadedAs ⟨"p.D", Platform.classAccess, some objectClass, [],
    [⟨.public, "<init>", "()V"⟩, ⟨.public, "m", "()V"⟩]⟩ [] [2, 4]) [⟨"f", "J", .public⟩]

def overloaded : LoadedClass :=
  withFields (loadedAs ⟨"p.E", Platform.classAccess, some objectClass, [], []⟩ [] [2, 4])
    [⟨"f", "J", .private⟩, ⟨"f", "I", .public⟩]

def base : LoadedClass :=
  loadedAs ⟨"p.F", Platform.classAccess, some objectClass, ["p.I"], [⟨.public, "m", "()V"⟩]⟩
    [⟨6, "p.I"⟩] [2, 4, 6]

def contract : LoadedClass :=
  withFields (loadedAs ⟨"p.I", Platform.interfaceAccess, some objectClass, [],
    [⟨Platform.publicAbstract, "m", "()V"⟩, ⟨Platform.publicAbstract, "n", "()V"⟩]⟩ [] [2, 4])
    [⟨"f", "I", .public⟩]

def outer : LoadedClass :=
  loadedAs ⟨"p.O", Platform.classAccess, some objectClass, [], []⟩ [] [2, 4]

def hiddenInner : LoadedClass :=
  withInner (loadedAs ⟨"p.O$H", Platform.classAccess, some objectClass, [], []⟩ [⟨6, "p.O"⟩] [2, 4])
    ⟨"p.O$H", some "p.O", some "H", .private⟩

def protectedInner : LoadedClass :=
  withInner (loadedAs ⟨"p.O$I", Platform.classAccess, some objectClass, [], []⟩ [⟨6, "p.O"⟩] [2, 4])
    ⟨"p.O$I", some "p.O", some "I", .protected⟩

def panel : LoadedClass :=
  loadedAs ⟨"p.P", Platform.classAccess, some "java.awt.Panel", [], []⟩ [⟨6, "java.awt.Panel"⟩]
    [2, 6]

/-- What is known of the classes: all but two of the platform are found. -/
def rows : List (String × ClassLookup) := [
  ("a.S", .found namesake), ("p.A", .found partly), ("p.B", .found subclass),
  ("p.C", .found misnamed), ("p.D", .found superclass), ("p.E", .found overloaded),
  ("p.F", .found base), ("p.I", .found contract), ("p.O", .found outer),
  ("p.O$H", .found hiddenInner), ("p.O$I", .found protectedInner), ("p.P", .found panel),
  (objectClass, .found object), ("java.awt.Panel", .system), ("java.util.List", .system)]

theorem load_rows (row : String × ClassLookup) (member : row ∈ rows) :
    checker.loader.load files row.1 = .ok row.2 := by
  have loads : ∀ row ∈ rows, (checker.loader.load files row.1).toOption = some row.2 := by
    decide +kernel
  exact toOption_eq_some_iff.1 (loads row member)

theorem load_of_mem {name : String} {lookup : ClassLookup} (member : (name, lookup) ∈ rows) :
    checker.loader.load files name = .ok lookup :=
  load_rows (name, lookup) member

/-- The rows of some names. -/
def among (names : List String) : List (String × ClassLookup) :=
  rows.filter fun row => names.contains row.1

theorem load_among (names : List String) (row : String × ClassLookup) (member : row ∈ among names) :
    checker.loader.load files row.1 = .ok row.2 :=
  load_rows row (List.mem_of_mem_filter member)

/-- A class of another entry, in which no handler guards against an error. -/
def sourceOf (name superName : String) (interfaces : List String) : SourceClass :=
  ⟨⟨.ofPath ⟨"s.jar"⟩, name⟩,
    (Platform.Description.mk name Platform.classAccess (some superName) interfaces []).info⟩

def source : SourceClass := sourceOf "a.S" objectClass []

/-- The repository after a class has been asked for. -/
def afterAsking (name : String) : Repository :=
  ((Inquiry.find name).run files (.ofCapacity checker.loader checker.cacheCapacity)).2

theorem unguarded : (checker.context files).Unguarded (checker.loader.load files) source
    (checker.context files).memberGuardTypes :=
  ⟨rfl, .inl rfl⟩

end LibrarySample

/-! A class with an inherited method, and a class file that declares the name of its superclass. -/

namespace ResolutionSample

open LibrarySample

/-- The method of the superclass returns nothing. -/
theorem checkMethod_reports_inherited_return_type :
    let method : MethodSymbol := ⟨"p.B", "m", "()I", false⟩
    (checker.context files).Reaches (checker.loader.load files) source method subclass ∧
      ∃ loaded actual, method.Searches (checker.loader.load files) subclass loaded ∧
        loaded.info.Varies method actual ∧
        (((checker.context files).checkMethod source method).run files (afterAsking "p.D")).1 =
          .ok (some
            (source.problem (.returnTypeChanged actual) (.method method) (some loaded))) := by
  intro method
  have reaches :
      (checker.context files).Reaches (checker.loader.load files) source method subclass :=
    ⟨⟨load_of_mem (by decide), toOption_eq_some_iff.1 (by decide +kernel)⟩, by decide, by decide,
      by decide⟩
  have within : subclass.info.SupertypesWithin (among ["p.D", objectClass]) := by decide
  refine ⟨reaches, ?_⟩
  obtain ⟨_, complete⟩ := Checker.checkMethod_missing_exact checker files (Inquiry.find "p.D")
    reaches (LoadedClass.ownsName_of_rows (load_among _) within (by decide))
  refine (complete ?_ ?_ unguarded).1 ⟨superclass, "void", .inr ⟨by decide, "p.D",
    .superclass (.direct rfl), load_of_mem (by decide)⟩, "()", ⟨"m", "()V", .public, true, []⟩, ?_⟩
  · have undeclared : ∀ row ∈ among ["p.D", objectClass], ∀ loaded, row.2.found? = some loaded →
        ¬ loaded.info.Declares method := by
      decide
    rintro loaded (rfl | ⟨_, name, above, known⟩)
    · decide
    · obtain ⟨lookup, member, same⟩ := above.mem_rows (load_among _) within
      cases known.symm.trans same
      exact undeclared _ member loaded rfl
  · exact fun name above => above.found_of_rows (load_among _) within (by decide)
  · exact ⟨⟨[], none⟩, by decide, by decide, toOption_eq_some_iff.1 (by decide +kernel), rfl⟩

/-- A superclass is overlooked if the class goes by its name. -/
theorem checkMethod_overlooks_superclass_of_own_name :
    let method : MethodSymbol := ⟨"p.C", "m", "()V", false⟩
    (checker.context files).Reaches (checker.loader.load files) source method misnamed ∧
      (∀ name, IsSupertype (checker.loader.load files) misnamed.info true name →
        ∃ loaded, checker.loader.load files name = .ok (.found loaded)) ∧
      method.Searches (checker.loader.load files) misnamed superclass ∧
      superclass.info.Declares method ∧
      (((checker.context files).checkMethod source method).run files
          (.ofCapacity checker.loader checker.cacheCapacity)).1 =
        .ok (some (source.problem .symbolNotFound (.method method) (some misnamed))) := by
  intro method
  have within : misnamed.info.SupertypesWithin (among ["p.D", objectClass]) := by decide
  refine ⟨⟨⟨load_of_mem (by decide), ?_⟩, by decide, by decide, by decide⟩, fun name above => ?_,
    .inr ⟨by decide, "p.D", .superclass (.direct rfl), load_of_mem (by decide)⟩, by decide, ?_⟩
  · exact toOption_eq_some_iff.1 (by decide +kernel)
  · exact above.found_of_rows (load_among _) within (by decide)
  · exact toOption_eq_some_iff.1 (by decide +kernel)

end ResolutionSample

end Linkage
