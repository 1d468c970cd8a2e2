import Linkage.Proofs.AbsentClasses
import Linkage.Proofs.ClassAccess

/-!
Class constants that a class does not use.

A class file lists the classes of its records of nested classes among its constants. Nothing is said
if such a class is absent. If it is found, it is checked like a class that is used: it is reported
if it may not be used from there.
-/

set_option autoImplicit false

namespace Linkage

/-- A class that is not used is named by class constants only: it is neither a supertype nor the
owner of a member. -/
theorem ClassInfo.symbol_of_unused {bytes : Bytes} {info : ClassInfo} {name : String}
    (decoded : ClassInfo.decode bytes = .ok info) (notArray : Text.startsWith name "[" = false)
    (unused : info.usesClass name = false) {symbol : Symbol} (listed : symbol ∈ info.symbols)
    (named : symbol.className = name) : symbol = .class name := by
  have unsaid : info.usesClass name ≠ true := Bool.eq_false_iff.1 unused
  subst named
  rcases mem_symbols_iff.1 listed with
    ⟨_, isSuper, rfl⟩ | ⟨_, isInterface, rfl⟩ | ⟨_, _, _, rfl⟩ | ⟨_, refers, rfl⟩
  · exact absurd (usesClass_of_supertype decoded (.inl isSuper) notArray) unsaid
  · exact absurd (usesClass_of_supertype decoded (.inr isInterface) notArray) unsaid
  · rfl
  · exact absurd (usesClass_of_memberReference decoded refers notArray) unsaid

namespace CheckContext

variable {context : CheckContext} {look : Look} {source : SourceClass} {target : LoadedClass}
  {name : String}

theorem answer_find_class {lookup : ClassLookup} (known : look name = .ok lookup) :
    (Inquiry.find (Symbol.class name).className).answer look = .ok lookup :=
  (Inquiry.answer_find name).trans known

private theorem checkClass_of_unfound (unused : source.info.usesClass name = false)
    (unfound : look name = .ok .notFound ∨ look name = .ok .system) :
    (context.checkClass source (.class name)).answer look = .ok none := by
  unfold checkClass
  rcases unfound with absent | hidden
  · rw [Inquiry.answer_bind_of_ok (answer_find_class absent)]
    simp [isUnused, unused]
  · rw [Inquiry.answer_bind_of_ok (answer_find_class hidden)]
    rfl

private theorem checkClass_of_found (found : look name = .ok (.found target)) :
    (context.checkClass source (.class name)).answer look =
      (context.checkClassAccess source target).answer look := by
  unfold checkClass
  rw [Inquiry.answer_bind_of_ok (answer_find_class found)]
  rfl

private theorem checkClassAccess_of_inaccessible
    (inaccessible : (classAccess context.bound source.info target.info).answer look =
      .ok .inaccessible) :
    (context.checkClassAccess source target).answer look =
      .ok (some (source.problem .inaccessibleClass (.class target.info.name) (some target))) := by
  unfold checkClassAccess
  rw [Inquiry.answer_bind_of_ok inaccessible]
  rfl

/-- A class that is not used is never said to be absent itself. -/
theorem not_classNotFound_of_unused {problem : Problem}
    (unused : source.info.usesClass name = false)
    (reported : (context.checkClass source (.class name)).answer look = .ok (some problem))
    (kind : problem.kind = .classNotFound) : problem.symbol ≠ .class name := by
  intro same
  cases checkClass_concerns reported with
  | absent unknown _ about =>
    rw [same] at about
    cases about
    rw [checkClass_of_unfound unused (.inl unknown)] at reported
    cases reported
  | itself _ other _ => exact other kind
  | declared _ other _ _ =>
    rw [kind] at other
    cases other

end CheckContext

namespace Checker

/-- A class that the source names by unused constants only. Nothing is reported if it is absent, or
comes with the platform and nothing is known of it, and in no case is it said to be absent. A class
that is found is reported exactly as one that is used: it is inaccessible if it is not open to the
source or one of the classes around it is not. -/
theorem checkClass_of_unused {β : Type} (checker : Checker) (fs : FileSystem)
    (earlier : Inquiry β) {source : SourceClass} {bytes : Bytes} {name : String}
    (decoded : ClassInfo.decode bytes = .ok source.info)
    (notArray : Text.startsWith name "[" = false) (unused : source.info.usesClass name = false) :
    let look := checker.loader.load fs
    let repository :=
      (earlier.run fs (.ofCapacity checker.loader checker.cacheCapacity)).2
    let result := (((checker.context fs).checkClass source (.class name)).run fs repository).1
    (∀ symbol ∈ source.info.symbols, symbol.className = name → symbol = .class name) ∧
    (look name = .ok .notFound ∨ look name = .ok .system → result = .ok none) ∧
    (∀ problem, result = .ok (some problem) → problem.kind = .classNotFound →
      problem.symbol ≠ .class name) ∧
    (∀ target classes missing, look name = .ok (.found target) →
      EnclosingChain look target.info classes missing → classes.length ≤ maxNesting →
      (∀ above, IsSuperclass look source.info above → ∃ lookup, look above = .ok lookup) →
      ((∃ info ∈ classes, ¬ info.IsOpenTo look source.info) → result =
        .ok (some (source.problem .inaccessibleClass (.class target.info.name) (some target)))) ∧
      ((∀ info ∈ classes, info.IsOpenTo look source.info) → missing = none →
        result = .ok none)) := by
  intro look repository result
  have result_eq :
      result = ((checker.context fs).checkClass source (.class name)).answer look :=
    Inquiry.run_after_eq_answer _ earlier checker.cacheCapacity
  rw [result_eq]
  refine ⟨fun symbol listed named => ?_, ?_, ?_, ?_⟩
  · exact ClassInfo.symbol_of_unused decoded notArray unused listed named
  · exact CheckContext.checkClass_of_unfound unused
  · intro problem reported kind
    exact CheckContext.not_classNotFound_of_unused unused reported kind
  · intro target classes missing found chain nested known
    rw [CheckContext.checkClass_of_found found]
    obtain ⟨verdict, answered⟩ :=
      classAccessWithin_answers (fun {above} => known above) (checker.context fs).bound chain
        maxNesting
    have settled : verdict.SettledBy look source.info classes missing :=
      classAccessWithin_settled Loader.mem_classNames_of_load chain nested answered
    constructor
    · intro closed
      rcases settled with ⟨_, rfl⟩ | ⟨isOpen, _⟩
      · exact CheckContext.checkClassAccess_of_inaccessible answered
      · exact closed.elim fun info both => absurd (isOpen info both.1) both.2
    · intro isOpen none
      subst none
      rcases settled with ⟨closed, _⟩ | ⟨_, rfl⟩
      · exact closed.elim fun info both => absurd (isOpen info both.1) both.2
      · exact CheckContext.checkClassAccess_of_accessible answered

end Checker

/-! A class whose only mention of other classes is in its records of nested classes. -/

namespace UnusedSample

open LibrarySample hiding source

def source : SourceClass :=
  ⟨⟨.ofPath ⟨"s.jar"⟩, "a.S"⟩,
    { (Platform.Description.mk "a.S" Platform.classAccess (some objectClass) [] []).info with
      innerClasses := [⟨"c.G$I", some "c.G", some "I", .public⟩,
        ⟨"p.O$H", some "p.O", some "H", .private⟩]
      classConstants := [⟨2, "a.S"⟩, ⟨4, objectClass⟩, ⟨6, "c.G$I"⟩, ⟨8, "c.G"⟩, ⟨11, "p.O$H"⟩,
        ⟨13, "p.O"⟩]
      usedConstants := [2, 4] }⟩

theorem decode_source : ClassInfo.decode userDraft.build = .ok source.info :=
  toOption_eq_some_iff.1 (by decide +kernel)

/-- One of the classes is absent, the other one is public. -/
theorem checkClass_passes_over_unused :
    let result := fun name : String =>
      (((checker.context files).checkClass source (.class name)).run files (afterAsking "p.O")).1
    (∀ name ∈ ["c.G$I", "p.O"], source.info.usesClass name = false) ∧
      result "c.G$I" = .ok none ∧ result "p.O" = .ok none := by
  intro result
  refine ⟨by decide, ?_, ?_⟩
  · obtain ⟨_, unfound, _⟩ := Checker.checkClass_of_unused checker files (Inquiry.find "p.O")
      decode_source (by decide : Text.startsWith "c.G$I" "[" = false) (by decide)
    exact unfound (.inl (toOption_eq_some_iff.1 (by decide +kernel)))
  · obtain ⟨_, _, _, found⟩ := Checker.checkClass_of_unused checker files (Inquiry.find "p.O")
      decode_source (by decide : Text.startsWith "p.O" "[" = false) (by decide)
    apply (found outer _ none (load_of_mem (by decide)) (.outermost (by decide)) (by decide) ?_).2 _
      rfl
    · exact fun name above => (above.mem_rows load_rows (by decide)).imp fun _ => And.right
    · intro info member
      exact .ofPublic (List.mem_singleton.1 member ▸ by decide)

/-- A private class is reported although the source does not use it. -/
theorem checkClass_reports_unused :
    ClassInfo.decode userDraft.build = .ok source.info ∧
      source.info.usesClass "p.O$H" = false ∧
      (∀ symbol ∈ source.info.symbols, symbol.className = "p.O$H" → symbol = .class "p.O$H") ∧
      source.location.entry.defines files "p.O$H" = .ok false ∧
      (((checker.context files).checkClass source (.class "p.O$H")).run files
          (.ofCapacity checker.loader checker.cacheCapacity)).1 =
        .ok (some (source.problem .inaccessibleClass (.class "p.O$H") (some hiddenInner))) := by
  refine ⟨decode_source, by decide, by decide, ?_, ?_⟩
  · exact toOption_eq_some_iff.1 (by decide +kernel)
  · exact toOption_eq_some_iff.1 (by decide +kernel)

end UnusedSample

end Linkage
