import Linkage.Proofs.EntryOrder
import Linkage.Proofs.RunComposition

/-!
Runs that come to an end without an error.

A check fails only where a class is looked up or a class file is read once more. So if all classes
of a class path can be read, every check of every class has an answer, and a run gives its problems,
whatever the classes refer to.
-/

set_option autoImplicit false

namespace Linkage

namespace Inquiry

variable {α β : Type} {look : Look}

/-- Whether an inquiry has a result when lookups are answered by a function. -/
def Completes (look : Look) (inquiry : Inquiry α) : Prop :=
  ∃ value, inquiry.answer look = .ok value

theorem completes_pure (value : α) : (pure value : Inquiry α).Completes look := ⟨value, rfl⟩

theorem Completes.bind {inquiry : Inquiry α} {next : α → Inquiry β} (first : inquiry.Completes look)
    (rest : ∀ value, (next value).Completes look) : (inquiry >>= next).Completes look := by
  obtain ⟨value, answered⟩ := first
  obtain ⟨result, answered'⟩ := rest value
  exact ⟨result, (answer_bind_of_ok answered).trans answered'⟩

end Inquiry

/-- Whether each lookup has an answer. -/
def Look.Complete (look : Look) : Prop := ∀ className, ∃ lookup, look className = .ok lookup

section Lookups

open Inquiry

variable {look : Look} (complete : look.Complete)

include complete

private theorem Inquiry.completes_lookUp {α : Type} {className : String} {next : ClassLookup → Inquiry α}
    (rest : ∀ lookup, (next lookup).Completes look) : (lookUp className next).Completes look := by
  obtain ⟨lookup, known⟩ := complete className
  obtain ⟨value, answered⟩ := rest lookup
  exact ⟨value, (answer_lookUp_ok known).trans answered⟩

theorem Inquiry.completes_find (className : String) : (find className).Completes look :=
  completes_lookUp complete fun lookup => completes_pure lookup

namespace Ascent

private theorem climb_completes (steps : Nat) (next : Option String) (ascent : Ascent) :
    (climb steps next ascent).Completes look := by
  induction steps generalizing next ascent with
  | zero => exact completes_pure ascent
  | succ steps ih =>
    cases next with
    | none => exact completes_pure ascent
    | some name =>
      unfold climb
      split
      · exact completes_pure ascent
      · refine (completes_find complete name).bind fun lookup => ?_
        cases lookup with
        | found loaded => exact ih _ _
        | system => exact completes_pure _
        | notFound => exact completes_pure _

private theorem spreadTo_completes {onFound : List String → Ascent → Inquiry Ascent}
    (goesOn : ∀ queue ascent, (onFound queue ascent).Completes look) (queue : List String)
    (ascent : Ascent) : (spreadTo onFound queue ascent).Completes look := by
  induction queue generalizing ascent with
  | nil => exact completes_pure ascent
  | cons name rest ih =>
    unfold spreadTo
    split
    · exact ih ascent
    · refine completes_lookUp complete fun lookup => ?_
      cases lookup with
      | found loaded => exact goesOn _ _
      | system => exact ih _
      | notFound => exact ih _

private theorem spread_completes (more : Nat) (queue : List String) (ascent : Ascent) :
    (spread more queue ascent).Completes look := by
  induction more generalizing queue ascent with
  | zero => exact spreadTo_completes complete (fun _ ascent => completes_pure ascent) queue ascent
  | succ more ih => exact spreadTo_completes complete ih queue ascent

private theorem seeObject_completes (ascent : Ascent) : ascent.seeObject.Completes look := by
  unfold seeObject
  split
  · exact completes_pure ascent
  · refine (completes_find complete objectClass).bind fun lookup => ?_
    cases lookup <;> exact completes_pure _

end Ascent

theorem Hierarchy.of_completes (bound : Nat) (loaded : LoadedClass) (withObject : Bool) :
    (Hierarchy.of bound loaded withObject).Completes look := by
  refine (Ascent.climb_completes complete _ _ _).bind fun ascent =>
    (Ascent.spread_completes complete _ _ _).bind fun ascent => ?_
  split
  · exact (Ascent.seeObject_completes complete ascent).bind fun ascent => completes_pure _
  · exact completes_pure _

private theorem isSuperclassFrom_completes (className : String) (steps : Nat) (seen : List String)
    (next : Option String) : (isSuperclassFrom className steps seen next).Completes look := by
  induction steps generalizing seen next with
  | zero => exact completes_pure false
  | succ steps ih =>
    cases next with
    | none => exact completes_pure false
    | some name =>
      unfold isSuperclassFrom
      split
      · exact completes_pure true
      · split
        · exact completes_pure false
        · refine (completes_find complete name).bind fun lookup => ?_
          cases lookup with
          | found loaded => exact ih _ _
          | system => exact completes_pure false
          | notFound => exact completes_pure false

private theorem isOpenTo_completes (bound : Nat) (source target : ClassInfo) :
    (isOpenTo bound source target).Completes look := by
  unfold isOpenTo
  dsimp only
  split
  · exact completes_pure true
  · split
    · exact completes_pure _
    · split
      · split
        · exact completes_pure true
        · split
          · exact isSuperclassFrom_completes complete _ _ _ _
          · exact completes_pure false
      · exact completes_pure _

private theorem classAccessWithin_completes (bound : Nat) (source : ClassInfo) (levels : Nat)
    (target : ClassInfo) : (classAccessWithin bound source levels target).Completes look := by
  induction levels generalizing target with
  | zero => exact completes_pure _
  | succ levels ih =>
    refine (isOpenTo_completes complete bound source target).bind fun isOpen => ?_
    split
    · split
      · exact completes_pure _
      · split
        · exact completes_pure _
        · refine (completes_find complete _).bind fun lookup => ?_
          cases lookup with
          | found loaded => exact ih loaded.info
          | system => exact completes_pure _
          | notFound => exact completes_pure _
    · exact completes_pure _

private theorem memberAccessible_completes (bound : Nat) (source declaring : ClassInfo) (access : Access) :
    (memberAccessible bound source declaring access).Completes look := by
  unfold memberAccessible
  split
  · exact completes_pure true
  · split
    · split
      · exact completes_pure true
      · exact isSuperclassFrom_completes complete _ _ _ _
    · split <;> exact completes_pure _

end Lookups

/-- Whether each class that an entry defines can be read and decoded. -/
def ClasspathEntry.Decodes (entry : ClasspathEntry) (fs : FileSystem) : Prop :=
  ∀ className, entry.readClass fs className = .ok none ∨
    ∃ bytes info, entry.readClass fs className = .ok (some bytes) ∧
      ClassInfo.decode bytes = .ok info

private theorem ClasspathEntry.decode_of_ok {entry : ClasspathEntry} {className : String} {bytes : Bytes}
    {info : ClassInfo} (decoded : ClassInfo.decode bytes = .ok info) :
    entry.decode className bytes = .ok info := by
  rw [decode, decoded]
  rfl

theorem ClasspathEntry.Decodes.classNames {entry : ClasspathEntry} {fs : FileSystem}
    (decodes : entry.Decodes fs) : ∃ names, entry.classNames fs = .ok names := by
  rcases decodes "" with read | ⟨_, _, read, _⟩ <;>
  · obtain ⟨names, listed, _⟩ := bind_ok read
    exact ⟨names, listed⟩

namespace Loader

variable {fs : FileSystem}

private theorem loadFrom_of_decodes {entries : List ClasspathEntry}
    (decodes : ∀ entry ∈ entries, entry.Decodes fs) (className : String) :
    ∃ loaded, loadFrom fs className entries = .ok loaded := by
  induction entries with
  | nil => exact ⟨none, rfl⟩
  | cons entry rest ih =>
    unfold loadFrom
    rcases decodes entry List.mem_cons_self className with read | ⟨bytes, info, read, decoded⟩
    · rw [read]
      exact ih fun other member => decodes other (List.mem_cons_of_mem _ member)
    · rw [read]
      refine ⟨some ⟨info, ⟨entry, className⟩⟩, ?_⟩
      change (entry.decodeLoaded className bytes).map some = _
      rw [ClasspathEntry.decodeLoaded, ClasspathEntry.decode_of_ok decoded]
      rfl

private theorem load_complete {loader : Loader}
    (decodes : ∀ entry ∈ loader.classpath ++ loader.bootstrap, entry.Decodes fs) :
    Look.Complete (loader.load fs) := by
  intro className
  unfold load
  split
  · obtain ⟨loaded, found⟩ := loadFrom_of_decodes
      (fun entry member => decodes entry (List.mem_append_right _ member)) className
    rw [found]
    cases loaded <;> exact ⟨_, rfl⟩
  · obtain ⟨loaded, found⟩ := loadFrom_of_decodes
      (fun entry member => decodes entry (List.mem_append_left _ member)) className
    rw [found]
    cases loaded <;> exact ⟨_, rfl⟩

end Loader

namespace CheckContext

open Inquiry

variable {context : CheckContext} {look : Look} (complete : look.Complete)

include complete

private theorem loadSource_completes {location : ClassLocation}
    (decodes : location.entry.Decodes context.fs) :
    (context.loadSource location).Completes look := by
  have own : (loadSource.readSource context location).Completes look := by
    unfold loadSource.readSource
    rcases decodes location.className with read | ⟨bytes, info, read, decoded⟩
    · rw [read]
      exact ⟨none, rfl⟩
    · rw [read]
      refine ⟨some info, ?_⟩
      change (location.entry.decode location.className bytes).map some = _
      rw [ClasspathEntry.decode_of_ok decoded]
      rfl
  refine (completes_find complete location.className).bind fun lookup => ?_
  cases lookup with
  | system => exact own
  | notFound => exact own
  | found loaded =>
    dsimp only
    split
    · exact completes_pure _
    · exact own

variable {source : SourceClass} (decodes : source.location.entry.Decodes context.fs)

include decodes

private theorem isGuarded_completes (types : List String) :
    (context.isGuarded source types).Completes look := by
  unfold isGuarded
  split
  · exact completes_pure false
  · split
    · exact completes_pure true
    · split
      · exact completes_pure false
      · have outer : (context.loadSource source.location.topLevel).Completes look :=
          loadSource_completes complete decodes
        refine outer.bind fun loaded => ?_
        cases loaded <;> exact completes_pure _

theorem classNotFound_completes (className : String) :
    (context.classNotFound source className).Completes look := by
  refine (isGuarded_completes complete decodes _).bind fun guarded => ?_
  cases guarded <;> exact completes_pure _

private theorem symbolNotFound_completes (symbol : Symbol) (target : LoadedClass) :
    (context.symbolNotFound source symbol target).Completes look := by
  refine (isGuarded_completes complete decodes _).bind fun guarded => ?_
  cases guarded <;> exact completes_pure _

theorem checkClassAccess_completes (target : LoadedClass) :
    (context.checkClassAccess source target).Completes look := by
  refine (classAccessWithin_completes complete _ _ _ _).bind fun access => ?_
  cases access with
  | accessible => exact completes_pure none
  | inaccessible => exact completes_pure _
  | missingEnclosing outer => exact classNotFound_completes complete decodes outer

theorem checkClass_completes (symbol : Symbol) :
    (context.checkClass source symbol).Completes look := by
  refine (completes_find complete _).bind fun lookup => ?_
  cases lookup with
  | system => exact completes_pure none
  | notFound =>
    dsimp only
    split
    · exact completes_pure none
    · exact classNotFound_completes complete decodes _
  | found target =>
    dsimp only
    split
    · exact completes_pure _
    · exact checkClassAccess_completes complete decodes target

omit decodes in
private theorem checkMemberAccess_completes (symbol : Symbol) (declaring : LoadedClass) (access : Access) :
    (context.checkMemberAccess source symbol declaring access).Completes look := by
  refine (memberAccessible_completes complete _ _ _ _).bind fun accessible => ?_
  cases accessible <;> exact completes_pure _

private theorem checkMethodIn_completes (method : MethodSymbol) (target : LoadedClass)
    (hierarchy : Hierarchy) :
    (context.checkMethodIn source method target hierarchy).Completes look := by
  unfold checkMethodIn
  dsimp only
  split
  · exact checkMemberAccess_completes complete _ _ _
  · split
    · exact completes_pure none
    · split
      · exact completes_pure _
      · exact symbolNotFound_completes complete decodes _ _

private theorem checkMethod_completes (method : MethodSymbol) :
    (context.checkMethod source method).Completes look := by
  unfold checkMethod
  split
  · exact completes_pure none
  · refine (completes_find complete _).bind fun lookup => ?_
    cases lookup with
    | system => exact completes_pure none
    | notFound => exact classNotFound_completes complete decodes _
    | found target =>
      refine (checkClassAccess_completes complete decodes target).bind fun inaccessible => ?_
      cases inaccessible with
      | some problem => exact completes_pure _
      | none =>
        dsimp only
        split
        · exact completes_pure _
        · refine (Hierarchy.of_completes complete _ _ _).bind fun hierarchy => ?_
          split
          · exact classNotFound_completes complete decodes _
          · exact checkMethodIn_completes complete decodes method target hierarchy

private theorem checkField_completes (field : FieldSymbol) :
    (context.checkField source field).Completes look := by
  refine (completes_find complete _).bind fun lookup => ?_
  cases lookup with
  | system => exact completes_pure none
  | notFound => exact classNotFound_completes complete decodes _
  | found target =>
    refine (checkClassAccess_completes complete decodes target).bind fun inaccessible => ?_
    cases inaccessible with
    | some problem => exact completes_pure _
    | none =>
      refine (Hierarchy.of_completes complete _ _ _).bind fun hierarchy => ?_
      split
      · exact classNotFound_completes complete decodes _
      · split
        · exact checkMemberAccess_completes complete _ _ _
        · split
          · exact completes_pure none
          · exact symbolNotFound_completes complete decodes _ _

private theorem checkSymbol_completes (symbol : Symbol) :
    (context.checkSymbol source symbol).Completes look := by
  cases symbol with
  | «class» className => exact checkClass_completes complete decodes _
  | superClass className => exact checkClass_completes complete decodes _
  | superInterface className => exact checkClass_completes complete decodes _
  | method method => exact checkMethod_completes complete decodes method
  | field field => exact checkField_completes complete decodes field

omit decodes in
private theorem checkAbstractMethods_completes : (context.checkAbstractMethods source).Completes look := by
  unfold checkAbstractMethods
  split
  · exact completes_pure []
  · refine (Hierarchy.of_completes complete _ _ _).bind fun hierarchy => ?_
    dsimp only
    split <;> exact completes_pure _

end CheckContext

namespace Checker

variable {fs : FileSystem} {context : CheckContext} {look : Look}

private theorem findings_of_complete (complete : look.Complete) {row : ClassLocation × List Symbol}
    (decodes : row.1.entry.Decodes context.fs) : ∃ new, findings context look row = .ok new := by
  have loads : (context.loadSource row.1).Completes look :=
    CheckContext.loadSource_completes complete decodes
  obtain ⟨loaded, read⟩ := loads
  cases loaded with
  | none => exact ⟨[], by rw [findings, read]; rfl⟩
  | some info =>
    obtain ⟨own, listed⟩ := decodes.classNames
    have each := @CheckContext.checkSymbol_completes context look complete ⟨row.1, info⟩ decodes
    have all : ∃ results, symbolFindings context look ⟨row.1, info⟩ own row.2 = .ok results :=
      mapM_of_ok fun symbol _ => each symbol
    obtain ⟨results, checked⟩ := all
    have implements : (context.checkAbstractMethods ⟨row.1, info⟩).Completes look :=
      CheckContext.checkAbstractMethods_completes complete
    obtain ⟨abstract, implemented⟩ := implements
    refine ⟨results.filterMap id ++ abstract, ?_⟩
    rw [findings, read]
    change sourceFindings context look ⟨row.1, info⟩ row.2 = _
    rw [sourceFindings, listed]
    change symbolFindings context look ⟨row.1, info⟩ own row.2 >>= _ = _
    rw [checked]
    change (context.checkAbstractMethods ⟨row.1, info⟩).answer look >>= _ = _
    rw [implemented]
    rfl

/-- A run gives its problems if all classes of the class path and of the platform's own entries can
be read, and all classes to check are on the class path. -/
theorem problems_of_decodes {checker : Checker}
    (decodes : ∀ entry ∈ checker.loader.classpath ++ checker.loader.bootstrap, entry.Decodes fs)
    (held : ∀ row ∈ checker.references.table, row.1.entry ∈ checker.loader.classpath) :
    ∃ problems, checker.problems fs = .ok problems := by
  rw [problems_eq_answered]
  refine ⟨_, answered_iff.2 ⟨fun row member => ?_, rfl⟩⟩
  have ofEntry : row.1.entry.Decodes (checker.context fs).fs :=
    decodes _ (List.mem_append_left _ (held row member))
  obtain ⟨new, checked⟩ := findings_of_complete (Loader.load_complete decodes) ofEntry
  rw [foundFor, found, checked]
  rfl

end Checker

end Linkage
