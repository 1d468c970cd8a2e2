import Linkage.Check.Reference
import Linkage.Proofs.Supertypes

/-!
Handlers that guard against missing classes and members.

A source is guarded by its own handlers or by those of the outermost class around it. This class is
looked at only if it can make a difference, and a check fails if it cannot be read then.
-/

set_option autoImplicit false

namespace Linkage

namespace CheckContext

variable {context : CheckContext} {look : Look} {source : SourceClass} {types : List String}

/-- Neither the source nor the outermost class around it has a handler for one of some types. -/
structure Unguarded (context : CheckContext) (look : Look) (source : SourceClass)
    (types : List String) : Prop where
  own : source.info.catchesAny types = false
  outermost : types = [] ∨ source.location.topLevel.same source.location = true ∨
    ∃ top, (context.loadSource source.location.topLevel).answer look = .ok top ∧
      ∀ info, top = some info → info.catchesAny types = false

private theorem isGuarded_eq_false_iff :
    (context.isGuarded source types).answer look = .ok false ↔
      context.Unguarded look source types := by
  unfold isGuarded
  split
  · next none =>
    have empty := List.isEmpty_iff.1 none
    subst empty
    exact ⟨fun _ => ⟨by simp [ClassInfo.catchesAny], .inl rfl⟩, fun _ => rfl⟩
  · next some =>
    have nonempty : types ≠ [] := fun empty => some (List.isEmpty_iff.2 empty)
    split
    · next caught =>
      constructor
      · intro answered
        cases answered
      · intro unguarded
        rw [unguarded.own] at caught
        cases caught
    · next uncaught =>
      have own : source.info.catchesAny types = false := by simpa using uncaught
      split
      · next same => exact ⟨fun _ => ⟨own, .inr (.inl same)⟩, fun _ => rfl⟩
      · next different =>
        constructor
        · intro answered
          obtain ⟨top, loaded, answered⟩ := Inquiry.answer_bind_ok answered
          refine ⟨own, .inr (.inr ⟨top, loaded, ?_⟩)⟩
          rintro info rfl
          exact Except.ok.inj answered
        · intro unguarded
          obtain ⟨top, loaded, free⟩ :=
            (unguarded.outermost.resolve_left nonempty).resolve_left different
          rw [Inquiry.answer_bind_of_ok loaded]
          cases top with
          | none => rfl
          | some info => exact congrArg _ (free info rfl)

theorem isGuarded_true (answered : (context.isGuarded source types).answer look = .ok true) :
    source.info.catchesAny types = true ∨
      ∃ top, (context.loadSource source.location.topLevel).answer look = .ok (some top) ∧
        top.catchesAny types = true := by
  unfold isGuarded at answered
  split at answered
  · cases answered
  · split at answered
    · next caught => exact .inl caught
    · split at answered
      · cases answered
      · obtain ⟨top, loaded, answered⟩ := Inquiry.answer_bind_ok answered
        cases top with
        | none => cases answered
        | some info => exact .inr ⟨info, loaded, Except.ok.inj answered⟩

theorem classNotFound_ok {className : String} {result : Option Problem}
    (answered : (context.classNotFound source className).answer look = .ok result) :
    result = none ∨ result = some (source.problem .classNotFound (.class className) none) := by
  obtain ⟨guarded, _, answered⟩ := Inquiry.answer_bind_ok answered
  cases guarded with
  | true => exact .inl (Except.ok.inj answered).symm
  | false => exact .inr (Except.ok.inj answered).symm

theorem symbolNotFound_ok {symbol : Symbol} {target : LoadedClass} {result : Option Problem}
    (answered : (context.symbolNotFound source symbol target).answer look = .ok result) :
    result = none ∨ result = some (source.problem .symbolNotFound symbol (some target)) := by
  obtain ⟨guarded, _, answered⟩ := Inquiry.answer_bind_ok answered
  cases guarded with
  | true => exact .inl (Except.ok.inj answered).symm
  | false => exact .inr (Except.ok.inj answered).symm

theorem symbolNotFound_of_unguarded {symbol : Symbol} {target : LoadedClass}
    (unguarded : context.Unguarded look source context.memberGuardTypes) :
    (context.symbolNotFound source symbol target).answer look =
      .ok (some (source.problem .symbolNotFound symbol (some target))) := by
  unfold symbolNotFound
  rw [Inquiry.answer_bind_of_ok (isGuarded_eq_false_iff.2 unguarded)]
  rfl

end CheckContext

end Linkage
