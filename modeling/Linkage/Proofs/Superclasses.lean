import Linkage.Proofs.HierarchySteps
import Mathlib.Data.List.Chain

/-!
The order of the classes in a hierarchy.

A hierarchy starts with a class and its superclasses, each behind the class that extends it, up to
the first one that is not found or has been visited before. What is found through interfaces comes
behind them. So a search along a hierarchy meets a class before the superclasses of that class, also
where the superclasses form a cycle.
-/

set_option autoImplicit false

namespace Linkage

/-- Whether a class names its superclass, and this is what is found under the name. -/
def DirectSuperclass (look : Look) (lower upper : LoadedClass) : Prop :=
  ∃ name, lower.info.superName = some name ∧ look name = .ok (.found upper)

theorem DirectSuperclass.unique {look : Look} {lower upper other : LoadedClass}
    (left : DirectSuperclass look lower upper) (right : DirectSuperclass look lower other) :
    upper = other := by
  obtain ⟨name, named, found⟩ := left
  obtain ⟨name', named', found'⟩ := right
  cases Option.some.inj (named.symm.trans named')
  rw [found] at found'
  cases found'
  rfl

namespace Ascent

variable {look : Look} {start : LoadedClass}

/-- Superclasses stand behind the classes that extend them, and one that is hidden exists. -/
structure Ranked (look : Look) (start : LoadedClass) (ascent : Ascent) : Prop where
  linked : ascent.hierarchy.classes.IsChain (DirectSuperclass look)
  hidden : ascent.hierarchy.hiddenSuperclass = true →
    ∃ name, IsSuperclass look start.info name ∧ look name = .ok .system

private theorem ofClass_ranked (look : Look) (start : LoadedClass) : (ofClass start).Ranked look start := by
  refine ⟨List.isChain_singleton start, ?_⟩
  intro noted
  cases noted

theorem Ranked.withFound {ascent : Ascent} {below : List LoadedClass} {last loaded : LoadedClass}
    {name : String} (ranked : ascent.Ranked look start)
    (ends : ascent.hierarchy.classes = below ++ [last]) (named : last.info.superName = some name)
    (known : look name = .ok (.found loaded)) :
    (ascent.withFound name loaded).Ranked look start := by
  refine ⟨?_, ranked.hidden⟩
  have linked := ranked.linked
  rw [ends] at linked
  simp only [Ascent.withFound, Hierarchy.add, ends, List.append_assoc, List.singleton_append]
  apply List.isChain_append_cons_cons.2
  exact ⟨linked, ⟨name, named, known⟩, List.isChain_singleton loaded⟩

private theorem climb_ranked {steps : Nat} {next : Option String} {ascent final : Ascent}
    {below : List LoadedClass} {last : LoadedClass} (ranked : ascent.Ranked look start)
    (ends : ascent.hierarchy.classes = below ++ [last]) (goesOn : last.info.superName = next)
    (above : ∀ name, next = some name → IsSuperclass look start.info name)
    (answered : (climb steps next ascent).answer look = .ok final) : final.Ranked look start := by
  induction steps generalizing next ascent below last with
  | zero =>
    cases answered
    exact ranked
  | succ steps ih =>
    cases next with
    | none =>
      cases answered
      exact ranked
    | some name =>
      have isSuperclass := above name rfl
      simp only [climb] at answered
      split at answered
      · cases answered
        exact ranked
      · obtain ⟨lookup, known, answered⟩ := Inquiry.answer_find_bind_ok answered
        cases lookup with
        | found loaded =>
          have longer : (ascent.withFound name loaded).hierarchy.classes =
              (below ++ [last]) ++ [loaded] := congrArg (· ++ [loaded]) ends
          apply ih (ranked.withFound ends goesOn known) longer rfl ?_ answered
          intro higher named
          exact .above isSuperclass known named
        | system =>
          cases answered
          exact ⟨ranked.linked, fun _ => ⟨name, isSuperclass, known⟩⟩
        | notFound =>
          cases answered
          exact ⟨ranked.linked, ranked.hidden⟩

/-- What an ascent keeps of an earlier one while it visits interfaces. -/
structure Keeps (ascent final : Ascent) : Prop where
  classes : ascent.hierarchy.classes <+: final.hierarchy.classes
  hiddenSuperclass : final.hierarchy.hiddenSuperclass = ascent.hierarchy.hiddenSuperclass

theorem spread_keeps {more : Nat} {queue : List String} {ascent final : Ascent}
    (answered : (spread more queue ascent).answer look = .ok final) : ascent.Keeps final := by
  have steps := spread_steps answered
  clear answered
  induction steps with
  | refl => exact ⟨List.prefix_refl _, rfl⟩
  | tail _ step ih =>
    cases step with
    | found fresh known => exact ⟨ih.classes.trans (List.prefix_append _ _), ih.hiddenSuperclass⟩
    | hidden fresh known => exact ⟨ih.classes, ih.hiddenSuperclass⟩
    | missing fresh known => exact ⟨ih.classes, ih.hiddenSuperclass⟩

theorem Valid.isSuperclass {ascent : Ascent} {lower : LoadedClass} {name : String}
    (valid : ascent.Valid look start (IsSuperclass look start.info))
    (member : lower ∈ ascent.hierarchy.classes) (named : lower.info.superName = some name) :
    IsSuperclass look start.info name := by
  rcases valid.classes lower member with same | ⟨below, isSuperclass, found⟩
  · subst same
    exact .direct named
  · exact .above isSuperclass found named

end Ascent

/-- A supertype that goes by the name that a class declares is the class. -/
def LoadedClass.OwnsName (look : Look) (start : LoadedClass) (withObject : Bool) : Prop :=
  IsSupertype look start.info withObject start.info.name →
    look start.info.name = .ok (.found start)

/-- No supertype of a class is absent: each is found, or comes with the platform. -/
def ClassInfo.SupertypesPresent (look : Look) (info : ClassInfo) (withObject : Bool) : Prop :=
  ∀ name, IsSupertype look info withObject name →
    ∃ lookup, look name = .ok lookup ∧ lookup ≠ .notFound

/-- The superclasses of a class depend on nothing but the superclass that it names. -/
theorem IsSuperclass.of_superName {look : Look} {start other : ClassInfo} {name : String}
    (above : IsSuperclass look start name) (same : start.superName = other.superName) :
    IsSuperclass look other name := by
  induction above with
  | direct named => exact .direct (same.symm.trans named)
  | above _ found named ih => exact .above ih found named

namespace ClassLookup

def found? : ClassLookup → Option LoadedClass
  | found loaded => some loaded
  | system | notFound => none

def directSupertypes (lookup : ClassLookup) : List String :=
  lookup.found?.toList.flatMap fun loaded => loaded.info.superName.toList ++ loaded.info.interfaces

end ClassLookup

/-- Rows of names and what is known of them, which are closed under the direct supertypes of a class
and of the classes in the rows. -/
def ClassInfo.SupertypesWithin (info : ClassInfo) (rows : List (String × ClassLookup)) : Prop :=
  ∀ name ∈ objectClass :: (info.superName.toList ++ info.interfaces) ++
    rows.flatMap (·.2.directSupertypes), name ∈ rows.map (·.1)

instance (info : ClassInfo) (rows : List (String × ClassLookup)) :
    Decidable (info.SupertypesWithin rows) :=
  inferInstanceAs (Decidable (∀ name ∈ _, _))

section Rows

variable {look : Look} {start : ClassInfo} {rows : List (String × ClassLookup)} {withObject : Bool}
  {name : String} (looked : ∀ row ∈ rows, look row.1 = .ok row.2)
  (within : start.SupertypesWithin rows)

include looked within

theorem IsSupertype.mem_rows (above : IsSupertype look start withObject name) :
    ∃ lookup, (name, lookup) ∈ rows ∧ look name = .ok lookup := by
  have member : name ∈ rows.map (·.1) := by
    apply above.mem_of_closed
    · exact within _ List.mem_cons_self
    · intro direct named
      exact within _ (List.mem_append_left _ (List.mem_cons_of_mem _ named))
    · intro lower member loaded found higher named
      obtain ⟨row, inRows, rfl⟩ := List.mem_map.1 member
      have same : row.2 = .found loaded := Except.ok.inj ((looked row inRows).symm.trans found)
      refine within _ (List.mem_append_right _ (List.mem_flatMap.2 ⟨row, inRows, ?_⟩))
      rw [same]
      exact List.mem_flatMap.2 ⟨loaded, List.mem_singleton_self _, named⟩
  obtain ⟨row, inRows, rfl⟩ := List.mem_map.1 member
  exact ⟨row.2, inRows, looked row inRows⟩

theorem IsSupertype.found_of_rows (found : ∀ row ∈ rows, row.2.found?.isSome = true)
    (above : IsSupertype look start withObject name) :
    ∃ loaded, look name = .ok (.found loaded) := by
  obtain ⟨lookup, member, known⟩ := above.mem_rows looked within
  obtain ⟨loaded, same⟩ := Option.isSome_iff_exists.1 (found _ member)
  cases lookup <;> cases same
  exact ⟨loaded, known⟩

theorem IsSupertype.visible_of_rows (visible : ∀ row ∈ rows, row.2 ≠ .system)
    (above : IsSupertype look start withObject name) : look name ≠ .ok .system := by
  intro hidden
  obtain ⟨lookup, member, known⟩ := above.mem_rows looked within
  exact visible _ member (Except.ok.inj (known.symm.trans hidden))

theorem IsSuperclass.mem_rows (above : IsSuperclass look start name) :
    ∃ lookup, (name, lookup) ∈ rows ∧ look name = .ok lookup :=
  (IsSupertype.superclass above : IsSupertype look start false name).mem_rows looked within

theorem IsSuperclass.visible_of_rows (visible : ∀ row ∈ rows, row.2 ≠ .system)
    (above : IsSuperclass look start name) : look name ≠ .ok .system :=
  (IsSupertype.superclass above : IsSupertype look start false name).visible_of_rows looked within
    visible

theorem ClassInfo.supertypesPresent_of_rows (present : ∀ row ∈ rows, row.2 ≠ .notFound) :
    start.SupertypesPresent look withObject := by
  intro name above
  obtain ⟨lookup, member, known⟩ := above.mem_rows looked within
  exact ⟨lookup, known, present _ member⟩

end Rows

theorem LoadedClass.ownsName_of_rows {look : Look} {start : LoadedClass} {withObject : Bool}
    {rows : List (String × ClassLookup)} (looked : ∀ row ∈ rows, look row.1 = .ok row.2)
    (within : start.info.SupertypesWithin rows) (unlisted : start.info.name ∉ rows.map (·.1)) :
    start.OwnsName look withObject := by
  intro above
  obtain ⟨lookup, member, _⟩ := above.mem_rows looked within
  exact absurd (List.mem_map_of_mem member) unlisted

namespace Hierarchy

variable {look : Look} {start : LoadedClass} {withObject : Bool}

/-- A hierarchy that notes only what is there, and begins with superclasses in their order. -/
structure Ascends (look : Look) (start : LoadedClass) (withObject : Bool) (hierarchy : Hierarchy) :
    Prop where
  classes : ∀ loaded ∈ hierarchy.classes, loaded = start ∨
    ∃ name, IsSupertype look start.info withObject name ∧ look name = .ok (.found loaded)
  missing : ∀ name, hierarchy.missing = some name →
    IsSupertype look start.info withObject name ∧ look name = .ok .notFound
  hidden : hierarchy.isHidden = true →
    ∃ name, IsSupertype look start.info withObject name ∧ look name = .ok .system
  hiddenSuperclass : hierarchy.hiddenSuperclass = true →
    ∃ name, IsSuperclass look start.info name ∧ look name = .ok .system
  superclasses : ∃ above, start :: above <+: hierarchy.classes ∧
    (start :: above).IsChain (DirectSuperclass look) ∧
    (start.OwnsName look withObject → ∀ lower ∈ start :: above, ∀ upper,
      DirectSuperclass look lower upper → upper ∈ start :: above)

/-- The hierarchy of a class ascends, unless it is one of an interface that has the class that all
classes extend at its end. -/
theorem of_ascends {names : List String}
    (listed : ∀ {name loaded}, look name = .ok (.found loaded) → name ∈ names)
    (plain : (withObject && start.info.isInterface) = false) {hierarchy : Hierarchy}
    (answered : (Hierarchy.of names.length start withObject).answer look = .ok hierarchy) :
    hierarchy.Ascends look start withObject := by
  obtain ⟨climbed, climb, answered⟩ := Inquiry.answer_bind_ok answered
  obtain ⟨final, spread, answered⟩ := Inquiry.answer_bind_ok answered
  simp only [plain, Bool.false_eq_true, if_false] at answered
  cases answered
  obtain ⟨valid, followed⟩ := climb_start listed climb
  have alone : (Ascent.ofClass start).hierarchy.classes = [] ++ [start] := rfl
  have ranked := Ascent.climb_ranked (Ascent.ofClass_ranked look start) alone rfl
    (fun _ named => .direct named) climb
  have keeps := Ascent.spread_keeps spread
  have final_valid := (Ascent.spread_spreads listed (climb_queued withObject valid)
    (unvisited_le_length _ _) spread).queued.valid
  obtain ⟨above, starts⟩ := valid.starts
  refine ⟨final_valid.classes, final_valid.missing, final_valid.hidden, ?_, above, ?_, ?_, ?_⟩
  · intro noted
    exact ranked.hidden (keeps.hiddenSuperclass.symm.trans noted)
  · exact starts ▸ keeps.classes
  · exact starts ▸ ranked.linked
  · intro own lower member upper superclass
    obtain ⟨name, named, found⟩ := superclass
    rw [← starts] at member ⊢
    -- The superclass of a listed class has been visited, so it is listed if it is found.
    refine valid.found_mem (followed lower member name named) ?_ found
    intro isOwn
    have isSuperclass := valid.isSuperclass member named
    subst isOwn
    exact own (.superclass isSuperclass)

theorem exists_ascending {names : List String}
    (listed : ∀ {name loaded}, look name = .ok (.found loaded) → name ∈ names)
    (plain : (withObject && start.info.isInterface) = false)
    (present : start.info.SupertypesPresent look withObject) :
    ∃ hierarchy, (Hierarchy.of names.length start withObject).answer look = .ok hierarchy ∧
      hierarchy.missing = none ∧ hierarchy.Ascends look start withObject := by
  have known : ∀ {name}, IsSupertype look start.info withObject name →
      ∃ lookup, look name = .ok lookup := by
    intro name above
    obtain ⟨lookup, found, _⟩ := present name above
    exact ⟨lookup, found⟩
  obtain ⟨hierarchy, answered⟩ := of_answers listed known
  have ascends := of_ascends listed plain answered
  refine ⟨hierarchy, answered, Option.eq_none_iff_forall_ne_some.2 fun name missing => ?_, ascends⟩
  obtain ⟨above, absent⟩ := ascends.missing name missing
  obtain ⟨lookup, found, isPresent⟩ := present name above
  rw [absent] at found
  cases found
  exact isPresent rfl

/-- A superclass of which nothing is known is noted as such. -/
theorem of_hiddenSuperclass {names : List String} {hierarchy : Hierarchy}
    (listed : ∀ {name loaded}, look name = .ok (.found loaded) → name ∈ names)
    (plain : (withObject && start.info.isInterface) = false) (own : start.OwnsName look withObject)
    (answered : (Hierarchy.of names.length start withObject).answer look = .ok hierarchy)
    {name : String} (above : IsSuperclass look start.info name) (hidden : look name = .ok .system) :
    hierarchy.hiddenSuperclass = true := by
  obtain ⟨climbed, climb, answered⟩ := Inquiry.answer_bind_ok answered
  obtain ⟨final, spread, answered⟩ := Inquiry.answer_bind_ok answered
  simp only [plain, Bool.false_eq_true, if_false] at answered
  cases answered
  obtain ⟨valid, followed⟩ := climb_start listed climb
  have visited : name ∈ climbed.seen := Ascent.mem_seen_of_superclass valid own followed above
  have noted : climbed.hierarchy.isHidden = true := by
    rcases valid.recorded name visited with isOwn | records
    · have itself := own (isOwn ▸ .superclass above)
      rw [← isOwn, hidden] at itself
      cases itself
    · exact records.isHidden hidden
  have superclassesOnly : climbed.hierarchy.hiddenInterface = false :=
    Ascent.hiddenInterface_of_climb (Ascent.climb_steps climb)
  rw [(Ascent.spread_keeps spread).hiddenSuperclass]
  simpa [isHidden, superclassesOnly] using noted

end Hierarchy

end Linkage
