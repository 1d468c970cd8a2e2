import Linkage.Proofs.Supertypes
import Mathlib.Data.List.Nodup
import Mathlib.Logic.Relation

/-!
The steps of an ascent.

Each step of an ascent visits one fresh name and notes what is known of it. Superclasses and
interfaces differ only in how a class is noted of which nothing is known. What a step keeps, a whole
ascent keeps: no class is listed twice, and a hidden superclass is not taken for an interface.
-/

set_option autoImplicit false

namespace Linkage

namespace Ascent

/-- One step of an ascent, where `hide` notes a class of which nothing is known. -/
inductive Step (look : Look) (hide : Ascent → String → Ascent) (ascent : Ascent) :
    Ascent → Prop where
  | found {name : String} {loaded : LoadedClass} (fresh : name ∉ ascent.seen)
      (known : look name = .ok (.found loaded)) :
      Step look hide ascent (ascent.withFound name loaded)
  | hidden {name : String} (fresh : name ∉ ascent.seen) (known : look name = .ok .system) :
      Step look hide ascent (hide ascent name)
  | missing {name : String} (fresh : name ∉ ascent.seen) (known : look name = .ok .notFound) :
      Step look hide ascent (ascent.withMissing name)

variable {look : Look}

theorem climb_steps {steps : Nat} {next : Option String} {ascent final : Ascent}
    (answered : (climb steps next ascent).answer look = .ok final) :
    Relation.ReflTransGen (Step look withHiddenSuperclass) ascent final := by
  induction steps generalizing next ascent with
  | zero =>
    cases answered
    exact .refl
  | succ steps ih =>
    cases next with
    | none =>
      cases answered
      exact .refl
    | some name =>
      simp only [climb] at answered
      split at answered
      · cases answered
        exact .refl
      · next unmarked =>
        have fresh : name ∉ ascent.seen := fun seen => unmarked (List.contains_iff_mem.2 seen)
        obtain ⟨lookup, known, answered⟩ := Inquiry.answer_find_bind_ok answered
        cases lookup with
        | found loaded => exact .head (.found fresh known) (ih answered)
        | system =>
          cases answered
          exact .single (.hidden fresh known)
        | notFound =>
          cases answered
          exact .single (.missing fresh known)

private theorem spreadTo_steps {onFound : List String → Ascent → Inquiry Ascent} {final : Ascent}
    (goesOn : ∀ {queue ascent}, (onFound queue ascent).answer look = .ok final →
      Relation.ReflTransGen (Step look withHiddenInterface) ascent final)
    {queue : List String} {ascent : Ascent}
    (answered : (spreadTo onFound queue ascent).answer look = .ok final) :
    Relation.ReflTransGen (Step look withHiddenInterface) ascent final := by
  induction queue generalizing ascent with
  | nil =>
    cases answered
    exact .refl
  | cons name rest ih =>
    simp only [spreadTo] at answered
    split at answered
    · exact ih answered
    · next unmarked =>
      have fresh : name ∉ ascent.seen := fun seen => unmarked (List.contains_iff_mem.2 seen)
      cases known : look name with
      | error error => simp [Inquiry.answer, known] at answered
      | ok lookup =>
        rw [Inquiry.answer_lookUp_ok known] at answered
        cases lookup with
        | found loaded => exact .head (.found fresh known) (goesOn answered)
        | system => exact .head (.hidden fresh known) (ih answered)
        | notFound => exact .head (.missing fresh known) (ih answered)

theorem spread_steps {more : Nat} {queue : List String} {ascent final : Ascent}
    (answered : (spread more queue ascent).answer look = .ok final) :
    Relation.ReflTransGen (Step look withHiddenInterface) ascent final := by
  induction more generalizing queue ascent with
  | zero =>
    apply spreadTo_steps ?_ answered
    intro _ _ same
    cases same
    exact .refl
  | succ more ih => exact spreadTo_steps ih answered

/-- Behind the class itself, every class of an ascent has a name of its own, which has been
visited. -/
structure Apart (ascent : Ascent) : Prop where
  starts : ascent.hierarchy.classes ≠ []
  distinct : ((ascent.hierarchy.classes.drop 1).map (·.location.className)).Nodup
  visited : ∀ loaded ∈ ascent.hierarchy.classes.drop 1, loaded.location.className ∈ ascent.seen

private theorem ofClass_apart (start : LoadedClass) : (ofClass start).Apart where
  starts := List.cons_ne_nil _ _
  distinct := List.nodup_nil
  visited := fun _ none => absurd none List.not_mem_nil

private theorem Apart.of_same_classes {ascent later : Ascent} (apart : ascent.Apart)
    (classes : later.hierarchy.classes = ascent.hierarchy.classes)
    (seen : ascent.seen ⊆ later.seen) : later.Apart where
  starts := classes ▸ apart.starts
  distinct := classes ▸ apart.distinct
  visited := by
    rw [classes]
    exact fun loaded member => seen (apart.visited loaded member)

/-- A class that is found under a fresh name is none of those that are listed. -/
theorem Apart.withFound {ascent : Ascent} {name : String} {loaded : LoadedClass}
    (apart : ascent.Apart) (fresh : name ∉ ascent.seen)
    (located : loaded.location.className = name) : (ascent.withFound name loaded).Apart := by
  have behind : (ascent.withFound name loaded).hierarchy.classes.drop 1 =
      ascent.hierarchy.classes.drop 1 ++ [loaded] :=
    List.drop_append_of_le_length (List.length_pos_of_ne_nil apart.starts)
  refine ⟨List.append_ne_nil_of_left_ne_nil apart.starts _, ?_, ?_⟩
  · rw [behind, List.map_append, List.map_singleton, List.nodup_append]
    refine ⟨apart.distinct, List.nodup_singleton _, ?_⟩
    intro other listed new isNew same
    obtain ⟨earlier, member, rfl⟩ := List.mem_map.1 listed
    rw [List.mem_singleton.1 isNew, located] at same
    exact fresh (same ▸ apart.visited earlier member)
  · rw [behind]
    intro other member
    rcases List.mem_append.1 member with old | new
    · exact List.mem_cons_of_mem _ (apart.visited other old)
    · rw [List.mem_singleton.1 new, located]
      exact List.mem_cons_self

/-- Noting a class in a way that lists none, and only marks its name as visited. -/
structure ListsNone (hide : Ascent → String → Ascent) : Prop where
  classes : ∀ ascent name, (hide ascent name).hierarchy.classes = ascent.hierarchy.classes
  seen : ∀ ascent name, (hide ascent name).seen = name :: ascent.seen

theorem withHiddenSuperclass_listsNone : ListsNone withHiddenSuperclass :=
  ⟨fun _ _ => rfl, fun _ _ => rfl⟩

theorem withHiddenInterface_listsNone : ListsNone withHiddenInterface :=
  ⟨fun _ _ => rfl, fun _ _ => rfl⟩

section Located

variable (located : ∀ {name loaded}, look name = .ok (.found loaded) →
  loaded.location.className = name) {hide : Ascent → String → Ascent}
  (listsNone : ListsNone hide)

include located listsNone

theorem Step.apart {ascent later : Ascent} (step : Step look hide ascent later)
    (apart : ascent.Apart) : later.Apart := by
  cases step with
  | found fresh known => exact apart.withFound fresh (located known)
  | hidden fresh known =>
    apply apart.of_same_classes (listsNone.classes _ _)
    rw [listsNone.seen]
    exact List.subset_cons_self _ _
  | missing fresh known => exact apart.of_same_classes rfl (List.subset_cons_self _ _)

private theorem apart_of_steps {ascent final : Ascent}
    (steps : Relation.ReflTransGen (Step look hide) ascent final) (apart : ascent.Apart) :
    final.Apart := by
  induction steps with
  | refl => exact apart
  | tail _ step ih => exact step.apart located listsNone ih

end Located

/-- Every class that is listed was looked up, except for the one that the ascent starts from. -/
def AllFound (look : Look) (start : LoadedClass) (ascent : Ascent) : Prop :=
  ∀ loaded ∈ ascent.hierarchy.classes, loaded = start ∨ ∃ name, look name = .ok (.found loaded)

theorem AllFound.withFound {start : LoadedClass} {ascent : Ascent} {name : String}
    {loaded : LoadedClass} (allFound : ascent.AllFound look start)
    (known : look name = .ok (.found loaded)) :
    (ascent.withFound name loaded).AllFound look start := by
  intro other member
  rcases List.mem_append.1 member with old | new
  · exact allFound other old
  · rw [List.mem_singleton.1 new]
    exact .inr ⟨name, known⟩

private theorem allFound_of_steps {hide : Ascent → String → Ascent} (listsNone : ListsNone hide)
    {start : LoadedClass} {ascent final : Ascent}
    (steps : Relation.ReflTransGen (Step look hide) ascent final)
    (allFound : ascent.AllFound look start) : final.AllFound look start := by
  induction steps with
  | refl => exact allFound
  | tail _ step ih =>
    cases step with
    | found fresh known => exact ih.withFound known
    | hidden fresh known =>
      unfold AllFound
      rw [listsNone.classes]
      exact ih
    | missing fresh known => exact ih

/-- No interface is hidden as long as only superclasses have been visited. -/
theorem hiddenInterface_of_climb {ascent final : Ascent}
    (steps : Relation.ReflTransGen (Step look withHiddenSuperclass) ascent final) :
    final.hierarchy.hiddenInterface = ascent.hierarchy.hiddenInterface := by
  induction steps with
  | refl => rfl
  | tail _ step ih => cases step <;> exact ih

end Ascent

namespace Hierarchy

theorem of_apart {look : Look} {start : LoadedClass} {withObject : Bool} {hierarchy : Hierarchy}
    (located : ∀ {name loaded}, look name = .ok (.found loaded) → loaded.location.className = name)
    (plain : (withObject && start.info.isInterface) = false) {bound : Nat}
    (answered : (Hierarchy.of bound start withObject).answer look = .ok hierarchy) :
    ((hierarchy.classes.drop 1).map (·.location.className)).Nodup := by
  obtain ⟨climbed, climb, answered⟩ := Inquiry.answer_bind_ok answered
  obtain ⟨final, spread, answered⟩ := Inquiry.answer_bind_ok answered
  simp only [plain, Bool.false_eq_true, if_false] at answered
  cases answered
  have apart := Ascent.apart_of_steps located Ascent.withHiddenSuperclass_listsNone
    (Ascent.climb_steps climb) (Ascent.ofClass_apart start)
  exact (Ascent.apart_of_steps located Ascent.withHiddenInterface_listsNone
    (Ascent.spread_steps spread) apart).distinct

theorem of_allFound {look : Look} {start : LoadedClass} {withObject : Bool} {hierarchy : Hierarchy}
    {bound : Nat} (answered : (Hierarchy.of bound start withObject).answer look = .ok hierarchy) :
    ∀ loaded ∈ hierarchy.classes, loaded = start ∨ ∃ name, look name = .ok (.found loaded) := by
  obtain ⟨climbed, climb, answered⟩ := Inquiry.answer_bind_ok answered
  obtain ⟨final, spread, answered⟩ := Inquiry.answer_bind_ok answered
  have start_found : (Ascent.ofClass start).AllFound look start := by
    intro loaded member
    exact .inl (List.mem_singleton.1 member)
  have climbed_found := Ascent.allFound_of_steps Ascent.withHiddenSuperclass_listsNone
    (Ascent.climb_steps climb) start_found
  have final_found := Ascent.allFound_of_steps Ascent.withHiddenInterface_listsNone
    (Ascent.spread_steps spread) climbed_found
  split at answered
  · obtain ⟨seen, saw, answered⟩ := Inquiry.answer_bind_ok answered
    cases answered
    unfold Ascent.seeObject at saw
    split at saw
    · cases saw
      exact final_found
    · obtain ⟨lookup, known, saw⟩ := Inquiry.answer_find_bind_ok saw
      cases lookup with
      | found loaded =>
        cases saw
        exact final_found.withFound known
      | system =>
        cases saw
        exact final_found
      | notFound =>
        cases saw
        exact final_found
  · cases answered
    exact final_found

end Hierarchy

end Linkage
