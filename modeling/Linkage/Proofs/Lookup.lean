import Linkage.Check.Hierarchy
import Linkage.Proofs.Inquiry

/-!
What a lookup says about the entries.

A class that is found was read from an entry that defines it, or is described as part of the
platform. A class is not found exactly if it does not come with the platform and no entry of the
class path defines it.
-/

set_option autoImplicit false

namespace Linkage

namespace ClasspathEntry

variable {entry : ClasspathEntry} {fs : FileSystem} {className : String}

/-- Only a class that the entry defines can be read from it. -/
theorem readClass_some {bytes : Bytes} (read : entry.readClass fs className = .ok (some bytes)) :
    ∃ names, entry.classNames fs = .ok names ∧ className ∈ names := by
  obtain ⟨names, listed, rest⟩ := bind_ok read
  refine ⟨names, listed, ?_⟩
  unfold readListed at rest
  split at rest
  · next contained => exact List.contains_iff_mem.1 contained
  · cases rest

/-- An entry has no bytes for a class exactly if it does not define it. -/
theorem readClass_none_iff : entry.readClass fs className = .ok none ↔
    ∃ names, entry.classNames fs = .ok names ∧ className ∉ names := by
  constructor
  · intro read
    obtain ⟨names, listed, rest⟩ := bind_ok read
    refine ⟨names, listed, fun member => ?_⟩
    unfold readListed at rest
    rw [if_pos (List.contains_iff_mem.2 member)] at rest
    split at rest
    · obtain ⟨bytes, _, same⟩ := map_ok rest
      cases same
    · obtain ⟨bytes, _, same⟩ := map_ok rest
      cases same
  · rintro ⟨names, listed, absent⟩
    have uncontained : ¬ names.contains className = true :=
      fun contained => absent (List.contains_iff_mem.1 contained)
    simp only [readClass, listed, bind, Except.bind, readListed, if_neg uncontained]

end ClasspathEntry

namespace Loader

variable {fs : FileSystem} {className : String} {loader : Loader}

/-- A class that was read from some entries: where it was, and how it was read. -/
def ReadFrom (fs : FileSystem) (className : String) (loaded : LoadedClass)
    (entries : List ClasspathEntry) : Prop :=
  ∃ entry ∈ entries, ∃ bytes, entry.readClass fs className = .ok (some bytes) ∧
    ClassInfo.decode bytes = .ok loaded.info ∧ loaded.location = ⟨entry, className⟩

private theorem loadFrom_some {entries : List ClasspathEntry} {loaded : LoadedClass}
    (found : loadFrom fs className entries = .ok (some loaded)) :
    ReadFrom fs className loaded entries := by
  induction entries with
  | nil => cases found
  | cons entry rest ih =>
    obtain ⟨bytes, read, found⟩ := bind_ok found
    cases bytes with
    | none =>
      obtain ⟨other, member, facts⟩ := ih found
      exact ⟨other, List.mem_cons_of_mem _ member, facts⟩
    | some bytes =>
      obtain ⟨_, decoded, same⟩ := map_ok found
      cases same
      obtain ⟨info, valid, same⟩ := map_ok decoded
      cases same
      exact ⟨entry, List.mem_cons_self, bytes, read, mapError_ok valid, rfl⟩

theorem loadFrom_none_iff {entries : List ClasspathEntry} :
    loadFrom fs className entries = .ok none ↔
      ∀ entry ∈ entries, entry.readClass fs className = .ok none := by
  induction entries with
  | nil => simp [loadFrom]
  | cons entry rest ih =>
    rw [List.forall_mem_cons, ← ih]
    constructor
    · intro absent
      obtain ⟨bytes, read, absent⟩ := bind_ok absent
      cases bytes with
      | none => exact ⟨read, absent⟩
      | some bytes =>
        obtain ⟨_, _, same⟩ := map_ok absent
        cases same
    · rintro ⟨read, absent⟩
      simp only [loadFrom, read]
      exact absent

/-- A class is not found exactly if it neither comes with the platform nor is defined by an entry of
the class path. -/
theorem load_notFound_iff : loader.load fs className = .ok .notFound ↔
    loader.isSystem className = false ∧ ∀ entry ∈ loader.classpath,
      ∃ names, entry.classNames fs = .ok names ∧ className ∉ names := by
  unfold load
  cases system : loader.isSystem className with
  | true =>
    simp only [if_true]
    constructor
    · intro absent
      obtain ⟨loaded, _, absent⟩ := bind_ok absent
      cases loaded with
      | some loaded => cases absent
      | none =>
        simp only [describedLookup] at absent
        split at absent <;> cases absent
    · rintro ⟨same, _⟩
      cases same
  | false =>
    simp only [Bool.false_eq_true, if_false, true_and, ← ClasspathEntry.readClass_none_iff,
      ← loadFrom_none_iff]
    constructor
    · intro absent
      obtain ⟨loaded, read, absent⟩ := bind_ok absent
      cases loaded with
      | some loaded => cases absent
      | none => exact read
    · intro read
      rw [read]
      rfl

/-- Where a class that is found comes from. -/
theorem load_found {loaded : LoadedClass} (found : loader.load fs className = .ok (.found loaded)) :
    (loader.isSystem className = false ∧ ReadFrom fs className loaded loader.classpath) ∨
      (loader.isSystem className = true ∧ ReadFrom fs className loaded loader.bootstrap) ∨
      (loader.isSystem className = true ∧ Platform.find? className = some loaded.info ∧
        loaded.location = ⟨platformEntry, className⟩) := by
  unfold load at found
  cases system : loader.isSystem className with
  | false =>
    simp only [system, Bool.false_eq_true, if_false] at found
    obtain ⟨read, from_, found⟩ := bind_ok found
    cases read with
    | none => cases found
    | some read =>
      cases found
      exact .inl ⟨rfl, loadFrom_some from_⟩
  | true =>
    simp only [system, if_true] at found
    obtain ⟨read, from_, found⟩ := bind_ok found
    cases read with
    | some read =>
      cases found
      exact .inr (.inl ⟨rfl, loadFrom_some from_⟩)
    | none =>
      simp only [describedLookup] at found
      split at found
      · next info described =>
        cases found
        exact .inr (.inr ⟨rfl, described, rfl⟩)
      · cases found

private theorem mem_listed {entries : List ClasspathEntry} {loaded : LoadedClass}
    (read : ReadFrom fs className loaded entries) :
    className ∈ entries.flatMap fun entry =>
      match entry.classNames fs with
      | .ok names => names
      | .error _ => [] := by
  obtain ⟨entry, member, bytes, read, _⟩ := read
  obtain ⟨names, listed, inNames⟩ := ClasspathEntry.readClass_some read
  refine List.mem_flatMap.2 ⟨entry, member, ?_⟩
  simpa only [listed] using inNames

/-- Every class that is found is among those that can be found. -/
theorem mem_classNames_of_load {loaded : LoadedClass}
    (found : loader.load fs className = .ok (.found loaded)) :
    className ∈ loader.classNames fs := by
  unfold classNames
  rw [List.flatMap_append]
  rcases load_found found with ⟨_, read⟩ | ⟨_, read⟩ | ⟨_, described, _⟩
  · exact List.mem_append_left _ (List.mem_append_left _ (mem_listed read))
  · exact List.mem_append_left _ (List.mem_append_right _ (mem_listed read))
  · obtain ⟨description, listed, _⟩ := Option.map_eq_some_iff.1 described
    have named : description.name = className := by simpa using List.find?_some listed
    refine List.mem_append_right _ (List.mem_map.2 ⟨description, ?_, named⟩)
    exact List.mem_of_find?_eq_some listed

/-- Something is known of the class that all classes extend, wherever it is looked for. -/
theorem load_object_ne_system : loader.load fs objectClass ≠ .ok .system := by
  intro hidden
  unfold load at hidden
  have described : describedLookup objectClass ≠ .system := by decide
  split at hidden
  · obtain ⟨read, _, hidden⟩ := bind_ok hidden
    cases read with
    | some read => cases hidden
    | none => exact described (Except.ok.inj hidden)
  · obtain ⟨read, _, hidden⟩ := bind_ok hidden
    cases read <;> cases hidden

end Loader

end Linkage
