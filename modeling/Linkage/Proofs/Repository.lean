import Linkage.Proofs.Inquiry

/-!
Repositories answer as their loaders do.

What a repository remembers, the listings of its entries and its last lookups, is what the files
say. This holds of a fresh repository and is kept by every lookup. So as long as the files stay the
same, an inquiry has the same result whatever has been looked up before it.
-/

set_option autoImplicit false

namespace Linkage

/-- An entry in use that remembers no other classes than those that it defines. -/
def OpenEntry.Faithful (fs : FileSystem) (opened : OpenEntry) : Prop :=
  ∀ names, opened.listed = some names → opened.entry.classNames fs = .ok names

namespace OpenEntry

variable {fs : FileSystem}

private theorem ofEntry_faithful (entry : ClasspathEntry) : (ofEntry entry).Faithful fs := by
  intro names listed
  cases listed

private theorem map_entry_ofEntry (entries : List ClasspathEntry) :
    (entries.map ofEntry).map (·.entry) = entries := by
  rw [List.map_map]
  exact List.map_id _

/-- The listing of an entry may be used whether it is remembered or made for the purpose. -/
theorem withNames_eq {α : Type} {opened : OpenEntry} (faithful : opened.Faithful fs)
    (use : List String → Except CheckerError α) :
    (opened.withNames fs use).1 = opened.entry.classNames fs >>= use := by
  unfold withNames
  cases listed : opened.listed with
  | some names =>
    rw [faithful names listed]
    rfl
  | none => cases opened.entry.classNames fs <;> rfl

private theorem withNames_entry {α : Type} (opened : OpenEntry) (fs : FileSystem)
    (use : List String → Except CheckerError α) :
    (opened.withNames fs use).2.entry = opened.entry := by
  unfold withNames
  cases opened.listed with
  | some names => rfl
  | none => cases opened.entry.classNames fs <;> rfl

private theorem withNames_faithful {α : Type} {opened : OpenEntry} (faithful : opened.Faithful fs)
    (use : List String → Except CheckerError α) :
    (opened.withNames fs use).2.Faithful fs := by
  unfold withNames
  cases listed : opened.listed with
  | some names => exact faithful
  | none =>
    cases made : opened.entry.classNames fs with
    | error error => exact faithful
    | ok names =>
      intro remembered same
      cases same
      exact made

end OpenEntry

namespace Lru

variable {κ ν : Type} [DecidableEq κ] {lru after : Lru κ ν} {key : κ} {value : ν}

private theorem mem_without {values : List (κ × ν)} {row : κ × ν} :
    row ∈ without key values ↔ row ∈ values ∧ row.1 ≠ key := by
  simp [without]

/-- A value that is found stands in the table, which stays as it is. -/
theorem mem_of_get? (found : lru.get? key = some (value, after)) :
    (key, value) ∈ lru.values ∧ after = lru.touch key := by
  obtain ⟨held, looked, same⟩ := Option.map_eq_some_iff.1 found
  cases same
  obtain ⟨before, behind, split, _⟩ := List.lookup_eq_some_iff.1 looked
  refine ⟨?_, rfl⟩
  rw [split]
  exact List.mem_append_right _ List.mem_cons_self

private theorem evictFrom_values_subset (capacity : Nat) (values : List (κ × ν)) (order : List κ) :
    (evictFrom capacity values order).values ⊆ values := by
  induction order generalizing values with
  | nil => exact List.Subset.refl values
  | cons oldest rest ih =>
    rw [evictFrom]
    split
    · exact List.Subset.trans (ih (without oldest values)) List.filter_sublist.subset
    · exact List.Subset.refl values

/-- Storing a value brings nothing else into the table, and no other value of its key stays. -/
theorem mem_of_mem_insert {row : κ × ν} (member : row ∈ (lru.insert key value).values) :
    row = (key, value) ∨ row ∈ lru.values ∧ row.1 ≠ key := by
  rcases List.mem_cons.1 (evictFrom_values_subset _ _ _ member) with new | old
  · exact .inl new
  · exact .inr (mem_without.1 old)

end Lru

namespace Repository

variable {fs : FileSystem}

private theorem loadFrom_eq {className : String} {opened : List OpenEntry}
    (faithful : ∀ entry ∈ opened, entry.Faithful fs) :
    (loadFrom fs className opened).1 = Loader.loadFrom fs className (opened.map (·.entry)) := by
  induction opened with
  | nil => rfl
  | cons first rest ih =>
    have read := OpenEntry.withNames_eq (faithful first List.mem_cons_self)
      (first.entry.readListed fs className)
    have entry := OpenEntry.withNames_entry first fs (first.entry.readListed fs className)
    have inner := ih fun entry member => faithful entry (List.mem_cons_of_mem _ member)
    simp only [loadFrom, OpenEntry.readClass, List.map_cons, Loader.loadFrom,
      ClasspathEntry.readClass, ← read]
    generalize first.withNames fs (first.entry.readListed fs className) = used at entry
    obtain ⟨result, after⟩ := used
    cases result with
    | error error => rfl
    | ok bytes =>
      cases bytes with
      | none => exact inner
      | some bytes =>
        simp only at entry
        simp only [entry]
        rfl

/-- Loading a class keeps the entries, and keeps them faithful. -/
theorem loadFrom_entries (className : String) {opened : List OpenEntry}
    (faithful : ∀ entry ∈ opened, entry.Faithful fs) :
    (loadFrom fs className opened).2.map (·.entry) = opened.map (·.entry) ∧
      ∀ entry ∈ (loadFrom fs className opened).2, entry.Faithful fs := by
  induction opened with
  | nil => exact ⟨rfl, faithful⟩
  | cons first rest ih =>
    have entry := OpenEntry.withNames_entry first fs (first.entry.readListed fs className)
    have kept := OpenEntry.withNames_faithful (faithful first List.mem_cons_self)
      (first.entry.readListed fs className)
    have others : ∀ entry ∈ rest, entry.Faithful fs :=
      fun entry member => faithful entry (List.mem_cons_of_mem _ member)
    have inner := ih others
    simp only [loadFrom, OpenEntry.readClass]
    generalize first.withNames fs (first.entry.readListed fs className) = used at entry kept
    obtain ⟨result, after⟩ := used
    simp only at entry kept
    cases result with
    | error error =>
      exact ⟨by simp [entry], List.forall_mem_cons.2 ⟨kept, others⟩⟩
    | ok bytes =>
      cases bytes with
      | none => exact ⟨by simp [entry, inner.1], List.forall_mem_cons.2 ⟨kept, inner.2⟩⟩
      | some bytes => exact ⟨by simp [entry], List.forall_mem_cons.2 ⟨kept, others⟩⟩

/-- A repository of the entries of a loader that remembers nothing but what the files say. -/
structure Follows (fs : FileSystem) (loader : Loader) (repository : Repository) : Prop where
  classpath : repository.classpath.map (·.entry) = loader.classpath
  bootstrap : repository.bootstrap.map (·.entry) = loader.bootstrap
  systemPackages : repository.systemPackages = loader.systemPackages
  classpathFaithful : ∀ entry ∈ repository.classpath, entry.Faithful fs
  bootstrapFaithful : ∀ entry ∈ repository.bootstrap, entry.Faithful fs
  cached : ∀ cache, repository.cache = some cache →
    ∀ item ∈ cache.values, loader.load fs item.1 = .ok item.2

variable {loader : Loader} {repository : Repository}

theorem ofLoader_follows (fs : FileSystem) (loader : Loader)
    {cache : Option (Lru String ClassLookup)}
    (empty : ∀ lru, cache = some lru → lru.values = []) :
    (ofLoader loader cache).Follows fs loader where
  classpath := OpenEntry.map_entry_ofEntry loader.classpath
  bootstrap := OpenEntry.map_entry_ofEntry loader.bootstrap
  systemPackages := rfl
  classpathFaithful := by
    intro opened member
    obtain ⟨entry, _, rfl⟩ := List.mem_map.1 member
    exact OpenEntry.ofEntry_faithful entry
  bootstrapFaithful := by
    intro opened member
    obtain ⟨entry, _, rfl⟩ := List.mem_map.1 member
    exact OpenEntry.ofEntry_faithful entry
  cached := by
    intro lru same item member
    rw [empty lru same] at member
    cases member

/-- A repository that has not been used follows its loader. -/
theorem ofCapacity_follows (fs : FileSystem) (loader : Loader) (capacity : Nat) :
    (ofCapacity loader capacity).Follows fs loader := by
  apply ofLoader_follows
  intro lru same
  split at same
  · cases same
  · cases same
    rfl

private theorem Follows.load_eq (follows : repository.Follows fs loader) (className : String) :
    (repository.load fs className).1 = loader.load fs className := by
  have system : repository.isSystem className = loader.isSystem className := by
    simp only [Repository.isSystem, Loader.isSystem, follows.systemPackages]
  unfold load Loader.load
  rw [system]
  split
  · rw [← follows.bootstrap, ← loadFrom_eq follows.bootstrapFaithful]
    generalize loadFrom fs className repository.bootstrap = read
    obtain ⟨loaded, bootstrap⟩ := read
    cases loaded with
    | error error => rfl
    | ok loaded => cases loaded <;> rfl
  · rw [← follows.classpath, ← loadFrom_eq follows.classpathFaithful]
    generalize loadFrom fs className repository.classpath = read
    obtain ⟨loaded, classpath⟩ := read
    cases loaded with
    | error error => rfl
    | ok loaded => cases loaded <;> rfl

theorem Follows.load (follows : repository.Follows fs loader) (className : String) :
    (repository.load fs className).2.Follows fs loader := by
  unfold Repository.load
  split
  · obtain ⟨entries, faithful⟩ := loadFrom_entries className follows.bootstrapFaithful
    exact { follows with
      bootstrap := entries.trans follows.bootstrap
      bootstrapFaithful := faithful }
  · obtain ⟨entries, faithful⟩ := loadFrom_entries className follows.classpathFaithful
    exact { follows with
      classpath := entries.trans follows.classpath
      classpathFaithful := faithful }

/-- What a lookup gives is what the loader gives, and the repository still follows the loader. -/
theorem Follows.find (follows : repository.Follows fs loader) (className : String) :
    (repository.find fs className).1 = loader.load fs className ∧
      (repository.find fs className).2.Follows fs loader := by
  unfold Repository.find
  cases remembered : repository.remembered? className with
  | some hit =>
    obtain ⟨lookup, after⟩ := hit
    obtain ⟨cache, used, got⟩ := Option.bind_eq_some_iff.1 remembered
    obtain ⟨⟨value, lru⟩, found, same⟩ := Option.map_eq_some_iff.1 got
    cases same
    obtain ⟨member, touched⟩ := Lru.mem_of_get? found
    subst touched
    refine ⟨(follows.cached cache used _ member).symm, { follows with cached := ?_ }⟩
    intro held isHeld item inHeld
    cases isHeld
    exact follows.cached cache used item inHeld
  | none =>
    have same := follows.load_eq className
    have kept := follows.load className
    generalize repository.load fs className = read at same kept
    obtain ⟨result, after⟩ := read
    cases result with
    | error error => exact ⟨same, kept⟩
    | ok lookup =>
      refine ⟨same, { kept with cached := ?_ }⟩
      intro held isHeld item inHeld
      obtain ⟨cache, used, stored⟩ := Option.map_eq_some_iff.1 isHeld
      subst stored
      rcases Lru.mem_of_mem_insert inHeld with new | ⟨old, _⟩
      · rw [new]
        exact same.symm
      · exact kept.cached cache used item old

end Repository

namespace Inquiry

variable {fs : FileSystem} {loader : Loader}

/-- A repository that follows a loader answers an inquiry as the loader does. -/
theorem run_eq_answer {α : Type} (inquiry : Inquiry α) {repository : Repository}
    (follows : repository.Follows fs loader) :
    (inquiry.run fs repository).1 = inquiry.answer (loader.load fs) ∧
      (inquiry.run fs repository).2.Follows fs loader := by
  induction inquiry generalizing repository with
  | done result => exact ⟨rfl, follows⟩
  | lookUp className next ih =>
    obtain ⟨same, kept⟩ := follows.find className
    simp only [run, answer, ← same]
    generalize repository.find fs className = looked at kept
    obtain ⟨result, after⟩ := looked
    cases result with
    | error error => exact ⟨rfl, kept⟩
    | ok lookup => exact ih lookup kept

/-- An inquiry has the same result whatever a repository has been asked before. -/
theorem run_after_eq_answer {α β : Type} (inquiry : Inquiry α) (earlier : Inquiry β)
    (capacity : Nat) :
    (inquiry.run fs (earlier.run fs (.ofCapacity loader capacity)).2).1 =
      inquiry.answer (loader.load fs) := by
  have follows := (run_eq_answer earlier (Repository.ofCapacity_follows fs loader capacity)).2
  exact (run_eq_answer inquiry follows).1

end Inquiry

end Linkage
