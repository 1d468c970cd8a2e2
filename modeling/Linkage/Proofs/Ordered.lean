import Linkage.Check.References

/-!
What compares equal, and what insertions into ordered lists keep.

Paths compare equal if they have the same components, and what is compared through paths inherits
this. All other orders tell different elements apart. No lemma here asks for a list to be in order:
an insertion passes over elements or ends at one that compares equal, wherever that stands.
-/

set_option autoImplicit false

namespace Linkage

open Std (LawfulEqOrd ReflOrd)

theorem lawfulEqOrd_of_iff {α : Type} [Ord α]
    (equal : ∀ a b : α, compare a b = .eq ↔ a = b) : LawfulEqOrd α where
  compare_self {a} := (equal a a).2 rfl
  eq_of_compare {a b} same := (equal a b).1 same

theorem Path.Component.order_eq_iff (a b : Component) : a.order b = .eq ↔ a = b := by
  cases a <;> cases b <;> simp [order, rank]

instance : LawfulEqOrd Path.Component := lawfulEqOrd_of_iff Path.Component.order_eq_iff

theorem Path.same_iff {a b : Path} : a.same b = true ↔ a.components = b.components := by
  simp only [same, order, beq_iff_eq]
  exact Std.LawfulEqCmp.compare_eq_iff_eq

theorem Coordinate.order_eq_iff (a b : Coordinate) : a.order b = .eq ↔ a = b := by
  cases a
  cases b
  simp [order, Ordering.then_eq_eq]

instance : LawfulEqOrd Coordinate := lawfulEqOrd_of_iff Coordinate.order_eq_iff

theorem Key.order_eq_iff (a b : Key) : a.order b = .eq ↔ a = b := by
  cases a
  cases b
  simp [order, Ordering.then_eq_eq]

instance : LawfulEqOrd Key := lawfulEqOrd_of_iff Key.order_eq_iff

theorem ClasspathEntry.same_iff {a b : ClasspathEntry} :
    a.same b = true ↔ a.path.components = b.path.components ∧ a.coordinate = b.coordinate := by
  rw [← Path.same_iff]
  simp only [same, order, beq_iff_eq, Ordering.then_eq_eq, Std.compare_eq_iff_eq, Path.same]
  rfl

theorem ClassLocation.same_iff {a b : ClassLocation} :
    a.same b = true ↔ a.className = b.className ∧ a.entry.same b.entry = true := by
  simp only [same, order, beq_iff_eq, Ordering.then_eq_eq, Std.compare_eq_iff_eq,
    ClasspathEntry.same]
  rfl

theorem MethodSymbol.order_eq_iff (a b : MethodSymbol) : a.order b = .eq ↔ a = b := by
  cases a
  cases b
  simp [order, Ordering.then_eq_eq]

theorem FieldSymbol.order_eq_iff (a b : FieldSymbol) : a.order b = .eq ↔ a = b := by
  cases a
  cases b
  simp [order, Ordering.then_eq_eq]

theorem Symbol.order_eq_iff (a b : Symbol) : a.order b = .eq ↔ a = b := by
  cases a <;> cases b <;>
    simp [order, kindRank, MethodSymbol.order_eq_iff, FieldSymbol.order_eq_iff]

instance : LawfulEqOrd Symbol := lawfulEqOrd_of_iff Symbol.order_eq_iff

theorem Problem.compare_eq_iff {a b : Problem} :
    compare a b = .eq ↔ a.symbol = b.symbol ∧ a.source.same b.source = true := by
  rw [ClassLocation.same, beq_iff_eq, ← Symbol.order_eq_iff]
  exact Ordering.then_eq_eq

theorem ClasspathEntry.same_refl (entry : ClasspathEntry) : entry.same entry = true :=
  same_iff.2 ⟨rfl, rfl⟩

theorem ClassLocation.same_refl (location : ClassLocation) : location.same location = true :=
  same_iff.2 ⟨rfl, location.entry.same_refl⟩

instance : ReflOrd ClassLocation where
  compare_self {location} := beq_iff_eq.1 location.same_refl

instance : ReflOrd Problem where
  compare_self {problem} := Problem.compare_eq_iff.2 ⟨rfl, problem.source.same_refl⟩

namespace Ordered

variable {α κ ν : Type} [Ord α] [Ord κ]

theorem mem_insert {new item : α} {items : List α} (member : item ∈ insert new items) :
    item = new ∨ item ∈ items := by
  induction items with
  | nil => exact .inl (List.mem_singleton.1 member)
  | cons head rest ih =>
    unfold insert at member
    split at member
    · exact List.mem_cons.1 member
    · exact .inr member
    · rcases List.mem_cons.1 member with rfl | member
      · exact .inr List.mem_cons_self
      · exact (ih member).imp_right (List.mem_cons_of_mem _)

theorem subset_insert (new : α) (items : List α) : items ⊆ insert new items := by
  induction items with
  | nil => exact List.nil_subset _
  | cons head rest ih =>
    unfold insert
    split
    · exact List.subset_cons_self new _
    · exact List.Subset.refl _
    · exact List.cons_subset_cons head ih

/-- After an insertion there is an element that compares equal to the new one. -/
theorem exists_mem_insert [ReflOrd α] (new : α) (items : List α) :
    ∃ item ∈ insert new items, compare new item = .eq := by
  induction items with
  | nil => exact ⟨new, List.mem_singleton_self new, ReflOrd.compare_self⟩
  | cons head rest ih =>
    unfold insert
    split
    · exact ⟨new, List.mem_cons_self, ReflOrd.compare_self⟩
    · next same => exact ⟨head, List.mem_cons_self, same⟩
    · obtain ⟨item, member, same⟩ := ih
      exact ⟨item, List.mem_cons_of_mem _ member, same⟩

theorem mem_insert_iff [LawfulEqOrd α] {new item : α} {items : List α} :
    item ∈ insert new items ↔ item = new ∨ item ∈ items := by
  refine ⟨mem_insert, ?_⟩
  rintro (rfl | member)
  · obtain ⟨other, member, same⟩ := exists_mem_insert item items
    cases Std.compare_eq_iff_eq.1 same
    exact member
  · exact subset_insert new items member

theorem mem_foldl_insert_iff [LawfulEqOrd α] {item : α} {new items : List α} :
    item ∈ new.foldl (fun set item => insert item set) items ↔ item ∈ items ∨ item ∈ new := by
  induction new generalizing items with
  | nil => simp
  | cons head rest ih =>
    rw [List.foldl_cons, ih, mem_insert_iff, List.mem_cons, or_comm (a := item = head), or_assoc]

theorem mem_ofList_iff [LawfulEqOrd α] {item : α} {items : List α} :
    item ∈ ofList items ↔ item ∈ items := by
  simp [ofList, mem_foldl_insert_iff]

section Update

variable {key other : κ} {initial value : ν} {change : ν → ν} {table : List (κ × ν)}

/-- An entry of an updated table was there before, or is the one that was changed. -/
theorem mem_update (member : (other, value) ∈ update key initial change table) :
    (other, value) ∈ table ∨ other = key ∧ value = change initial ∨
      compare key other = .eq ∧ ∃ old, (other, old) ∈ table ∧ value = change old := by
  induction table with
  | nil => exact .inr (.inl (Prod.mk.inj (List.mem_singleton.1 member)))
  | cons head rest ih =>
    unfold update at member
    split at member
    · rcases List.mem_cons.1 member with same | member
      · exact .inr (.inl (Prod.mk.inj same))
      · exact .inl member
    · next same =>
      rcases List.mem_cons.1 member with changed | member
      · cases changed
        exact .inr (.inr ⟨same, _, List.mem_cons_self, rfl⟩)
      · exact .inl (List.mem_cons_of_mem _ member)
    · rcases List.mem_cons.1 member with same | member
      · exact .inl (List.mem_cons.2 (.inl same))
      · rcases ih member with kept | added | ⟨same, old, there, changed⟩
        · exact .inl (List.mem_cons_of_mem _ kept)
        · exact .inr (.inl added)
        · exact .inr (.inr ⟨same, old, List.mem_cons_of_mem _ there, changed⟩)

/-- An update keeps an entry, or changes its value. -/
theorem mem_update_of_mem (member : (other, value) ∈ table) :
    (other, value) ∈ update key initial change table ∨
      (other, change value) ∈ update key initial change table := by
  induction table with
  | nil => cases member
  | cons head rest ih =>
    unfold update
    split
    · exact .inl (List.mem_cons_of_mem _ member)
    · rcases List.mem_cons.1 member with same | member
      · cases same
        exact .inr List.mem_cons_self
      · exact .inl (List.mem_cons_of_mem _ member)
    · rcases List.mem_cons.1 member with same | member
      · exact .inl (List.mem_cons.2 (.inl same))
      · exact (ih member).imp (List.mem_cons_of_mem _) (List.mem_cons_of_mem _)

/-- After an update there is a changed value at a key that compares equal. -/
theorem exists_mem_update [ReflOrd κ] (key : κ) (initial : ν) (change : ν → ν)
    (table : List (κ × ν)) :
    ∃ other old, (other, change old) ∈ update key initial change table ∧
      compare key other = .eq := by
  induction table with
  | nil => exact ⟨key, initial, List.mem_singleton_self _, ReflOrd.compare_self⟩
  | cons head rest ih =>
    unfold update
    split
    · exact ⟨key, initial, List.mem_cons_self, ReflOrd.compare_self⟩
    · next same => exact ⟨_, _, List.mem_cons_self, same⟩
    · obtain ⟨other, old, member, same⟩ := ih
      exact ⟨other, old, List.mem_cons_of_mem _ member, same⟩

end Update

end Ordered

end Linkage
