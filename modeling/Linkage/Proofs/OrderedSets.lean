import Linkage.Proofs.Ordered

/-!
Ordered lists as sets and tables.

All orders here are transitive, so that insertions keep a list in increasing order. In such a list
an element is there once, up to what compares equal. So a set can be restricted before or after its
elements are inserted, and changes of a table at different keys can be made in any order.
-/

set_option autoImplicit false

namespace Linkage

open Std (LawfulEqOrd ReflOrd TransOrd TransCmp OrientedCmp OrientedOrd)

section Orders

def Path.Component.text : Component → String
  | name text => text
  | _ => ""

theorem Path.Component.order_eq : order = compareLex (compareOn rank) (compareOn text) := by
  funext a b
  cases a <;> cases b <;> simp [order, compareLex, compareOn, rank, text] <;> rfl

instance : TransOrd Path.Component := by
  change TransCmp Path.Component.order
  rw [Path.Component.order_eq]
  infer_instance

instance : TransOrd Path := inferInstanceAs (TransCmp (compareOn Path.components))

instance : TransOrd Coordinate :=
  inferInstanceAs (TransCmp (compareLex (compareOn Coordinate.group) <|
    compareLex (compareOn Coordinate.artifact) <|
      compareLex (compareOn Coordinate.version) (compareOn Coordinate.classifier)))

instance : TransOrd Key :=
  inferInstanceAs (TransCmp (compareLex (compareOn Key.group) (compareOn Key.artifact)))

instance : TransOrd ClasspathEntry :=
  inferInstanceAs (TransCmp
    (compareLex (compareOn ClasspathEntry.path) (compareOn ClasspathEntry.coordinate)))

instance : TransOrd ClassLocation :=
  inferInstanceAs (TransCmp
    (compareLex (compareOn ClassLocation.className) (compareOn ClassLocation.entry)))

/-- The name and the descriptor of a member, and whether its owner is taken for an interface. -/
def Symbol.member : Symbol → String × String × Bool
  | method symbol => (symbol.name, symbol.descriptor, symbol.ofInterface)
  | field symbol => (symbol.name, symbol.descriptor, false)
  | _ => ("", "", false)

theorem Symbol.order_eq : order = compareLex (compareOn kindRank) (compareLex (compareOn className)
    (compareLex (compareOn (·.member.1)) (compareLex (compareOn (·.member.2.1))
      (compareOn (·.member.2.2))))) := by
  funext a b
  cases a <;> cases b <;>
    simp [order, compareLex, compareOn, kindRank, className, member, MethodSymbol.order,
      FieldSymbol.order] <;> rfl

instance : TransOrd Symbol := by
  change TransCmp Symbol.order
  rw [Symbol.order_eq]
  infer_instance

instance : TransOrd Problem :=
  inferInstanceAs (TransCmp (compareLex (compareOn Problem.symbol) (compareOn Problem.source)))

end Orders

namespace Ordered

variable {α κ ν : Type} [Ord α] [Ord κ]

section Sets

variable {items : List α} {new item : α}

/-- A list in increasing order, in which no two elements compare equal. -/
def Sorted (items : List α) : Prop := items.Pairwise fun a b => compare a b = .lt

theorem sorted_nil : Sorted ([] : List α) := List.Pairwise.nil

/-- The set with further elements, which are inserted one after another. -/
def insertAll (set new : List α) : List α := new.foldl (fun set item => insert item set) set

theorem insertAll_append (set new more : List α) :
    insertAll set (new ++ more) = insertAll (insertAll set new) more :=
  List.foldl_append

private theorem insert_of_lt_all (less : ∀ item ∈ items, compare new item = .lt) :
    insert new items = new :: items := by
  cases items with
  | nil => rfl
  | cons head rest => simp only [insert, less head List.mem_cons_self]

theorem contains_filter {keep : α → Bool} (respects : ∀ a b, compare a b = .eq → keep a = keep b)
    (items : List α) (item : α) :
    contains (items.filter keep) item = true ↔ keep item = true ∧ contains items item = true := by
  simp only [contains, List.any_eq_true, beq_iff_eq, List.mem_filter]
  constructor
  · rintro ⟨other, ⟨member, kept⟩, same⟩
    exact ⟨(respects item other same).trans kept, other, member, same⟩
  · rintro ⟨kept, other, member, same⟩
    exact ⟨other, ⟨member, (respects item other same).symm.trans kept⟩, same⟩

variable [TransOrd α]

theorem lt_of_mem_of_lt {head : α} {rest : List α} (less : compare new head = .lt)
    (sorted : Sorted (head :: rest)) (member : item ∈ head :: rest) : compare new item = .lt := by
  rcases List.mem_cons.1 member with rfl | later
  · exact less
  · exact TransCmp.lt_trans less ((List.pairwise_cons.1 sorted).1 item later)

theorem Sorted.insert (sorted : Sorted items) : Sorted (insert new items) := by
  induction items with
  | nil => exact List.pairwise_singleton _ _
  | cons head rest ih =>
    obtain ⟨before, others⟩ := List.pairwise_cons.1 sorted
    unfold Ordered.insert
    split
    · next less =>
      exact List.pairwise_cons.2 ⟨fun item => lt_of_mem_of_lt less sorted, sorted⟩
    · exact sorted
    · next greater =>
      refine List.pairwise_cons.2 ⟨?_, ih others⟩
      intro item member
      rcases mem_insert member with rfl | old
      · exact OrientedCmp.lt_of_gt greater
      · exact before item old

theorem Sorted.insertAll (sorted : Sorted items) (new : List α) : Sorted (insertAll items new) := by
  induction new generalizing items with
  | nil => exact sorted
  | cons head rest ih => exact ih sorted.insert

theorem sorted_ofList (items : List α) : Sorted (ofList items) := sorted_nil.insertAll items

private theorem insert_of_all_lt (less : ∀ item ∈ items, compare item new = .lt) :
    insert new items = items ++ [new] := by
  induction items with
  | nil => rfl
  | cons head rest ih =>
    have greater : compare new head = .gt := OrientedCmp.gt_of_lt (less head List.mem_cons_self)
    simp only [insert, greater, ih fun item later => less item (List.mem_cons_of_mem _ later)]
    rfl

/-- Elements that go on behind a set in increasing order are appended to it. -/
theorem Sorted.insertAll_eq_append {set new : List α} (sorted : Sorted (set ++ new)) :
    Ordered.insertAll set new = set ++ new := by
  induction new generalizing set with
  | nil => exact (List.append_nil set).symm
  | cons head rest ih =>
    have before : ∀ item ∈ set, compare item head = .lt := fun item member =>
      (List.pairwise_append.1 sorted).2.2 item member head List.mem_cons_self
    have shifted : set ++ head :: rest = (set ++ [head]) ++ rest := by simp
    change Ordered.insertAll (Ordered.insert head set) rest = _
    rw [shifted] at sorted ⊢
    rw [insert_of_all_lt before, ih sorted]

theorem Sorted.ofList_eq (sorted : Sorted items) : ofList items = items :=
  Sorted.insertAll_eq_append sorted

theorem Sorted.nodup (sorted : Sorted items) : items.Nodup := by
  refine sorted.imp ?_
  intro a b less same
  rw [same, ReflOrd.compare_self] at less
  cases less

/-- What is kept of a set after an insertion, if it does not matter which of the elements that
compare equal is there. -/
theorem filter_insert {keep : α → Bool} (respects : ∀ a b, compare a b = .eq → keep a = keep b)
    (sorted : Sorted items) :
    (insert new items).filter keep =
      if keep new then insert new (items.filter keep) else items.filter keep := by
  induction items with
  | nil => simp only [insert, List.filter_cons, List.filter_nil]
  | cons head rest ih =>
    obtain ⟨before, others⟩ := List.pairwise_cons.1 sorted
    cases compared : compare new head with
    | lt =>
      have less : ∀ item ∈ (head :: rest).filter keep, compare new item = .lt :=
        fun item member => lt_of_mem_of_lt compared sorted (List.mem_filter.1 member).1
      simp only [insert, compared, insert_of_lt_all less]
      exact List.filter_cons
    | eq =>
      have same := respects new head compared
      simp only [insert, compared, List.filter_cons, same]
      split
      · simp only [insert, compared]
      · rfl
    | gt =>
      simp only [insert, compared, List.filter_cons, ih others]
      cases keep head with
      | true => cases keep new <;> simp [insert, compared]
      | false => rfl

/-- A set may be restricted before or after elements are inserted. -/
theorem filter_insertAll {keep : α → Bool}
    (respects : ∀ a b, compare a b = .eq → keep a = keep b) (new : List α)
    (sorted : Sorted items) :
    (insertAll items new).filter keep = insertAll (items.filter keep) (new.filter keep) := by
  induction new generalizing items with
  | nil => rfl
  | cons head rest ih =>
    change (insertAll (insert head items) rest).filter keep = _
    rw [ih sorted.insert, filter_insert respects sorted, List.filter_cons]
    split <;> rfl

private theorem contains_insert (item new : α) (items : List α) :
    contains (insert new items) item = true ↔
      compare item new = .eq ∨ contains items item = true := by
  simp only [contains, List.any_eq_true, beq_iff_eq]
  constructor
  · rintro ⟨other, member, same⟩
    rcases mem_insert member with rfl | old
    · exact .inl same
    · exact .inr ⟨other, old, same⟩
  · rintro (same | ⟨other, old, same⟩)
    · obtain ⟨other, member, equal⟩ := exists_mem_insert new items
      exact ⟨other, member, TransCmp.eq_trans same equal⟩
    · exact ⟨other, subset_insert new items old, same⟩

theorem contains_insertAll (item : α) (set new : List α) :
    contains (insertAll set new) item = true ↔
      contains set item = true ∨ ∃ other ∈ new, compare item other = .eq := by
  induction new generalizing set with
  | nil => simp [insertAll]
  | cons head rest ih =>
    change contains (insertAll (insert head set) rest) item = true ↔ _
    rw [ih, contains_insert, or_assoc, or_left_comm]
    simp

private theorem insert_comm_of_lt {first second : α} (less : compare first second = .lt)
    (items : List α) :
    insert second (insert first items) = insert first (insert second items) := by
  have greater : compare second first = .gt := OrientedCmp.gt_of_lt less
  induction items with
  | nil => simp only [insert, less, greater]
  | cons head rest ih =>
    -- The head is greater than both, than the first only, or than none of them.
    cases compared : compare second head with
    | lt => simp only [insert, TransCmp.lt_trans less compared, compared, less, greater]
    | eq => simp only [insert, TransCmp.lt_of_lt_of_eq less compared, compared, greater]
    | gt => cases other : compare first head <;> simp only [insert, other, compared, greater, ih]

private theorem insert_comm [LawfulEqOrd α] (first second : α) (items : List α) :
    insert second (insert first items) = insert first (insert second items) := by
  cases compared : compare first second with
  | lt => exact insert_comm_of_lt compared items
  | eq => rw [Std.compare_eq_iff_eq.1 compared]
  | gt => exact (insert_comm_of_lt (OrientedCmp.lt_of_gt compared) items).symm

theorem insertAll_perm [LawfulEqOrd α] {new others : List α} (perm : new.Perm others)
    (set : List α) : insertAll set new = insertAll set others :=
  perm.foldl_eq' (fun first _ second _ set => insert_comm first second set) set

end Sets

section Tables

variable {key other : κ} {initial value : ν} {change : ν → ν} {table : List (κ × ν)}

theorem keys_update (key : κ) (initial : ν) (change : ν → ν) (table : List (κ × ν)) :
    (update key initial change table).map (·.1) = insert key (table.map (·.1)) := by
  induction table with
  | nil => rfl
  | cons head rest ih =>
    cases compared : compare key head.1 <;> simp [update, insert, compared, ih]

theorem get?_cons (head : κ × ν) (rest : List (κ × ν)) (key : κ) :
    get? (head :: rest) key = if compare key head.1 = .eq then some head.2 else get? rest key := by
  unfold get?
  by_cases same : compare key head.1 = .eq
  · rw [if_pos same, List.find?_cons_of_pos (by simpa using same)]
    rfl
  · rw [if_neg same, List.find?_cons_of_neg (by simpa using same)]

theorem get?_append (table others : List (κ × ν)) (key : κ) :
    get? (table ++ others) key = (get? table key).or (get? others key) := by
  rw [get?, List.find?_append, Option.map_or]
  rfl

theorem get?_eq_find? [LawfulEqOrd κ] [DecidableEq κ] (table : List (κ × ν)) (key : κ) :
    get? table key = (table.find? (·.1 = key)).map (·.2) := by
  rw [get?]
  congr 2
  funext row
  rw [Bool.eq_iff_iff, beq_iff_eq, decide_eq_true_iff, Std.compare_eq_iff_eq, eq_comm]

private theorem get?_eq_none_of_lt {key : κ} (less : ∀ row ∈ table, compare key row.1 = .lt) :
    get? table key = none := by
  induction table with
  | nil => rfl
  | cons head rest ih =>
    have distinct : compare key head.1 ≠ .eq := by simp [less head List.mem_cons_self]
    rw [get?_cons, if_neg distinct]
    exact ih fun row member => less row (List.mem_cons_of_mem _ member)

theorem update_update [ReflOrd κ] (key : κ) (initial : ν) (first second : ν → ν)
    (table : List (κ × ν)) :
    update key initial second (update key initial first table) =
      update key initial (second ∘ first) table := by
  induction table with
  | nil => simp [update]
  | cons head rest ih =>
    cases compared : compare key head.1 with
    | lt => simp [update, compared]
    | eq => simp [update, compared]
    | gt => simp [update, compared, ih]

variable [TransOrd κ]

private theorem update_comm_of_lt {first second : κ} {left right : ν → ν}
    (less : compare first second = .lt) (initial : ν) (table : List (κ × ν)) :
    update second initial right (update first initial left table) =
      update first initial left (update second initial right table) := by
  have greater : compare second first = .gt := OrientedCmp.gt_of_lt less
  induction table with
  | nil => simp only [update, less, greater]
  | cons head rest ih =>
    cases compared : compare second head.1 with
    | lt => simp only [update, TransCmp.lt_trans less compared, compared, less, greater]
    | eq => simp only [update, TransCmp.lt_of_lt_of_eq less compared, compared, greater]
    | gt => cases other : compare first head.1 <;> simp only [update, other, compared, greater, ih]

theorem update_comm {first second : κ} {left right : ν → ν}
    (different : compare first second ≠ .eq) (initial : ν) (table : List (κ × ν)) :
    update second initial right (update first initial left table) =
      update first initial left (update second initial right table) := by
  cases compared : compare first second with
  | lt => exact update_comm_of_lt compared initial table
  | eq => exact absurd compared different
  | gt => exact (update_comm_of_lt (OrientedCmp.lt_of_gt compared) initial table).symm

theorem get?_update_self (sorted : Sorted (table.map (·.1))) (key : κ) (initial : ν)
    (change : ν → ν) :
    get? (update key initial change table) key = some (change ((get? table key).getD initial)) := by
  induction table with
  | nil => simp [update, get?]
  | cons head rest ih =>
    cases compared : compare key head.1 with
    | lt =>
      have absent : get? (head :: rest) key = none := get?_eq_none_of_lt fun row member =>
        lt_of_mem_of_lt compared sorted (List.mem_map_of_mem member)
      simp [update, compared, get?_cons (key, _), absent]
    | eq => simp [update, compared, get?_cons]
    | gt =>
      have later := ih (List.pairwise_cons.1 sorted).2
      simp [update, compared, get?_cons, later]

theorem get?_update_of_ne {key sought : κ} (different : compare sought key ≠ .eq) (initial : ν)
    (change : ν → ν) (table : List (κ × ν)) :
    get? (update key initial change table) sought = get? table sought := by
  induction table with
  | nil => simp [update, get?, different]
  | cons head rest ih =>
    cases compared : compare key head.1 with
    | lt => simp [update, compared, get?_cons (key, _), different]
    | eq =>
      have other : compare sought head.1 ≠ .eq := fun same =>
        different (TransCmp.eq_trans same (OrientedCmp.eq_symm compared))
      simp [update, compared, get?_cons, other]
    | gt => simp [update, compared, get?_cons, ih]

end Tables

section Rows

variable {ι : Type} [TransOrd κ] {sought : κ} {table : List (κ × ν)}
  (sorted : Sorted (table.map (·.1))) (keyOf : ι → κ) (valueOf : ι → ν)

include sorted

theorem Sorted.put (key : κ) (value : ν) : Sorted ((put key value table).map (·.1)) := by
  rw [Ordered.put, keys_update]
  exact sorted.insert

theorem Sorted.putNew (key : κ) (value : ν) : Sorted ((putNew key value table).map (·.1)) := by
  rw [Ordered.putNew, keys_update]
  exact sorted.insert

theorem Sorted.foldl_put (items : List ι) :
    Sorted ((items.foldl (fun table item => Ordered.put (keyOf item) (valueOf item) table)
      table).map (·.1)) := by
  induction items generalizing table with
  | nil => exact sorted
  | cons item rest ih => exact ih (sorted.put _ _)

theorem Sorted.foldl_putNew (items : List ι) :
    Sorted ((items.foldl (fun table item => Ordered.putNew (keyOf item) (valueOf item) table)
      table).map (·.1)) := by
  induction items generalizing table with
  | nil => exact sorted
  | cons item rest ih => exact ih (sorted.putNew _ _)

variable [LawfulEqOrd κ] [DecidableEq κ]

private theorem get?_put (key : κ) (value : ν) :
    get? (put key value table) sought =
      if key = sought then some value else get? table sought := by
  split
  · next same => rw [← same, Ordered.put, get?_update_self sorted]
  · next different =>
    apply get?_update_of_ne
    exact fun same => different (Std.compare_eq_iff_eq.1 same).symm

private theorem get?_putNew (key : κ) (value : ν) :
    get? (putNew key value table) sought =
      (get? table sought).or (if key = sought then some value else none) := by
  split
  · next same =>
    rw [← same, Ordered.putNew, get?_update_self sorted]
    cases get? table key <;> rfl
  · next different =>
    rw [Option.or_none]
    apply get?_update_of_ne
    exact fun same => different (Std.compare_eq_iff_eq.1 same).symm

/-- Of several values for one key the last one counts. -/
theorem get?_foldl_put (items : List ι) :
    get? (items.foldl (fun table item => put (keyOf item) (valueOf item) table) table) sought =
      ((items.reverse.find? (keyOf · = sought)).map valueOf).or (get? table sought) := by
  induction items generalizing table with
  | nil => rfl
  | cons item rest ih =>
    rw [List.foldl_cons, ih (sorted.put _ _), get?_put sorted, List.reverse_cons,
      List.find?_append]
    cases rest.reverse.find? (keyOf · = sought) with
    | some last => rfl
    | none => by_cases same : keyOf item = sought <;> simp [same]

/-- Of several values for one key the first one counts. -/
theorem get?_foldl_putNew (items : List ι) :
    get? (items.foldl (fun table item => putNew (keyOf item) (valueOf item) table) table) sought =
      (get? table sought).or ((items.find? (keyOf · = sought)).map valueOf) := by
  induction items generalizing table with
  | nil => simp
  | cons item rest ih =>
    rw [List.foldl_cons, ih (sorted.putNew _ _), get?_putNew sorted, Option.or_assoc,
      List.find?_cons]
    by_cases same : keyOf item = sought <;> simp [same]

end Rows

end Ordered

end Linkage
