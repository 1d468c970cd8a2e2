import Linkage.Artifact.Version

/-!
The laws of the order of versions.

No version differs from itself, and to compare two versions the other way round reverses the answer.
But the order is not always transitive.

Rows are compared place by place, which is transitive as long as none of them ends. What has ended
is less than some words and groups and greater than others, but every word comes before every group
and every group before every number. So `1-alpha` comes before `1` and `1` before `1.jre`, but
`1.jre` comes before `1-alpha`. And since a group counts against nothing by its first item alone,
`1` equals both `1-0.1` and `1-0.2`, which are different.

Neither happens among versions that are compatible with each other. Those made of numbers with
qualifiers behind hyphens are, unless a qualifier starts with zero or with a word for a release.
-/

set_option autoImplicit false

namespace Linkage

namespace VersionItem

/-- Three comparisons as an order gives them: of a first element with a second, of the second with a
third, and of the first with the third. -/
def Consistent (first second across : Ordering) : Prop :=
  (first = .eq → across = second) ∧ (second = .eq → across = first) ∧
    (first = second → across = first)

instance (first second across : Ordering) : Decidable (Consistent first second across) :=
  inferInstanceAs (Decidable (_ ∧ _ ∧ _))

mutual

/-- Whether two items, if they are groups, hold compatible rows. -/
def compatibleItem : VersionItem → VersionItem → Bool
  | group a, group b => compatible a b
  | _, _ => true

/-- Whether what is left of two rows compares as each of them compares with nothing, at the start
and behind places that compare equal. The same goes for groups in these places. -/
def compatible : List VersionItem → List VersionItem → Bool
  | left :: lefts, right :: rights =>
    decide (Consistent (compareRestToNothing (left :: lefts))
        (compareRestToNothing (right :: rights)).swap
        (compareItems (left :: lefts) (right :: rights))) &&
      compatibleItem left right && (compareItem left right != .eq || compatible lefts rights)
  | _, _ => true

end

private theorem compatible_nil_left (row : List VersionItem) : compatible [] row = true := by
  simp [compatible]

private theorem compatible_nil_right (row : List VersionItem) : compatible row [] = true := by
  simp [compatible]

variable {first second across : Ordering}

private theorem Consistent.rotate (consistent : Consistent first second across) :
    Consistent first.swap across second := by
  revert consistent
  cases first <;> cases second <;> cases across <;> decide

private theorem Consistent.exchange (consistent : Consistent first second.swap across) :
    Consistent across second first := by
  revert consistent
  cases first <;> cases second <;> cases across <;> decide

theorem Consistent.le_trans (consistent : Consistent first second across) :
    first ≠ .gt → second ≠ .gt → across ≠ .gt := by
  revert consistent
  cases first <;> cases second <;> cases across <;> decide

private theorem consistent_eq_left (order : Ordering) : Consistent .eq order order :=
  ⟨fun _ => rfl, fun same => same, fun same => same.symm⟩

private theorem consistent_eq_right (order : Ordering) : Consistent order .eq order :=
  ⟨fun same => same, fun _ => rfl, fun _ => rfl⟩

/-- Later comparisons count only where all three before them are equalities. -/
theorem Consistent.then {laterFirst laterSecond laterAcross : Ordering}
    (consistent : Consistent first second across)
    (later : first = .eq → second = .eq → across = .eq →
      Consistent laterFirst laterSecond laterAcross) :
    Consistent (first.then laterFirst) (second.then laterSecond) (across.then laterAcross) := by
  revert consistent later
  cases first <;> cases second <;> cases across <;>
    simp +contextual [Consistent, Ordering.then, eq_comm]

theorem consistent_compare {α : Type} [Ord α] [Std.TransOrd α] (a b c : α) :
    Consistent (compare a b) (compare b c) (compare a c) := by
  refine ⟨Std.TransCmp.congr_left, fun same => (Std.TransCmp.congr_right same).symm, ?_⟩
  intro alike
  cases ab : compare a b with
  | lt => exact Std.TransCmp.lt_trans ab (alike ▸ ab)
  | eq => exact Std.TransCmp.eq_trans ab (alike ▸ ab)
  | gt => exact Std.TransCmp.gt_trans ab (alike ▸ ab)

/-- The place of an item among those of other kinds. -/
def kind : VersionItem → Nat
  | word _ => 0
  | group _ => 1
  | number _ => 2

/-- The comparison of items of the same kind. -/
def compareAlike : VersionItem → VersionItem → Ordering
  | number a, number b => compare a b
  | word a, word b => compareWords a b
  | group a, group b => compareItems a b
  | _, _ => .eq

theorem compareItem_eq (a b : VersionItem) :
    compareItem a b = (compare a.kind b.kind).then (compareAlike a b) := by
  cases a <;> cases b <;> rw [compareItem] <;> rfl

theorem compareItems_nil (row : List VersionItem) :
    compareItems row [] = compareRestToNothing row := by
  cases row with
  | nil => rfl
  | cons item rest => rw [compareItems, compareRestToNothing]

private theorem consistent_compareWords (a b c : List Char) :
    Consistent (compareWords a b) (compareWords b c) (compareWords a c) := by
  refine (consistent_compare (wordRank a) (wordRank b) (wordRank c)).then fun ab bc _ => ?_
  have same : wordRank a = wordRank b := Std.compare_eq_iff_eq.1 ab
  rw [← same]
  split
  · decide
  · exact consistent_compare a b c

theorem compatible_cons_iff {left right : VersionItem} {lefts rights : List VersionItem} :
    compatible (left :: lefts) (right :: rights) = true ↔
      Consistent (compareRestToNothing (left :: lefts))
          (compareRestToNothing (right :: rights)).swap
          (compareItems (left :: lefts) (right :: rights)) ∧
        compatibleItem left right = true ∧
        (compareItem left right = .eq → compatible lefts rights = true) := by
  simp [compatible, and_assoc, Decidable.imp_iff_not_or]

/-- Compatible rows compare as each compares with nothing. -/
theorem consistent_nothing {left right : List VersionItem}
    (compatibles : compatible left right = true) :
    Consistent (compareRestToNothing left) (compareRestToNothing right).swap
      (compareItems left right) := by
  cases left with
  | nil => exact consistent_eq_left _
  | cons left lefts =>
    cases right with
    | nil =>
      rw [compareItems_nil]
      exact consistent_eq_right _
    | cons right rights => exact (compatible_cons_iff.1 compatibles).1

mutual

private theorem consistent_compareItem (a b c : VersionItem) (ab : compatibleItem a b = true)
    (bc : compatibleItem b c = true) (ac : compatibleItem a c = true) :
    Consistent (compareItem a b) (compareItem b c) (compareItem a c) := by
  rw [compareItem_eq, compareItem_eq, compareItem_eq]
  refine (consistent_compare a.kind b.kind c.kind).then fun sameLeft sameRight _ => ?_
  cases a with
  | word a =>
    cases b with
    | word b =>
      cases c with
      | word c => exact consistent_compareWords a b c
      | group | number => cases sameRight
    | group | number => cases sameLeft
  | group a =>
    cases b with
    | group b =>
      cases c with
      | group c => exact consistent_compareItems a b c ab bc ac
      | word | number => cases sameRight
    | word | number => cases sameLeft
  | number a =>
    cases b with
    | number b =>
      cases c with
      | number c => exact consistent_compare a b c
      | word | group => cases sameRight
    | word | group => cases sameLeft

/-- Rows are ordered transitively if each two of them are compatible. -/
theorem consistent_compareItems (a b c : List VersionItem) (ab : compatible a b = true)
    (bc : compatible b c = true) (ac : compatible a c = true) :
    Consistent (compareItems a b) (compareItems b c) (compareItems a c) := by
  match a, b, c with
  | [], b, c => exact (consistent_nothing bc).rotate
  | a, [], c =>
    rw [compareItems_nil]
    exact consistent_nothing ac
  | a, b, [] =>
    rw [compareItems_nil, compareItems_nil]
    exact (consistent_nothing ab).exchange
  | a :: as, b :: bs, c :: cs =>
    obtain ⟨_, abHead, abRest⟩ := compatible_cons_iff.1 ab
    obtain ⟨_, bcHead, bcRest⟩ := compatible_cons_iff.1 bc
    obtain ⟨_, acHead, acRest⟩ := compatible_cons_iff.1 ac
    refine (consistent_compareItem a b c abHead bcHead acHead).then fun ab bc ac => ?_
    exact consistent_compareItems as bs cs (abRest ab) (bcRest bc) (acRest ac)

end

mutual

theorem compareItem_self (item : VersionItem) : compareItem item item = .eq := by
  cases item with
  | number value =>
    rw [compareItem]
    exact Std.ReflCmp.compare_self
  | word letters => simp [compareItem, compareWords]
  | group items => exact compareItems_self items

theorem compareItems_self (row : List VersionItem) : compareItems row row = .eq := by
  cases row with
  | nil => rfl
  | cons item rest =>
    rw [compareItems, compareItem_self item, compareItems_self rest, Ordering.then]

end

theorem compareWords_swap (a b : List Char) : (compareWords a b).swap = compareWords b a := by
  rw [compareWords, compareWords, Ordering.swap_then, ← Std.OrientedCmp.eq_swap]
  cases ranks : compare (wordRank b) (wordRank a) with
  | lt | gt => rfl
  | eq =>
    have same : wordRank b = wordRank a := Std.compare_eq_iff_eq.1 ranks
    rw [same]
    split
    · rfl
    · rw [← Std.OrientedCmp.eq_swap]

mutual

private theorem compareItem_swap (a b : VersionItem) : (compareItem a b).swap = compareItem b a := by
  cases a with
  | number a =>
    cases b with
    | number b =>
      rw [compareItem, compareItem]
      exact Std.OrientedCmp.eq_swap.symm
    | word | group => rw [compareItem, compareItem]; rfl
  | word a =>
    cases b with
    | word b =>
      rw [compareItem, compareItem]
      exact compareWords_swap a b
    | number | group => rw [compareItem, compareItem]; rfl
  | group a =>
    cases b with
    | group b =>
      rw [compareItem, compareItem]
      exact compareItems_swap a b
    | number | word => rw [compareItem, compareItem]; rfl

/-- Whichever row ends first, what is left of the other is compared with nothing. -/
theorem compareItems_swap (a b : List VersionItem) :
    (compareItems a b).swap = compareItems b a := by
  match a, b with
  | [], b => rw [compareItems_nil, compareItems, Ordering.swap_swap]
  | a, [] => rw [compareItems_nil, compareItems]
  | a :: as, b :: bs =>
    rw [compareItems, compareItems, Ordering.swap_then, compareItem_swap a b,
      compareItems_swap as bs]

end

private theorem consistent_gt_left (order : Ordering) : Consistent .gt order .gt := by
  cases order <;> decide

private theorem consistent_lt_right (order : Ordering) : Consistent order .lt .lt := by
  cases order <;> decide

private theorem consistent_gt_lt (order : Ordering) : Consistent .gt .lt order := by
  cases order <;> decide

mutual

/-- Rows of numbers, where zeros stand only in front of others, with perhaps a qualifier at the
end. -/
inductive Regular : List VersionItem → Prop where
  | nil : Regular []
  | number {value : Nat} {rest : List VersionItem} :
      value ≠ 0 ∨ compareRestToNothing rest = .gt → Regular rest → Regular (number value :: rest)
  | group {items : List VersionItem} : Qualifier items → Regular [group items]

/-- Rows that start with a word or a number that means something. -/
inductive Qualifier : List VersionItem → Prop where
  | word {letters : List Char} {rest : List VersionItem} :
      wordRank letters ≠ releaseRank → Regular rest → Qualifier (word letters :: rest)
  | number {value : Nat} {rest : List VersionItem} :
      value ≠ 0 → Regular rest → Qualifier (number value :: rest)

end

theorem compareRestToNothing_of_number {value : Nat} {rest : List VersionItem}
    (positive : value ≠ 0 ∨ compareRestToNothing rest = .gt) :
    compareRestToNothing (number value :: rest) = .gt := by
  by_cases zero : value = 0
  · simpa [compareRestToNothing, compareToNothing, zero, Ordering.then] using positive
  · simp [compareRestToNothing, compareToNothing, zero, Ordering.then]

private theorem compareToNothing_of_number {value : Nat} (positive : value ≠ 0) :
    (number value).compareToNothing = .gt := by
  simp [compareToNothing, positive]

private theorem compareToNothing_of_word {letters : List Char} (known : wordRank letters ≠ releaseRank) :
    (word letters).compareToNothing ≠ .eq := by
  rw [compareToNothing]
  exact fun same => known (Std.compare_eq_iff_eq.1 same)

/-- What a qualifier starts with decides how it compares with nothing. -/
theorem Qualifier.compareToNothing {items : List VersionItem} (qualifier : Qualifier items) :
    (VersionItem.group items).compareToNothing = compareRestToNothing items := by
  cases qualifier with
  | word known =>
    rw [VersionItem.compareToNothing, compareRestToNothing]
    cases sign : (VersionItem.word _).compareToNothing with
    | eq => exact absurd sign (compareToNothing_of_word known)
    | lt | gt => rfl
  | number positive =>
    rw [VersionItem.compareToNothing, compareRestToNothing, compareToNothing_of_number positive]
    rfl

private theorem consistent_words {a b : List Char} (known : wordRank a ≠ releaseRank)
    (as bs : List VersionItem) :
    Consistent (compareRestToNothing (word a :: as)) (compareRestToNothing (word b :: bs)).swap
      (compareItems (word a :: as) (word b :: bs)) := by
  have ranks := consistent_compare (wordRank a) releaseRank (wordRank b)
  rw [compareRestToNothing, compareRestToNothing, compareItems, compareItem, compareWords,
    Ordering.swap_then, Ordering.then_assoc, compareToNothing, compareToNothing,
    ← Std.OrientedCmp.eq_swap]
  exact ranks.then fun same => absurd (Std.compare_eq_iff_eq.1 same) known

mutual

theorem Regular.compatible (a b : List VersionItem) (left : Regular a) (right : Regular b) :
    compatible a b = true := by
  cases left with
  | nil => exact compatible_nil_left _
  | number positive rest =>
    cases right with
    | nil => exact compatible_nil_right _
    | number otherPositive otherRest =>
      refine compatible_cons_iff.2 ⟨?_, rfl, fun _ => Regular.compatible _ _ rest otherRest⟩
      rw [compareRestToNothing_of_number positive, compareRestToNothing_of_number otherPositive]
      exact consistent_gt_lt _
    | group =>
      refine compatible_cons_iff.2 ⟨?_, rfl, fun _ => Regular.compatible _ _ rest .nil⟩
      rw [compareRestToNothing_of_number positive]
      exact consistent_gt_left _
  | group qualifier =>
    cases right with
    | nil => exact compatible_nil_right _
    | number positive otherRest =>
      refine compatible_cons_iff.2 ⟨?_, rfl, fun _ => Regular.compatible _ _ .nil otherRest⟩
      rw [compareRestToNothing_of_number positive]
      exact consistent_lt_right _
    | group otherQualifier =>
      have inner := Qualifier.compatible _ _ qualifier otherQualifier
      refine compatible_cons_iff.2 ⟨?_, inner, fun _ => Regular.compatible _ _ .nil .nil⟩
      simp only [compareRestToNothing, compareItems, compareItem, qualifier.compareToNothing,
        otherQualifier.compareToNothing, Ordering.swap_then]
      exact (consistent_nothing inner).then fun _ _ _ => by decide

theorem Qualifier.compatible (a b : List VersionItem) (left : Qualifier a) (right : Qualifier b) :
    compatible a b = true := by
  cases left with
  | word known rest =>
    cases right with
    | word _ otherRest =>
      exact compatible_cons_iff.2
        ⟨consistent_words known _ _, rfl, fun _ => Regular.compatible _ _ rest otherRest⟩
    | number positive otherRest =>
      refine compatible_cons_iff.2 ⟨?_, rfl, fun _ => Regular.compatible _ _ rest otherRest⟩
      rw [compareRestToNothing_of_number (.inl positive)]
      exact consistent_lt_right _
  | number positive rest =>
    cases right with
    | word _ otherRest =>
      refine compatible_cons_iff.2 ⟨?_, rfl, fun _ => Regular.compatible _ _ rest otherRest⟩
      rw [compareRestToNothing_of_number (.inl positive)]
      exact consistent_gt_left _
    | number otherPositive otherRest =>
      refine compatible_cons_iff.2 ⟨?_, rfl, fun _ => Regular.compatible _ _ rest otherRest⟩
      rw [compareRestToNothing_of_number (.inl positive),
        compareRestToNothing_of_number (.inl otherPositive)]
      exact consistent_gt_lt _

end

end VersionItem

namespace Version

open VersionItem

/-- Versions that are ordered as both are ordered with what they have in common. -/
def Compatible (a b : String) : Prop := compatible (items a) (items b) = true

instance (a b : String) : Decidable (Compatible a b) := inferInstanceAs (Decidable (_ = true))

variable {a b c : String}

theorem compatible_of_regular (left : Regular (items a)) (right : Regular (items b)) :
    Compatible a b :=
  Regular.compatible (items a) (items b) left right

theorem consistent_order (ab : Compatible a b) (bc : Compatible b c) (ac : Compatible a c) :
    Consistent (order a b) (order b c) (order a c) :=
  consistent_compareItems (items a) (items b) (items c) ab bc ac

theorem order_self (version : String) : order version version = .eq :=
  compareItems_self (items version)

/-- The order is reflexive and antisymmetric. -/
theorem order_oriented (a b : String) : order a a = .eq ∧ order a b = (order b a).swap := by
  refine ⟨order_self a, ?_⟩
  rw [order, order, compareItems_swap]

/-- The order is transitive among versions of which each two are compatible. -/
theorem order_transitive (ab : Compatible a b) (bc : Compatible b c) (ac : Compatible a c) :
    (order a b ≠ .gt → order b c ≠ .gt → order a c ≠ .gt) ∧
      (order a b = .eq → order b c = .eq → order a c = .eq) := by
  have consistent := consistent_order ab bc ac
  refine ⟨consistent.le_trans, fun first second => ?_⟩
  rw [consistent.1 first, second]

theorem order_transitive_release_line :
    order "2.0-RC1" "2.0" ≠ .gt ∧ order "2.0" "2.0.1-jre" ≠ .gt ∧
      order "2.0-RC1" "2.0.1-jre" ≠ .gt := by
  have candidate : Regular (items "2.0-RC1") :=
    .number (.inl (by decide)) (.group (.word (by decide) (.group (.number (by decide) .nil))))
  have release : Regular (items "2.0") := .number (.inl (by decide)) .nil
  have patch : Regular (items "2.0.1-jre") :=
    .number (.inl (by decide)) (.number (.inr (by decide)) (.number (.inl (by decide))
      (.group (.word (by decide) .nil))))
  have first : order "2.0-RC1" "2.0" ≠ .gt := by decide
  have second : order "2.0" "2.0.1-jre" ≠ .gt := by decide
  have transitive := order_transitive (compatible_of_regular candidate release)
    (compatible_of_regular release patch) (compatible_of_regular candidate patch)
  exact ⟨first, second, transitive.1 first second⟩

/-- A word behind a full stop comes before every group, and a group that starts with zero equals
nothing. -/
theorem order_intransitive :
    (order "1-alpha" "1" ≠ .gt ∧ order "1" "1.jre" ≠ .gt ∧ order "1-alpha" "1.jre" = .gt) ∧
      (order "1-0.1" "1" = .eq ∧ order "1" "1-0.2" = .eq ∧ order "1-0.1" "1-0.2" ≠ .eq) := by
  decide +kernel

end Version

end Linkage
