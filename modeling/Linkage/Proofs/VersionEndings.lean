import Linkage.Proofs.VersionOrder
import Linkage.Proofs.VersionReading

/-!
What a last segment adds to a version.

A segment that is zero or a word for a release adds nothing: the items stay the same, whatever
stands in front of it. Any other word behind a hyphen decides alone how the version compares with
the version without it, or with another word in its place. The zeros in front of the word are
dropped either way, and a group that holds only the word counts against nothing as the word does,
however deep it is nested.
-/

set_option autoImplicit false

namespace Linkage

namespace Text

theorem toList_toLower (text : String) : text.toLower.toList = text.toList.map Char.toLower :=
  String.toList_map

private theorem toNat_lt_of_toLower {c : Char} (lower : c.toLower.toNat < 128) : c.toNat < 128 := by
  by_cases upper : c.val ≥ 'A'.val ∧ c.val ≤ 'Z'.val
  · exact Nat.lt_of_le_of_lt (UInt32.le_iff_toNat_le.1 upper.2) (by decide)
  · have same : c.toLower = c := dif_neg upper
    rwa [same] at lower

end Text

namespace VersionItem

theorem compareItems_append_left (row left right : List VersionItem) :
    compareItems (row ++ left) (row ++ right) = compareItems left right := by
  induction row with
  | nil => rfl
  | cons item row ih =>
    rw [List.cons_append, List.cons_append, compareItems, compareItem_self, ih, Ordering.then]

private theorem compareItems_singleton (a b : VersionItem) : compareItems [a] [b] = compareItem a b := by
  rw [compareItems]
  exact Ordering.then_eq

private theorem compareItems_singleton_nil (item : VersionItem) :
    compareItems [item] [] = item.compareToNothing := by
  rw [compareItems]
  exact Ordering.then_eq

theorem compareItems_groups (left right : List VersionItem) :
    compareItems [group left] [group right] = compareItems left right := by
  rw [compareItems_singleton, compareItem]

theorem compareWords_nil (letters : List Char) :
    compareWords letters [] = compare (wordRank letters) releaseRank := by
  have release : wordRank [] = releaseRank := rfl
  rw [compareWords, release]
  cases ranks : compare (wordRank letters) releaseRank with
  | lt | gt => rfl
  | eq =>
    have same : wordRank letters = releaseRank := Std.compare_eq_iff_eq.1 ranks
    rw [same]
    rfl

end VersionItem

namespace Version

open VersionItem

/-! ## Segments that mean nothing -/

/-- The segments that mean nothing: rows of zeros, and the words for a release in any letter case.
-/
def IsNullSegment (segment : String) : Prop :=
  (segment ≠ "" ∧ ∀ c ∈ segment.toList, c = '0') ∨
    segment.toLower ∈ ["ga", "final", "release"]

theorem IsNullSegment.ascii {segment : String} (null : IsNullSegment segment) :
    ∀ c ∈ segment.toList, c.toNat < 128 := by
  intro c member
  rcases null with ⟨_, zeros⟩ | release
  · rw [zeros c member]
    decide
  · have words : ["ga", "final", "release"].all
        (fun word => word.toList.all fun c => c.toNat < 128) = true := by decide
    have lowered : c.toLower ∈ segment.toLower.toList := by
      rw [Text.toList_toLower]
      exact List.mem_map_of_mem member
    simp only [List.all_eq_true, decide_eq_true_eq] at words
    exact Text.toNat_lt_of_toLower (words segment.toLower release c.toLower lowered)

/-- In lower case such a segment is one run, which is read as a null item. -/
theorem IsNullSegment.exists_run {segment : String} (null : IsNullSegment segment) :
    ∃ digits, IsRun digits segment.toLower.toList ∧
      (ofRun digits segment.toLower.toList).isNull = true := by
  rcases null with ⟨nonempty, zeros⟩ | release
  · have row : segment.toList = List.replicate segment.length '0' :=
      List.eq_replicate_of_mem zeros
    rw [Text.toList_toLower, row, List.map_replicate]
    exact ⟨true, by simp [IsRun, nonempty], by simp [ofRun, ofDigits_eq, isNull]⟩
  · generalize segment.toLower = lowered at release
    simp only [List.mem_cons, List.not_mem_nil, or_false] at release
    rcases release with rfl | rfl | rfl
    all_goals exact ⟨false, by simp [IsRun, Char.isDigit], rfl⟩

/-- A null item is dropped at the end of the last row, and also in a row of its own. -/
theorem nest_null {item : VersionItem} (null : item.isNull = true) (row : List VersionItem) :
    nest [row ++ [item]] = nest [row] ∧ nest [row, [item]] = nest [row] := by
  have dropped : normalize [item] = [] := normalize_append_null null []
  refine ⟨normalize_append_null null row, ?_⟩
  rw [nest_cons, nest_cons, nest_cons, dropped]
  rfl

theorem IsNullSegment.lowercase_append {segment : String} (null : IsNullSegment segment)
    {version : List Char} (plain : 'Σ' ∉ version) {separator : Char}
    (separates : separator = '.' ∨ separator = '-') :
    Text.lowercase (version ++ separator :: segment.toList) =
      Text.lowercase version ++ separator :: segment.toLower.toList := by
  have unchanged : separator.toNat < 128 ∧ separator.toLower = separator := by
    rcases separates with rfl | rfl <;> decide
  refine Text.lowercase_append (fun sigma => absurd sigma plain) fun before => ?_
  rw [Text.lowerFrom_of_ascii (List.forall_mem_cons.2 ⟨unchanged.1, null.ascii⟩), List.map_cons,
    unchanged.2, Text.toList_toLower]

/-- A last segment that means nothing does not change a version. This holds of every version without
a capital sigma, which is the only letter whose lower-case form depends on the text behind it. -/
theorem order_append_null {version separator segment : String} (plain : 'Σ' ∉ version.toList)
    (separates : separator = "." ∨ separator = "-") (null : IsNullSegment segment) :
    items (version ++ separator ++ segment) = items version ∧
      ∀ other, order (version ++ separator ++ segment) other = order version other ∧
        order other (version ++ separator ++ segment) = order other version := by
  obtain ⟨front, row, last, whole, read⟩ := exists_segment (Text.lowercase version.toList)
  obtain ⟨digits, isRun, isNull⟩ := null.exists_run
  obtain ⟨inRow, inGroup⟩ := nest_null isNull row
  have same : items (version ++ separator ++ segment) = items version := by
    rcases separates with rfl | rfl
    · have text : (version ++ "." ++ segment).toList = version.toList ++ '.' :: segment.toList := by
        simp
      rw [items, items, text, null.lowercase_append plain (.inl rfl), whole, (read _).1,
        rows_segment isRun]
      exact nest_append_congr inRow front
    · have text : (version ++ "-" ++ segment).toList = version.toList ++ '-' :: segment.toList := by
        simp
      rw [items, items, text, null.lowercase_append plain (.inr rfl), whole, (read _).2,
        rows_segment isRun]
      exact nest_append_congr inGroup front
  refine ⟨same, fun other => ?_⟩
  rw [order, order, order, order, same]
  exact ⟨rfl, rfl⟩

theorem order_append_final :
    IsNullSegment "Final" ∧ items ("2.0-rc1-" ++ "." ++ "Final") = items "2.0-rc1-" ∧
      order ("2.0-rc1-" ++ "." ++ "Final") "2.0" = .lt := by
  have null : IsNullSegment "Final" := .inr (by decide +kernel)
  have unchanged := order_append_null (by decide : 'Σ' ∉ "2.0-rc1-".toList) (.inl rfl) null
  exact ⟨null, unchanged.1, (unchanged.2 "2.0").1.trans (by decide)⟩

-- A sigma with a letter behind the full stop is not at the end of a word.
example : order "1.0-ΑΣ.0" "1.0-ΑΣ" = .eq ∧ order "1.0-ΑΣ.ga" "1.0-ΑΣ" ≠ .eq := by
  decide +kernel

/-! ## Versions that differ in their last group

Each lemma takes one more of the rows around the group into account. -/

private theorem compareItems_enclose_enclose (left right : List VersionItem) :
    compareItems (enclose (enclose left)) (enclose (enclose right)) =
      compareItems (enclose left) (enclose right) := by
  cases left with
  | nil =>
    cases right with
    | nil => rfl
    | cons item right => rfl
  | cons item left =>
    cases right with
    | nil => rfl
    | cons other right => exact compareItems_groups _ _

private theorem compareItems_enclose_append (row left right : List VersionItem) :
    compareItems (enclose (row ++ enclose left)) (enclose (row ++ enclose right)) =
      compareItems (enclose left) (enclose right) := by
  cases row with
  | nil => exact compareItems_enclose_enclose left right
  | cons item row => exact (compareItems_groups _ _).trans (compareItems_append_left _ _ _)

private theorem compareItems_enclose_nest (front : List (List VersionItem)) (row : List VersionItem)
    (left right : List (List VersionItem)) :
    compareItems (enclose (nest (front ++ row :: left))) (enclose (nest (front ++ row :: right))) =
      compareItems (enclose (nest left)) (enclose (nest right)) := by
  induction front with
  | nil =>
    rw [List.nil_append, List.nil_append, nest_cons, nest_cons]
    exact compareItems_enclose_append _ _ _
  | cons next front ih =>
    rw [List.cons_append, List.cons_append, nest_cons, nest_cons, ← ih]
    exact compareItems_enclose_append _ _ _

/-- Versions whose rows differ only behind a row compare as what is left of the rows there. -/
theorem compareItems_nest (front : List (List VersionItem)) (row : List VersionItem)
    (left right : List (List VersionItem)) :
    compareItems (nest (front ++ row :: left)) (nest (front ++ row :: right)) =
      compareItems (enclose (nest left)) (enclose (nest right)) := by
  cases front with
  | nil => rw [List.nil_append, List.nil_append, nest_cons, nest_cons, compareItems_append_left]
  | cons next front =>
    rw [List.cons_append, List.cons_append, nest_cons, nest_cons, compareItems_append_left,
      compareItems_enclose_nest]

/-- A word for a release leaves nothing of its row, and compares with other words as nothing does.
-/
theorem compareItems_words (a b : List Char) :
    compareItems (enclose (nest [[word a]])) (enclose (nest [[word b]])) = compareWords a b := by
  cases a with
  | nil =>
    cases b with
    | nil => rfl
    | cons d b =>
      rw [← compareItems_swap, ← compareWords_swap, compareWords_nil]
      exact congrArg Ordering.swap (compareItems_singleton_nil _)
  | cons c a =>
    cases b with
    | nil =>
      rw [compareWords_nil]
      exact compareItems_singleton_nil _
    | cons d b => exact (compareItems_groups _ _).trans (compareItems_singleton _ _)

/-! ## Qualifiers -/

/-- The places of qualifiers, from the earliest to those that are not known. -/
def qualifierRank (qualifier : String) : Nat :=
  match qualifier with
  | "alpha" => 0
  | "beta" => 1
  | "milestone" => 2
  | "rc" | "cr" => 3
  | "snapshot" => 4
  | "ga" | "final" | "release" => 5
  | "sp" => 6
  | _ => 7

/-- Qualifiers are ordered by their places, and those that are not known by their characters. -/
def compareQualifiers (a b : String) : Ordering :=
  (compare (qualifierRank a) (qualifierRank b)).then
    (if qualifierRank a = 7 then compare a.toList b.toList else .eq)

/-- Qualifiers in lower case. Their characters need not be letters, but they are neither digits nor
separators. -/
structure IsQualifier (qualifier : String) : Prop where
  nonempty : qualifier ≠ ""
  lower : ∀ c ∈ qualifier.toList, Text.lowerChar c = [c]
  unbroken : ∀ c ∈ qualifier.toList, c ≠ '.' ∧ c ≠ '-' ∧ c.isDigit = false

private theorem isQualifier_of_letters {qualifier : String} (nonempty : qualifier ≠ "")
    (letters : ∀ c ∈ qualifier.toList, c.isLower = true) : IsQualifier qualifier := by
  have bounds (c : Char) (member : c ∈ qualifier.toList) :
      'a'.toNat ≤ c.toNat ∧ c.toNat ≤ 'z'.toNat := by
    obtain ⟨low, high⟩ := Bool.and_eq_true_iff.1 (letters c member)
    exact ⟨UInt32.le_iff_toNat_le.1 (of_decide_eq_true low),
      UInt32.le_iff_toNat_le.1 (of_decide_eq_true high)⟩
  refine ⟨nonempty, fun c member => ?_, fun c member => ⟨?_, ?_, ?_⟩⟩
  · obtain ⟨low, high⟩ := bounds c member
    exact Text.lowerChar_of_not_upper (Nat.lt_of_le_of_lt high (by decide))
      (.inr (Nat.lt_of_lt_of_le (by decide) low))
  · intro same
    exact absurd (same ▸ (bounds c member).1 : 'a'.toNat ≤ '.'.toNat) (by decide)
  · intro same
    exact absurd (same ▸ (bounds c member).1 : 'a'.toNat ≤ '-'.toNat) (by decide)
  · rw [← Bool.not_eq_true, Char.isDigit_iff_toNat]
    intro digit
    exact absurd (Nat.le_trans (bounds c member).1 digit.2) (by decide)

/-- The letters that a qualifier is read as: its own, unless it is another name for a known one. -/
structure IsReadAs (qualifier : String) (letters : List Char) : Prop where
  reading : ofRun false qualifier.toList = word letters
  rank : wordRank letters = qualifierRank qualifier
  unknown : qualifierRank qualifier = 7 → letters = qualifier.toList

private theorem exists_letters {qualifier : String} (nonempty : qualifier ≠ "") :
    ∃ letters, IsReadAs qualifier letters := by
  suffices ∃ letters, ofWord qualifier.toList false = word letters ∧
      wordRank letters = qualifierRank qualifier ∧
      (qualifierRank qualifier = 7 → letters = qualifier.toList) by
    obtain ⟨letters, reading, rank, unknown⟩ := this
    exact ⟨letters, reading, rank, unknown⟩
  unfold qualifierRank
  split
  -- The last case is that of all qualifiers without a place of their own.
  case h_11 =>
    refine ⟨qualifier.toList, ?_, ?_, fun _ => rfl⟩
    · unfold ofWord
      rw [String.ofList_toList]
      split <;> simp_all
    · apply List.idxOf_eq_length
      intro listed
      obtain ⟨known, member, same⟩ := List.mem_map.1 listed
      rw [String.toList_inj.1 same] at member
      simp_all
  all_goals exact ⟨_, rfl, by decide, by decide⟩

theorem IsReadAs.compareWords {first second : String} {a b : List Char} (left : IsReadAs first a)
    (right : IsReadAs second b) :
    VersionItem.compareWords a b = compareQualifiers first second := by
  rw [VersionItem.compareWords, compareQualifiers, left.rank, right.rank]
  cases ranks : compare (qualifierRank first) (qualifierRank second) with
  | lt | gt => rfl
  | eq =>
    have same : qualifierRank first = qualifierRank second := Std.compare_eq_iff_eq.1 ranks
    by_cases unknown : qualifierRank first = 7
    · have behind : ¬ qualifierRank first < knownWords.length := by
        rw [unknown]
        decide
      rw [if_neg behind, if_pos unknown, left.unknown unknown, right.unknown (same ▸ unknown)]
    · have most : wordRank a ≤ knownWords.length := List.idxOf_le_length
      rw [left.rank] at most
      rw [if_pos (Nat.lt_of_le_of_ne most unknown), if_neg unknown]

/-- All versions with a qualifier behind a hyphen share their rows up to the qualifier. -/
theorem exists_qualified (version : String) :
    ∃ front row, items version = nest (front ++ [row]) ∧
      ∀ qualifier, IsQualifier qualifier →
        items (version ++ "-" ++ qualifier) =
          nest (front ++ [row, [ofRun false qualifier.toList]]) := by
  obtain ⟨front, row, last, whole, read⟩ := exists_segment (Text.lowercase version.toList)
  refine ⟨front, row, whole, fun qualifier isQualifier => ?_⟩
  have text : (version ++ "-" ++ qualifier).toList = version.toList ++ '-' :: qualifier.toList := by
    simp
  have isRun : IsRun false qualifier.toList :=
    ⟨by simp [isQualifier.nonempty], isQualifier.unbroken⟩
  have lowered : Text.lowercase (version.toList ++ '-' :: qualifier.toList) =
      Text.lowercase version.toList ++ '-' :: qualifier.toList := by
    refine Text.lowercase_append (fun _ => ?_) (Text.lowerFrom_of_lower ?_)
    · exact Text.nextIsCased_hyphen _
    · exact List.forall_mem_cons.2 ⟨by decide, isQualifier.lower⟩
  rw [items, text, lowered, (read _).2, rows_segment isRun]
  rfl

/-- Behind the same version, qualifiers are ordered by their places, and a version without one
stands where the words for a release do. -/
theorem order_qualifiers (version : String) {first second : String} (left : IsQualifier first)
    (right : IsQualifier second) :
    order (version ++ "-" ++ first) (version ++ "-" ++ second) = compareQualifiers first second ∧
      order (version ++ "-" ++ first) version =
        compare (qualifierRank first) (qualifierRank "release") := by
  obtain ⟨front, row, alone, qualified⟩ := exists_qualified version
  obtain ⟨a, readFirst⟩ := exists_letters left.nonempty
  obtain ⟨b, readSecond⟩ := exists_letters right.nonempty
  rw [order, order, qualified first left, qualified second right, alone, readFirst.reading,
    readSecond.reading]
  constructor
  · rw [compareItems_nest, compareItems_words, readFirst.compareWords readSecond]
  · rw [compareItems_nest, ← readFirst.rank]
    exact (compareItems_words a []).trans (compareWords_nil a)

theorem order_release_candidate :
    IsQualifier "cr" ∧ IsQualifier "jre" ∧
      order ("1.0-b2." ++ "-" ++ "cr") ("1.0-b2." ++ "-" ++ "jre") = .lt ∧
      order ("1.0-b2." ++ "-" ++ "cr") "1.0-b2." = .lt := by
  have candidate : IsQualifier "cr" :=
    isQualifier_of_letters (by decide) (List.all_eq_true.1 (by decide))
  have platform : IsQualifier "jre" :=
    isQualifier_of_letters (by decide) (List.all_eq_true.1 (by decide))
  obtain ⟨behind, alone⟩ := order_qualifiers "1.0-b2." candidate platform
  exact ⟨candidate, platform, behind.trans (by decide), alone.trans (by decide)⟩

end Version

end Linkage
