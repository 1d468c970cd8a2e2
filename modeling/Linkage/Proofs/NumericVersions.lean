import Linkage.Proofs.VersionOrder
import Linkage.Proofs.VersionReading
import Mathlib.Algebra.Group.Nat.Defs
import Mathlib.Data.List.Induction

/-!
Versions that are made of numbers only.

They are ordered like the rows of their numbers, where the shorter row goes on with zeros. That the
zeros at the end of a row are dropped makes no difference, since a number counts against nothing as
it counts against zero. The numbers may have any size: they are ordered like their digits from the
first that is not zero, by length and then by characters.
-/

set_option autoImplicit false

namespace Linkage

private theorem Text.forall_mem_intercalate {P : Char → Prop} {separator : List Char}
    {parts : List (List Char)} (within : ∀ c ∈ separator, P c)
    (each : ∀ part ∈ parts, ∀ c ∈ part, P c) : ∀ c ∈ separator.intercalate parts, P c := by
  induction parts with
  | nil => simp
  | cons first rest ih =>
    cases rest with
    | nil => simpa using each
    | cons second rest =>
      have later := ih fun part member => each part (List.mem_cons_of_mem first member)
      rw [List.intercalate_cons_cons]
      intro c member
      rcases List.mem_append.1 member with front | inside
      · rcases List.mem_append.1 front with inside | inside
        · exact each first List.mem_cons_self c inside
        · exact within c inside
      · exact later c inside

namespace Decimal

theorem ofDigitChars_zero_cons (c : Char) (digits : List Char) :
    Nat.ofDigitChars 10 (c :: digits) 0 =
      10 ^ digits.length * (c.toNat - '0'.toNat) + Nat.ofDigitChars 10 digits 0 := by
  rw [Nat.ofDigitChars_cons, Nat.ofDigitChars_eq_ofDigitChars_zero, Nat.mul_zero, Nat.zero_add]

theorem ofDigitChars_lt {digits : List Char} (each : ∀ c ∈ digits, c.isDigit = true) :
    Nat.ofDigitChars 10 digits 0 < 10 ^ digits.length := by
  induction digits with
  | nil => decide
  | cons c digits ih =>
    obtain ⟨digit, rest⟩ := List.forall_mem_cons.1 each
    have first : c.toNat - '0'.toNat ≤ 9 :=
      Nat.sub_le_sub_right (Char.isDigit_iff_toNat.1 digit).2 _
    calc Nat.ofDigitChars 10 (c :: digits) 0
        = 10 ^ digits.length * (c.toNat - '0'.toNat) + Nat.ofDigitChars 10 digits 0 :=
          ofDigitChars_zero_cons c digits
      _ < 10 ^ digits.length * 9 + 10 ^ digits.length :=
          Nat.add_lt_add_of_le_of_lt (Nat.mul_le_mul_left _ first) (ih rest)
      _ = 10 ^ (c :: digits).length := by
          rw [List.length_cons, Nat.pow_succ]
          omega

private theorem pow_le_ofDigitChars {c : Char} (digit : c.isDigit = true) (positive : c ≠ '0')
    (digits : List Char) : 10 ^ digits.length ≤ Nat.ofDigitChars 10 (c :: digits) 0 := by
  have low : '0'.toNat ≤ c.toNat := (Char.isDigit_iff_toNat.1 digit).1
  have other : c.toNat ≠ '0'.toNat := fun same => positive (Char.toNat_inj.1 same)
  have first : 0 < c.toNat - '0'.toNat := by omega
  rw [ofDigitChars_zero_cons]
  exact Nat.le_trans (Nat.le_mul_of_pos_right _ first) (Nat.le_add_right _ _)

private theorem compare_add_left (start a b : Nat) : compare (start + a) (start + b) = compare a b := by
  rw [Nat.compare_eq_ite_lt, Nat.compare_eq_ite_lt]
  simp only [Nat.add_lt_add_iff_left]

private theorem mul_add_lt {power first second rest : Nat} (less : first < second) (small : rest < power)
    (other : Nat) : power * first + rest < power * second + other :=
  calc power * first + rest < power * first + power := Nat.add_lt_add_left small _
    _ = power * (first + 1) := (Nat.mul_succ _ _).symm
    _ ≤ power * second := Nat.mul_le_mul_left _ less
    _ ≤ power * second + other := Nat.le_add_right _ _

private theorem compare_mul_add {power first second restFirst restSecond : Nat}
    (smallFirst : restFirst < power) (smallSecond : restSecond < power) :
    compare (power * first + restFirst) (power * second + restSecond) =
      (compare first second).then (compare restFirst restSecond) := by
  rcases Nat.lt_trichotomy first second with less | rfl | greater
  · rw [Nat.compare_eq_lt.2 less, Nat.compare_eq_lt.2 (mul_add_lt less smallFirst _)]
    rfl
  · rw [Nat.compare_eq_eq.2 rfl, compare_add_left]
    rfl
  · rw [Nat.compare_eq_gt.2 greater, Nat.compare_eq_gt.2 (mul_add_lt greater smallSecond _)]
    rfl

private theorem compare_digit {c d : Char} (left : c.isDigit = true) (right : d.isDigit = true) :
    compare (c.toNat - '0'.toNat) (d.toNat - '0'.toNat) = compare c d := by
  have lowLeft : '0'.toNat ≤ c.toNat := (Char.isDigit_iff_toNat.1 left).1
  have lowRight : '0'.toNat ≤ d.toNat := (Char.isDigit_iff_toNat.1 right).1
  rw [← compare_add_left '0'.toNat, Nat.add_sub_cancel' lowLeft, Nat.add_sub_cancel' lowRight]
  change compareOfLessAndEq c.toNat d.toNat = compareOfLessAndEq c d
  simp only [compareOfLessAndEq, Char.toNat_inj]
  rfl

/-- Rows of the same number of digits are ordered by their characters. -/
theorem compare_ofDigitChars {left right : List Char} (digitsLeft : ∀ c ∈ left, c.isDigit = true)
    (digitsRight : ∀ c ∈ right, c.isDigit = true) (length : left.length = right.length) :
    compare (Nat.ofDigitChars 10 left 0) (Nat.ofDigitChars 10 right 0) = compare left right := by
  induction left generalizing right with
  | nil =>
    rw [List.eq_nil_of_length_eq_zero length.symm]
    rfl
  | cons c left ih =>
    cases right with
    | nil => cases length
    | cons d right =>
      have same : left.length = right.length := Nat.succ.inj length
      obtain ⟨firstLeft, restLeft⟩ := List.forall_mem_cons.1 digitsLeft
      obtain ⟨firstRight, restRight⟩ := List.forall_mem_cons.1 digitsRight
      rw [ofDigitChars_zero_cons, ofDigitChars_zero_cons, same,
        compare_mul_add (same ▸ ofDigitChars_lt restLeft) (ofDigitChars_lt restRight),
        compare_digit firstLeft firstRight, ih restLeft restRight same, List.compare_cons_cons]

/-- The digits of a number from the first that is not zero. -/
def significant (digits : List Char) : List Char := digits.dropWhile (· == '0')

private theorem ofDigitChars_significant (digits : List Char) :
    Nat.ofDigitChars 10 (significant digits) 0 = Nat.ofDigitChars 10 digits 0 := by
  rw [significant]
  induction digits with
  | nil => rfl
  | cons c digits ih =>
    by_cases zero : c = '0'
    · subst zero
      rw [List.dropWhile_cons_of_pos (by decide), ih, ofDigitChars_zero_cons, Nat.sub_self,
        Nat.mul_zero, Nat.zero_add]
    · rw [List.dropWhile_cons_of_neg (by simpa using zero)]

theorem isDigit_significant {digits : List Char} (each : ∀ c ∈ digits, c.isDigit = true) :
    ∀ c ∈ significant digits, c.isDigit = true :=
  fun c member => each c ((List.dropWhile_suffix _).subset member)

/-- A number with fewer digits is less. -/
theorem ofDigitChars_lt_of_shorter {left right : List Char}
    (digitsLeft : ∀ c ∈ left, c.isDigit = true) (digitsRight : ∀ c ∈ right, c.isDigit = true)
    (shorter : (significant left).length < (significant right).length) :
    Nat.ofDigitChars 10 (significant left) 0 < Nat.ofDigitChars 10 (significant right) 0 := by
  have small := ofDigitChars_lt (isDigit_significant digitsLeft)
  have digits := isDigit_significant digitsRight
  cases kept : significant right with
  | nil => simp [kept] at shorter
  | cons c rest =>
    have positive : c ≠ '0' := by
      have first := List.head?_dropWhile_not (· == '0') right
      rw [← significant, kept] at first
      simpa using first
    rw [kept] at shorter digits
    have large := pow_le_ofDigitChars (digits c List.mem_cons_self) positive rest
    have power : 10 ^ (significant left).length ≤ 10 ^ rest.length :=
      Nat.pow_le_pow_right (by decide) (Nat.le_of_lt_succ shorter)
    omega

/-- The order of rows of digits without the zeros in front: the longer row comes later, and rows of
the same length are ordered by their characters. -/
def compareDigits (left right : List Char) : Ordering :=
  (compare (significant left).length (significant right).length).then
    (compare (significant left) (significant right))

private theorem compareDigits_eq {left right : List Char} (digitsLeft : ∀ c ∈ left, c.isDigit = true)
    (digitsRight : ∀ c ∈ right, c.isDigit = true) :
    compareDigits left right =
      compare (Nat.ofDigitChars 10 left 0) (Nat.ofDigitChars 10 right 0) := by
  rw [compareDigits, ← ofDigitChars_significant left, ← ofDigitChars_significant right]
  rcases Nat.lt_trichotomy (significant left).length (significant right).length with
    shorter | same | longer
  · have less := ofDigitChars_lt_of_shorter digitsLeft digitsRight shorter
    rw [Nat.compare_eq_lt.2 less, Nat.compare_eq_lt.2 shorter]
    rfl
  · rw [compare_ofDigitChars (isDigit_significant digitsLeft) (isDigit_significant digitsRight)
        same, Nat.compare_eq_eq.2 same]
    rfl
  · have greater := ofDigitChars_lt_of_shorter digitsRight digitsLeft longer
    rw [Nat.compare_eq_gt.2 greater, Nat.compare_eq_gt.2 longer]
    rfl

end Decimal

namespace VersionItem

private theorem compareToNothing_number (value : Nat) :
    (number value).compareToNothing = compare value 0 := by
  cases value with
  | zero => rfl
  | succ value => exact (Nat.compare_eq_gt.2 (Nat.succ_pos value)).symm

private theorem compareItems_number_nil (value : Nat) (rest : List VersionItem) :
    compareItems (number value :: rest) [] = (compare value 0).then (compareItems rest []) := by
  rw [compareItems, compareToNothing_number, compareItems_nil]

/-- Where a row of numbers has ended, zero stands in its place. -/
theorem compareItems_numbers_step (left right : List Nat) :
    compareItems (left.map number) (right.map number) =
      (compare (left.headD 0) (right.headD 0)).then
        (compareItems (left.tail.map number) (right.tail.map number)) := by
  cases left with
  | nil =>
    cases right with
    | nil => rfl
    | cons b right =>
      rw [← compareItems_swap, List.map_cons, List.map_nil, compareItems_number_nil,
        Ordering.swap_then, compareItems_swap, ← Std.OrientedCmp.eq_swap]
      rfl
  | cons a left =>
    cases right with
    | nil => exact compareItems_number_nil a _
    | cons b right =>
      rw [List.map_cons, List.map_cons, compareItems, compareItem]
      rfl

private theorem rightpad_succ (width : Nat) (values : List Nat) :
    values.rightpad (width + 1) 0 = values.headD 0 :: values.tail.rightpad width 0 := by
  cases values with
  | nil => simp [List.rightpad, List.replicate_succ]
  | cons value values => simp [List.rightpad]

private theorem compareItems_numbers {width : Nat} {left right : List Nat} (fitsLeft : left.length ≤ width)
    (fitsRight : right.length ≤ width) :
    compareItems (left.map number) (right.map number) =
      compare (left.rightpad width 0) (right.rightpad width 0) := by
  induction width generalizing left right with
  | zero =>
    rw [List.eq_nil_of_length_eq_zero (Nat.le_zero.1 fitsLeft),
      List.eq_nil_of_length_eq_zero (Nat.le_zero.1 fitsRight)]
    rfl
  | succ width ih =>
    have tails := @ih left.tail right.tail (by rw [List.length_tail]; omega)
      (by rw [List.length_tail]; omega)
    rw [compareItems_numbers_step, rightpad_succ, rightpad_succ, List.compare_cons_cons, tails]

/-- Of a row of numbers, only zeros at its end are dropped. -/
theorem exists_normalize_numbers (values : List Nat) :
    ∃ kept zeros, values = kept ++ List.replicate zeros 0 ∧
      normalize (values.map number) = kept.map number := by
  induction values using List.reverseRecOn with
  | nil => exact ⟨[], 0, rfl, rfl⟩
  | append_singleton values value ih =>
    rw [List.map_append, List.map_singleton]
    cases value with
    | zero =>
      obtain ⟨kept, zeros, same, dropped⟩ := ih
      refine ⟨kept, zeros + 1, ?_, ?_⟩
      · rw [List.replicate_succ', ← List.append_assoc, ← same]
      · rw [normalize_append_null (by rfl), dropped]
    | succ value =>
      refine ⟨values ++ [value + 1], 0, by simp, ?_⟩
      simp [normalize, dropNulls, isNull]

private theorem compareItems_normalize_numbers {width : Nat} {left right : List Nat}
    (fitsLeft : left.length ≤ width) (fitsRight : right.length ≤ width) :
    compareItems (normalize (left.map number)) (normalize (right.map number)) =
      compare (left.rightpad width 0) (right.rightpad width 0) := by
  -- Zeros that were dropped come back with the padding.
  have padded {kept : List Nat} {zeros : Nat}
      (fits : (kept ++ List.replicate zeros 0).length ≤ width) :
      (kept ++ List.replicate zeros 0).rightpad width 0 = kept.rightpad width 0 := by
    simp [List.rightpad] at fits ⊢
    omega
  obtain ⟨keptLeft, zerosLeft, rfl, droppedLeft⟩ := exists_normalize_numbers left
  obtain ⟨keptRight, zerosRight, rfl, droppedRight⟩ := exists_normalize_numbers right
  rw [droppedLeft, droppedRight, padded fitsLeft, padded fitsRight]
  rw [List.length_append] at fitsLeft fitsRight
  exact compareItems_numbers (Nat.le_of_add_right_le fitsLeft) (Nat.le_of_add_right_le fitsRight)

end VersionItem

namespace Version

open VersionItem Decimal

/-- A row of decimal digits. -/
def IsNumeral (text : String) : Prop := text ≠ "" ∧ ∀ c ∈ text.toList, c.isDigit = true

/-- The number that a row of decimal digits stands for. -/
def numeralValue (text : String) : Nat := Nat.ofDigitChars 10 text.toList 0

theorem IsNumeral.isRun {text : String} (numeral : IsNumeral text) : IsRun true text.toList := by
  refine ⟨by simp [numeral.1], fun c member => ?_⟩
  have digit := numeral.2 c member
  refine ⟨?_, ?_, digit⟩
  all_goals
    intro same
    rw [same] at digit
    exact absurd digit (by decide)

theorem IsNumeral.lowerChar {text : String} (numeral : IsNumeral text) :
    ∀ c ∈ text.toList, Text.lowerChar c = [c] := by
  intro c member
  have bound : c.toNat ≤ '9'.toNat := (Char.isDigit_iff_toNat.1 (numeral.2 c member)).2
  exact Text.lowerChar_of_not_upper (Nat.lt_of_le_of_lt bound (by decide))
    (.inl (Nat.lt_of_le_of_lt bound (by decide)))

private theorem rows_numerals {numerals : List String} (each : ∀ numeral ∈ numerals, IsNumeral numeral)
    (row : List VersionItem) (last : Bool) :
    rows row [] last (['.'].intercalate (numerals.map String.toList)) =
      [row ++ (numerals.map numeralValue).map number] := by
  induction numerals generalizing row last with
  | nil => simp [rows]
  | cons first rest ih =>
    have isRun := (each first List.mem_cons_self).isRun
    have value : ofRun true first.toList = number (numeralValue first) := ofDigits_eq first.toList
    cases rest with
    | nil =>
      rw [List.map_cons, List.map_nil, List.intercalate_singleton, rows_segment isRun, value]
      rfl
    | cons second rest =>
      have later := ih (fun numeral member => each numeral (List.mem_cons_of_mem first member))
        (row ++ [ofRun true first.toList]) true
      have ended (more : List Char) : rows row first.toList true ('.' :: more) =
          rows (row ++ [ofRun true first.toList]) [] true more := by
        simp [rows, isRun.1]
      rw [List.map_cons, List.map_cons, List.intercalate_cons_cons, List.append_assoc,
        rows_run isRun row (.inl rfl), List.nil_append, List.singleton_append, ended,
        ← List.map_cons, later, value, List.append_assoc]
      rfl

private theorem items_numerals {numerals : List String} (each : ∀ numeral ∈ numerals, IsNumeral numeral) :
    items (".".intercalate numerals) = normalize ((numerals.map numeralValue).map number) := by
  have lower : ∀ c ∈ ['.'].intercalate (numerals.map String.toList), Text.lowerChar c = [c] := by
    refine Text.forall_mem_intercalate (List.forall_mem_singleton.2 (by decide)) ?_
    intro part member
    obtain ⟨numeral, listed, rfl⟩ := List.mem_map.1 member
    exact (each numeral listed).lowerChar
  have stop : ".".toList = ['.'] := rfl
  rw [items, String.toList_intercalate, stop, Text.lowercase, Text.lowerFrom_of_lower lower,
    rows_numerals each]
  rfl

/-- Numbers between full stops are ordered like their rows, of which the shorter goes on with zeros,
and at one place the numbers are ordered like their digits. -/
theorem order_numbers {left right : List String} (numeralsLeft : ∀ part ∈ left, IsNumeral part)
    (numeralsRight : ∀ part ∈ right, IsNumeral part) :
    order (".".intercalate left) (".".intercalate right) =
        compare ((left.map numeralValue).rightpad (max left.length right.length) 0)
          ((right.map numeralValue).rightpad (max left.length right.length) 0) ∧
      ∀ a ∈ left, ∀ b ∈ right,
        compareItem (ofDigits a.toList) (ofDigits b.toList) =
          compareDigits a.toList b.toList := by
  constructor
  · have fitsLeft : (left.map numeralValue).length ≤ max left.length right.length := by
      rw [List.length_map]
      exact Nat.le_max_left _ _
    have fitsRight : (right.map numeralValue).length ≤ max left.length right.length := by
      rw [List.length_map]
      exact Nat.le_max_right _ _
    rw [order, items_numerals numeralsLeft, items_numerals numeralsRight]
    exact compareItems_normalize_numbers fitsLeft fitsRight
  · intro a inLeft b inRight
    rw [ofDigits_eq, ofDigits_eq, compareItem]
    exact (compareDigits_eq (numeralsLeft a inLeft).2 (numeralsRight b inRight).2).symm

theorem order_numbers_of_any_size :
    order (".".intercalate ["007", "0", "18446744073709551616"])
        (".".intercalate ["7", "0", "9223372036854775807", "1"]) = .gt ∧
      order (".".intercalate ["007", "00"]) (".".intercalate ["7"]) = .eq := by
  have numerals {parts : List String}
      (digits : parts.all (fun part => part != "" && part.toList.all Char.isDigit) = true) :
      ∀ part ∈ parts, IsNumeral part := by
    intro part member
    simpa [IsNumeral] using List.all_eq_true.1 digits part member
  exact ⟨(order_numbers (numerals (by decide)) (numerals (by decide))).1.trans (by decide),
    (order_numbers (numerals (by decide)) (numerals (by decide))).1.trans (by decide)⟩

end Version

end Linkage
