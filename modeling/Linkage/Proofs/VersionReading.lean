import Linkage.Artifact.Version

/-!
How the text of a version is read.

What follows a separator is read as at the start of a version, only further inside. So the items of
a version with one more segment come from the rows of the version alone and from those of the
segment: `exists_segment` says how for both separators. What is left of the rows behind a row is one
group at its end, or nothing (`nest_cons`).
-/

set_option autoImplicit false

namespace Linkage

namespace Text

private theorem nextIsCased_append {after : List Char} (uncased : nextIsCased after = false)
    (text : List Char) : nextIsCased (text ++ after) = nextIsCased text := by
  unfold nextIsCased at uncased ⊢
  rw [List.find?_append]
  cases text.find? (fun c => !isCaseIgnorable c) with
  | none => exact uncased
  | some c => rfl

/-- Only a capital sigma depends on what follows it. -/
theorem lowerFrom_append {text after : List Char}
    (unaffected : 'Σ' ∈ text → nextIsCased after = false) (before : List Char) :
    lowerFrom before (text ++ after) =
      lowerFrom before text ++ lowerFrom (text.reverse ++ before) after := by
  induction text generalizing before with
  | nil => rfl
  | cons c rest ih =>
    have later := ih (fun sigma => unaffected (List.mem_cons_of_mem c sigma)) (c :: before)
    rw [List.cons_append, lowerFrom, lowerFrom, later, List.reverse_cons, List.append_assoc,
      List.append_assoc, List.singleton_append]
    congr 1
    split
    next sigma =>
      have same : c = 'Σ' := Char.toNat_inj.1 (eq_of_beq sigma)
      rw [nextIsCased_append (unaffected (same ▸ List.mem_cons_self))]
    next => rfl

private theorem lowerFrom_eq_map {text : List Char} {lower : Char → Char}
    (each : ∀ c ∈ text, c ≠ 'Σ' ∧ lowerChar c = [lower c]) (before : List Char) :
    lowerFrom before text = text.map lower := by
  induction text generalizing before with
  | nil => rfl
  | cons c rest ih =>
    obtain ⟨other, lowered⟩ := each c List.mem_cons_self
    have ordinary : (c.toNat == 0x3A3) = false :=
      beq_eq_false_iff_ne.2 fun sigma => other (Char.toNat_inj.1 sigma)
    have later := ih (fun c member => each c (List.mem_cons_of_mem _ member)) (c :: before)
    simp [lowerFrom, ordinary, lowered, later]

theorem lowerFrom_of_ascii {text : List Char} (ascii : ∀ c ∈ text, c.toNat < 128)
    (before : List Char) : lowerFrom before text = text.map Char.toLower := by
  refine lowerFrom_eq_map (fun c member => ⟨?_, ?_⟩) before
  · intro sigma
    exact absurd (sigma ▸ ascii c member) (by decide)
  · rw [lowerChar, if_pos (ascii c member)]

/-- Text that is in lower case already. -/
theorem lowerFrom_of_lower {text : List Char} (lower : ∀ c ∈ text, lowerChar c = [c])
    (before : List Char) : lowerFrom before text = text := by
  refine (lowerFrom_eq_map (fun c member => ⟨?_, lower c member⟩) before).trans (List.map_id' text)
  intro sigma
  exact absurd (sigma ▸ lower c member) (by decide +kernel)

theorem lowerChar_of_not_upper {c : Char} (ascii : c.toNat < 128)
    (other : c.toNat < 'A'.toNat ∨ 'Z'.toNat < c.toNat) : lowerChar c = [c] := by
  have apart : ¬ (c.val ≥ 'A'.val ∧ c.val ≤ 'Z'.val) := by
    intro upper
    have low : 'A'.toNat ≤ c.toNat := UInt32.le_iff_toNat_le.1 upper.1
    have high : c.toNat ≤ 'Z'.toNat := UInt32.le_iff_toNat_le.1 upper.2
    omega
  rw [lowerChar, if_pos ascii]
  exact congrArg List.singleton (dif_neg apart)

theorem nextIsCased_hyphen (after : List Char) : nextIsCased ('-' :: after) = false := by
  have visible : isCaseIgnorable '-' = false := by decide +kernel
  have uncased : isCased '-' = false := by decide +kernel
  simp [nextIsCased, visible, uncased]

theorem lowercase_append {text after lowered : List Char}
    (unaffected : 'Σ' ∈ text → nextIsCased after = false)
    (lower : ∀ before, lowerFrom before after = lowered) :
    lowercase (text ++ after) = lowercase text ++ lowered := by
  rw [lowercase, lowerFrom_append unaffected, lower, lowercase]

end Text

namespace VersionItem

theorem ofDigits_eq (digits : List Char) :
    ofDigits digits = number (Nat.ofDigitChars 10 digits 0) := by
  rw [ofDigits, Nat.ofDigitChars_eq_foldl]
  simp only [Nat.mul_comm]

theorem normalize_append_null {item : VersionItem} (null : item.isNull = true)
    (row : List VersionItem) : normalize (row ++ [item]) = normalize row := by
  simp [normalize, dropNulls, null]

private theorem normalize_append_group {items : List VersionItem} (present : items ≠ [])
    (row : List VersionItem) :
    normalize (row ++ [group items]) = normalize row ++ [group items] := by
  simp [normalize, dropNulls, isNull, present]

end VersionItem

namespace Version

open VersionItem

/-- What is left of the rows behind a row, as an item at its end: a group, unless nothing is left.
-/
def enclose (items : List VersionItem) : List VersionItem :=
  if items.isEmpty then [] else [group items]

theorem nest_cons (row : List VersionItem) (rest : List (List VersionItem)) :
    nest (row :: rest) = normalize row ++ enclose (nest rest) := by
  cases rest with
  | nil => simp [nest, enclose]
  | cons next rest =>
    rw [nest]
    case x_1 => exact List.cons_ne_nil next rest
    cases inner : nest (next :: rest) with
    | nil =>
      rw [normalize_append_null (by rfl)]
      simp [enclose]
    | cons item items =>
      rw [normalize_append_group (List.cons_ne_nil item items)]
      rfl

theorem nest_append_congr {inner other : List (List VersionItem)} (same : nest inner = nest other)
    (front : List (List VersionItem)) : nest (front ++ inner) = nest (front ++ other) := by
  induction front with
  | nil => exact same
  | cons row front ih => rw [List.cons_append, List.cons_append, nest_cons, nest_cons, ih]

/-- A run of digits, or one of characters that are neither digits nor separators. -/
def IsRun (digits : Bool) (run : List Char) : Prop :=
  run ≠ [] ∧ ∀ c ∈ run, c ≠ '.' ∧ c ≠ '-' ∧ c.isDigit = digits

private theorem rows_char {c : Char} {digits : Bool} (char : c ≠ '.' ∧ c ≠ '-' ∧ c.isDigit = digits)
    (row : List VersionItem) {run : List Char} {last : Bool} (fits : run = [] ∨ last = digits)
    (rest : List Char) :
    rows row run last (c :: rest) = rows row (run ++ [c]) digits rest := by
  obtain ⟨stop, hyphen, rfl⟩ := char
  have unseparated : (c == '.' || c == '-') = false := by simp [stop, hyphen]
  rcases fits with rfl | rfl <;> cases digit : c.isDigit <;> simp [rows, unseparated, digit]

/-- A run that continues the one before it, or that stands behind a separator. -/
theorem rows_run {digits : Bool} {next : List Char} (isRun : IsRun digits next)
    (row : List VersionItem) {run : List Char} {last : Bool} (fits : run = [] ∨ last = digits)
    (rest : List Char) :
    rows row run last (next ++ rest) = rows row (run ++ next) digits rest := by
  obtain ⟨nonempty, chars⟩ := isRun
  induction next generalizing run last with
  | nil => exact absurd rfl nonempty
  | cons c next ih =>
    rw [List.cons_append, rows_char (chars c List.mem_cons_self) row fits]
    cases next with
    | nil => rfl
    | cons d next =>
      rw [ih (.inr rfl) (List.cons_ne_nil d next) fun e member =>
        chars e (List.mem_cons_of_mem c member), List.append_assoc, List.singleton_append]

theorem rows_segment {digits : Bool} {segment : List Char} (isRun : IsRun digits segment)
    (row : List VersionItem) (last : Bool) :
    rows row [] last segment = [row ++ [ofRun digits segment]] := by
  have read := rows_run isRun row (.inl rfl : [] = [] ∨ last = digits) []
  rw [List.append_nil, List.nil_append] at read
  simp [read, rows, isRun.1]

/-- One character either ends a row or leaves it open, whatever follows. -/
theorem exists_rows_cons (row : List VersionItem) (run : List Char) (digits : Bool) (c : Char) :
    ∃ front nextRow nextRun nextDigits, ∀ rest,
      rows row run digits (c :: rest) = front ++ rows nextRow nextRun nextDigits rest := by
  simp only [rows]
  split
  · split
    · exact ⟨[_], [], [], digits, fun _ => rfl⟩
    · exact ⟨[], _, [], digits, fun _ => rfl⟩
  · split
    · split
      · exact ⟨[_], [], [c], true, fun _ => rfl⟩
      · exact ⟨[], row, run ++ [c], true, fun _ => rfl⟩
    · split
      · exact ⟨[_], [], [c], false, fun _ => rfl⟩
      · exact ⟨[], row, run ++ [c], false, fun _ => rfl⟩

private theorem exists_rows_append (text : List Char) (row : List VersionItem) (run : List Char)
    (digits : Bool) :
    ∃ front nextRow nextRun nextDigits, ∀ rest,
      rows row run digits (text ++ rest) = front ++ rows nextRow nextRun nextDigits rest := by
  induction text generalizing row run digits with
  | nil => exact ⟨[], row, run, digits, fun _ => rfl⟩
  | cons c text ih =>
    obtain ⟨front, nextRow, nextRun, nextDigits, first⟩ := exists_rows_cons row run digits c
    obtain ⟨later, lastRow, lastRun, lastDigits, remaining⟩ := ih nextRow nextRun nextDigits
    refine ⟨front ++ later, lastRow, lastRun, lastDigits, fun rest => ?_⟩
    rw [List.cons_append, first, remaining, List.append_assoc]

/-- The rows of a version that goes on behind a separator. A full stop keeps the last row of the
version open, and a hyphen starts another. The separator may have added a zero to the last row, but
the items of the version alone do not show it. -/
theorem exists_segment (version : List Char) :
    ∃ front row digits, nest (rows [] [] false version) = nest (front ++ [row]) ∧
      ∀ rest, rows [] [] false (version ++ '.' :: rest) = front ++ rows row [] digits rest ∧
        rows [] [] false (version ++ '-' :: rest) = front ++ row :: rows [] [] digits rest := by
  obtain ⟨front, row, run, digits, read⟩ := exists_rows_append version [] [] false
  refine ⟨front, row ++ [if run.isEmpty then number 0 else ofRun digits run], digits, ?_, ?_⟩
  · have whole := read []
    rw [List.append_nil] at whole
    rw [whole]
    apply nest_append_congr
    cases run with
    | nil => exact (normalize_append_null (by rfl) row).symm
    | cons c run => rfl
  · intro rest
    rw [read, read]
    exact ⟨rfl, rfl⟩

end Version

end Linkage
