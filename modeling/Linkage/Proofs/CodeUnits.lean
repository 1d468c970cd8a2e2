import Linkage.Proofs.TruncatedClasses

/-!
Texts in class files as sequences of code units.

A text is written as its UTF-16 code units, each of which takes one to three bytes. What stands for
a null character or a surrogate is never plain UTF-8, and all other code units are written as there.
So decoding gives a text back exactly if the code units are those of the text, whichever way it
takes, and gives nothing exactly if the code units belong to no text because a surrogate has no
partner.
-/

set_option autoImplicit false

namespace Linkage

private theorem Utf8.decode_three_of_none {a b c : UInt8} (rest : Bytes) (low : 224 ≤ a.toNat)
    (high : a.toNat < 240) (unread : three? a b c = none) :
    decode (a :: b :: c :: rest) = none := by
  have many : ¬ a < 0x80 := not_lt_of_le_toNat (Nat.le_trans (by decide) low)
  have lead : ¬ a < 0xC0 := not_lt_of_le_toNat (Nat.le_trans (by decide) low)
  have two : ¬ a < 0xE0 := not_lt_of_le_toNat low
  have three : a < 0xF0 := UInt8.lt_iff_toNat_lt.2 high
  rw [decode.eq_def]
  simp only [if_neg many, if_neg lead, if_neg two, if_pos three, unread]
  rfl

namespace ModifiedUtf8

/-- The bytes of a code unit. Only the null character takes more of them than its number needs. -/
def encodeUnit (unit : UInt16) : Bytes :=
  let number := unit.toNat
  if number ≠ 0 ∧ number ≤ 0x7F then [UInt8.ofNat number]
  else if number ≤ 0x7FF then [UInt8.ofNat (0xC0 + number / 64), UInt8.ofNat (0x80 + number % 64)]
  else
    [UInt8.ofNat (0xE0 + number / 4096), UInt8.ofNat (0x80 + number / 64 % 64),
      UInt8.ofNat (0x80 + number % 64)]

def encodeUnits (units : List UInt16) : Bytes := units.flatMap encodeUnit

/-- The code units of a character. A supplementary character has two, which are its surrogates. -/
def unitsOf (char : Char) : List UInt16 :=
  let number := char.toNat
  if number < 0x10000 then [UInt16.ofNat number]
  else
    [UInt16.ofNat (0xD800 + (number - 0x10000) / 0x400),
      UInt16.ofNat (0xDC00 + (number - 0x10000) % 0x400)]

def codeUnits (text : List Char) : List UInt16 := text.flatMap unitsOf

def encodeText (text : String) : Bytes := encodeUnits (codeUnits text.toList)

/-- Whether a code unit is the first surrogate of a pair. -/
def IsHigh (unit : UInt16) : Prop := 0xD800 ≤ unit.toNat ∧ unit.toNat ≤ 0xDBFF

/-- Whether a code unit is the second surrogate of a pair. -/
def IsLow (unit : UInt16) : Prop := 0xDC00 ≤ unit.toNat ∧ unit.toNat ≤ 0xDFFF

instance (unit : UInt16) : Decidable (IsHigh unit) := inferInstanceAs (Decidable (_ ∧ _))

instance (unit : UInt16) : Decidable (IsLow unit) := inferInstanceAs (Decidable (_ ∧ _))

/-- Whether each surrogate has a partner. -/
inductive Paired : List UInt16 → Prop where
  | nil : Paired []
  | single {unit : UInt16} {rest : List UInt16} (notHigh : ¬ IsHigh unit) (notLow : ¬ IsLow unit) :
      Paired rest → Paired (unit :: rest)
  | pair {high low : UInt16} {rest : List UInt16} (isHigh : IsHigh high) (isLow : IsLow low) :
      Paired rest → Paired (high :: low :: rest)

section Lead

variable {a b c : UInt8} {number : Nat} (rest : Bytes)

private theorem units?_one (lead : a.toNat < 128) :
    units? (a :: rest) = (units? rest).map (a.toNat :: ·) := by
  rw [units?.eq_def]
  exact if_pos lead

private theorem units?_two (low : 192 ≤ a.toNat) (high : a.toNat < 224)
    (carried : a.toNat % 32 * 64 + b.toNat % 64 = number) :
    units? (a :: b :: rest) = (units? rest).map (number :: ·) := by
  subst carried
  rw [units?.eq_def]
  dsimp only
  rw [if_neg (by omega), if_neg (by omega), if_pos high]

private theorem units?_three (low : 224 ≤ a.toNat) (high : a.toNat < 240)
    (carried : a.toNat % 16 * 4096 + b.toNat % 64 * 64 + c.toNat % 64 = number) :
    units? (a :: b :: c :: rest) = (units? rest).map (number :: ·) := by
  subst carried
  rw [units?.eq_def]
  dsimp only
  rw [if_neg (by omega), if_neg (by omega), if_neg (by omega), if_pos high]

end Lead

private theorem units?_encodeUnit (unit : UInt16) (rest : Bytes) :
    units? (encodeUnit unit ++ rest) = (units? rest).map (unit.toNat :: ·) := by
  have bound : unit.toNat < 65536 := unit.toNat_lt
  have byte : ∀ number, number < 256 → (UInt8.ofNat number).toNat = number :=
    fun _ fits => UInt8.toNat_ofNat_of_lt' fits
  have last := byte (0x80 + unit.toNat % 64) (by omega)
  unfold encodeUnit
  dsimp only
  split
  · next one =>
    have first := byte unit.toNat (by omega)
    rw [List.singleton_append, units?_one rest (by omega), first]
  · split
    · next two =>
      have first := byte (0xC0 + unit.toNat / 64) (by omega)
      exact units?_two rest (by omega) (by omega) (by omega)
    · next three =>
      have first := byte (0xE0 + unit.toNat / 4096) (by omega)
      have second := byte (0x80 + unit.toNat / 64 % 64) (by omega)
      exact units?_three rest (by omega) (by omega) (by omega)

private theorem units?_encodeUnits (units : List UInt16) :
    units? (encodeUnits units) = some (units.map UInt16.toNat) := by
  induction units with
  | nil => simp [encodeUnits, units?]
  | cons unit units ih =>
    change units? (encodeUnit unit ++ encodeUnits units) = _
    rw [units?_encodeUnit, ih]
    rfl

section Surrogates

variable {unit high low : UInt16}

private theorem isHighSurrogate_iff : isHighSurrogate unit.toNat = true ↔ IsHigh unit := by
  simp [isHighSurrogate, IsHigh]

private theorem isLowSurrogate_iff : isLowSurrogate unit.toNat = true ↔ IsLow unit := by
  simp [isLowSurrogate, IsLow]

/-- Other code units than surrogates are the numbers of characters. -/
theorem isValidChar_of_single (notHigh : ¬ IsHigh unit) (notLow : ¬ IsLow unit) :
    unit.toNat.isValidChar := by
  have bound : unit.toNat < 65536 := unit.toNat_lt
  unfold IsHigh at notHigh
  unfold IsLow at notLow
  unfold Nat.isValidChar
  omega

theorem toNat_ofNat_of_isValidChar {number : Nat} (valid : number.isValidChar) :
    (Char.ofNat number).toNat = number := by
  rw [Char.ofNat, dif_pos valid]
  rfl

private theorem unitsOf_single (notHigh : ¬ IsHigh unit) (notLow : ¬ IsLow unit) :
    unitsOf (Char.ofNat unit.toNat) = [unit] := by
  have same := toNat_ofNat_of_isValidChar (isValidChar_of_single notHigh notLow)
  unfold unitsOf
  rw [same, if_pos unit.toNat_lt, UInt16.ofNat_toNat]

private theorem unitsOf_pair (isHigh : IsHigh high) (isLow : IsLow low) :
    unitsOf (ofSurrogates high.toNat low.toNat) = [high, low] := by
  unfold IsHigh at isHigh
  unfold IsLow at isLow
  have valid : (0x10000 + (high.toNat - 0xD800) * 0x400 + (low.toNat - 0xDC00)).isValidChar := by
    unfold Nat.isValidChar
    omega
  have same : (ofSurrogates high.toNat low.toNat).toNat = _ := toNat_ofNat_of_isValidChar valid
  have first : 0xD800 + ((ofSurrogates high.toNat low.toNat).toNat - 0x10000) / 0x400 =
      high.toNat := by omega
  have second : 0xDC00 + ((ofSurrogates high.toNat low.toNat).toNat - 0x10000) % 0x400 =
      low.toNat := by omega
  rw [unitsOf, if_neg (by omega), first, second, UInt16.ofNat_toNat, UInt16.ofNat_toNat]

end Surrogates

private theorem ofUnits?_single {number : Nat} (notHigh : isHighSurrogate number = false)
    (notLow : isLowSurrogate number = false) (rest : List Nat) :
    ofUnits? (number :: rest) = (ofUnits? rest).map (Char.ofNat number :: ·) := by
  rw [ofUnits?.eq_def]
  dsimp only
  rw [notHigh, notLow, if_neg Bool.false_ne_true, if_neg Bool.false_ne_true]

private theorem ofUnits?_pair {high low : Nat} (isHigh : isHighSurrogate high = true)
    (isLow : isLowSurrogate low = true) (rest : List Nat) :
    ofUnits? (high :: low :: rest) = (ofUnits? rest).map (ofSurrogates high low :: ·) := by
  rw [ofUnits?.eq_def]
  dsimp only
  rw [if_pos isHigh, if_pos isLow]

private theorem ofUnits?_unitsOf (char : Char) (rest : List Nat) :
    ofUnits? ((unitsOf char).map UInt16.toNat ++ rest) = (ofUnits? rest).map (char :: ·) := by
  have valid : char.toNat.isValidChar := char.valid
  unfold Nat.isValidChar at valid
  have word : ∀ number, number < 65536 → (UInt16.ofNat number).toNat = number :=
    fun _ fits => UInt16.toNat_ofNat_of_lt' fits
  unfold unitsOf
  dsimp only
  split
  · next small =>
    rw [List.map_singleton, List.singleton_append, word _ small, ofUnits?_single, Char.ofNat_toNat]
    · simp only [isHighSurrogate, Bool.and_eq_false_iff, decide_eq_false_iff_not]
      omega
    · simp only [isLowSurrogate, Bool.and_eq_false_iff, decide_eq_false_iff_not]
      omega
  · next large =>
    have first := word (0xD800 + (char.toNat - 0x10000) / 0x400) (by omega)
    have second := word (0xDC00 + (char.toNat - 0x10000) % 0x400) (by omega)
    simp only [List.map_cons, List.map_nil, List.cons_append, List.nil_append, first, second]
    rw [ofUnits?_pair, ofSurrogates]
    · have back : 0x10000 + (0xD800 + (char.toNat - 0x10000) / 0x400 - 0xD800) * 0x400 +
          (0xDC00 + (char.toNat - 0x10000) % 0x400 - 0xDC00) = char.toNat := by omega
      rw [back, Char.ofNat_toNat]
    · simp only [isHighSurrogate, Bool.and_eq_true, decide_eq_true_eq]
      omega
    · simp only [isLowSurrogate, Bool.and_eq_true, decide_eq_true_eq]
      omega

theorem ofUnits?_codeUnits (text : List Char) :
    ofUnits? ((codeUnits text).map UInt16.toNat) = some text := by
  induction text with
  | nil => simp [codeUnits, ofUnits?]
  | cons char text ih =>
    change ofUnits? ((unitsOf char ++ codeUnits text).map UInt16.toNat) = _
    rw [List.map_append, ofUnits?_unitsOf, ih]
    rfl

/-- Code units whose surrogates have partners are those of a text. -/
theorem Paired.exists_text {units : List UInt16} (paired : Paired units) :
    ∃ text, codeUnits text = units := by
  induction paired with
  | nil => exact ⟨[], rfl⟩
  | @single unit rest notHigh notLow _ ih =>
    obtain ⟨text, same⟩ := ih
    refine ⟨Char.ofNat unit.toNat :: text, ?_⟩
    rw [codeUnits, List.flatMap_cons, unitsOf_single notHigh notLow]
    exact congrArg (unit :: ·) same
  | @pair high low rest isHigh isLow _ ih =>
    obtain ⟨text, same⟩ := ih
    refine ⟨ofSurrogates high.toNat low.toNat :: text, ?_⟩
    rw [codeUnits, List.flatMap_cons, unitsOf_pair isHigh isLow]
    exact congrArg (high :: low :: ·) same

private theorem paired_of_ofUnits? {numbers : List Nat} {text : List Char}
    (given : ofUnits? numbers = some text) {units : List UInt16}
    (same : units.map UInt16.toNat = numbers) : Paired units := by
  fun_induction ofUnits? numbers generalizing units text with
  | case1 =>
    cases List.map_eq_nil_iff.1 same
    exact .nil
  | case2 high isHigh low rest isLow ih =>
    obtain ⟨first, others, rfl, rfl, behind⟩ := List.map_eq_cons_iff.1 same
    obtain ⟨second, others, rfl, rfl, last⟩ := List.map_eq_cons_iff.1 behind
    obtain ⟨_, decoded, _⟩ := Option.map_eq_some_iff.1 given
    exact .pair (isHighSurrogate_iff.1 isHigh) (isLowSurrogate_iff.1 isLow) (ih decoded last)
  | case3 | case4 | case5 => cases given
  | case6 number rest notHigh notLow ih =>
    obtain ⟨unit, others, rfl, rfl, last⟩ := List.map_eq_cons_iff.1 same
    obtain ⟨_, decoded, _⟩ := Option.map_eq_some_iff.1 given
    exact .single (mt isHighSurrogate_iff.2 notHigh) (mt isLowSurrogate_iff.2 notLow)
      (ih decoded last)

/-- The surrogates of code units have partners exactly if the code units are those of a text. -/
theorem paired_iff {units : List UInt16} : Paired units ↔ ∃ text, codeUnits text = units := by
  constructor
  · exact Paired.exists_text
  · rintro ⟨text, rfl⟩
    exact paired_of_ofUnits? (ofUnits?_codeUnits text) rfl

private theorem codeUnits_injective : Function.Injective codeUnits := by
  intro first second same
  have read := ofUnits?_codeUnits first
  rw [same, ofUnits?_codeUnits] at read
  exact (Option.some.inj read).symm

private theorem ofUnits?_eq_some_iff {units : List UInt16} {text : List Char} :
    ofUnits? (units.map UInt16.toNat) = some text ↔ codeUnits text = units := by
  constructor
  · intro given
    obtain ⟨other, rfl⟩ := (paired_of_ofUnits? given rfl).exists_text
    rw [ofUnits?_codeUnits] at given
    rw [Option.some.inj given]
  · rintro rfl
    exact ofUnits?_codeUnits text

/-- Plain UTF-8 writes the null character in one byte. -/
theorem utf8_null (rest : Bytes) : Utf8.decode (encodeUnit 0 ++ rest) = none := by
  change Utf8.decode (0xC0 :: 0x80 :: rest) = none
  rw [Utf8.decode.eq_def]
  rfl

private theorem three?_surrogate {a b c : UInt8}
    (low : 0xD800 ≤ (a.toNat % 16 * 64 + b.toNat % 64) * 64 + c.toNat % 64)
    (high : (a.toNat % 16 * 64 + b.toNat % 64) * 64 + c.toNat % 64 ≤ 0xDFFF) :
    Utf8.three? a b c = none := by
  unfold Utf8.three? Utf8.payload Utf8.scalar?
  have invalid : ¬ ((a.toNat % 16 * 64 + b.toNat % 64) * 64 + c.toNat % 64).isValidChar := by
    unfold Nat.isValidChar
    omega
  rw [dif_neg invalid, ite_self]

/-- Plain UTF-8 has no surrogates. -/
theorem utf8_surrogate {unit : UInt16} (surrogate : IsHigh unit ∨ IsLow unit) (rest : Bytes) :
    Utf8.decode (encodeUnit unit ++ rest) = none := by
  have range : 0xD800 ≤ unit.toNat ∧ unit.toNat ≤ 0xDFFF := by
    unfold IsHigh IsLow at surrogate
    omega
  have byte : ∀ number, number < 256 → (UInt8.ofNat number).toNat = number :=
    fun _ fits => UInt8.toNat_ofNat_of_lt' fits
  have first := byte (0xE0 + unit.toNat / 4096) (by omega)
  have second := byte (0x80 + unit.toNat / 64 % 64) (by omega)
  have last := byte (0x80 + unit.toNat % 64) (by omega)
  rw [encodeUnit, if_neg (by omega), if_neg (by omega)]
  exact Utf8.decode_three_of_none rest (by omega) (by omega)
    (three?_surrogate (by omega) (by omega))

private theorem utf8_single {unit : UInt16} (nonzero : unit ≠ 0) (notHigh : ¬ IsHigh unit)
    (notLow : ¬ IsLow unit) (rest : Bytes) :
    Utf8.decode (encodeUnit unit ++ rest) =
      (Utf8.decode rest).map (Char.ofNat unit.toNat :: ·) := by
  have bound : unit.toNat < 65536 := unit.toNat_lt
  have positive : unit.toNat ≠ 0 := fun zero => nonzero (UInt16.toNat_inj.1 zero)
  have same := toNat_ofNat_of_isValidChar (isValidChar_of_single notHigh notLow)
  have written : encodeUnit unit = String.utf8EncodeChar (Char.ofNat unit.toNat) := by
    rw [Utf8.encodeChar_eq, encodeUnit]
    dsimp only
    rw [same]
    by_cases one : unit.toNat ≤ 0x7F
    · rw [if_pos ⟨positive, one⟩, if_pos one]
    · by_cases two : unit.toNat ≤ 0x7FF
      · have lead : unit.toNat / 64 % 32 + 192 = 0xC0 + unit.toNat / 64 := by omega
        rw [if_neg (mt And.right one), if_pos two, if_neg one, if_pos two, lead,
          Nat.add_comm _ 128]
      · have lead : unit.toNat / 4096 % 16 + 224 = 0xE0 + unit.toNat / 4096 := by omega
        rw [if_neg (mt And.right one), if_neg two, if_neg one, if_neg two,
          if_pos (Nat.le_of_lt_succ bound), lead, Nat.add_comm _ 128, Nat.add_comm _ 128]
  rw [written, Utf8.decode_encodeChar]

/-- Plain UTF-8 that is written for code units stands for the text with these code units. -/
theorem codeUnits_of_utf8 {units : List UInt16} {text : List Char}
    (plain : Utf8.decode (encodeUnits units) = some text) : codeUnits text = units := by
  induction units generalizing text with
  | nil =>
    cases plain
    rfl
  | cons unit units ih =>
    change Utf8.decode (encodeUnit unit ++ encodeUnits units) = some text at plain
    by_cases surrogate : IsHigh unit ∨ IsLow unit
    · rw [utf8_surrogate surrogate] at plain
      cases plain
    · obtain ⟨notHigh, notLow⟩ := not_or.1 surrogate
      by_cases null : unit = 0
      · rw [null, utf8_null] at plain
        cases plain
      · rw [utf8_single null notHigh notLow] at plain
        obtain ⟨others, plainOthers, rfl⟩ := Option.map_eq_some_iff.1 plain
        rw [codeUnits, List.flatMap_cons, unitsOf_single notHigh notLow]
        exact congrArg (unit :: ·) (ih plainOthers)

/-- Decoding gives a text back for its own code units only. -/
theorem decode_encodeUnits_iff {units : List UInt16} {text : String} :
    decode (encodeUnits units) = some text ↔ codeUnits text.toList = units := by
  unfold decode
  cases plain : Utf8.decode (encodeUnits units) with
  | some read =>
    -- The plain text has the code units, and so no other text has them.
    have same := codeUnits_of_utf8 plain
    rw [← same]
    simp only [Option.some.injEq]
    constructor
    · rintro rfl
      rw [String.toList_ofList]
    · intro equal
      rw [← codeUnits_injective equal, String.ofList_toList]
  | none =>
    simp only [units?_encodeUnits, Option.bind_some, Option.map_eq_some_iff]
    constructor
    · rintro ⟨read, given, rfl⟩
      rw [String.toList_ofList]
      exact ofUnits?_eq_some_iff.1 given
    · intro same
      exact ⟨text.toList, ofUnits?_eq_some_iff.2 same, String.ofList_toList⟩

theorem decode_isSome_iff {units : List UInt16} :
    (decode (encodeUnits units)).isSome ↔ Paired units := by
  rw [Option.isSome_iff_exists, paired_iff]
  constructor
  · rintro ⟨text, decoded⟩
    exact ⟨text.toList, decode_encodeUnits_iff.1 decoded⟩
  · rintro ⟨text, same⟩
    refine ⟨String.ofList text, decode_encodeUnits_iff.2 ?_⟩
    rw [String.toList_ofList, same]

/-- A text is what its bytes are decoded to. -/
theorem decode_encodeText (text : String) : decode (encodeText text) = some text :=
  decode_encodeUnits_iff.2 rfl

end ModifiedUtf8

end Linkage
