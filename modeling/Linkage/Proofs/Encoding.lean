import Linkage.ClassFile.Draft
import Linkage.Proofs.DescriptorGrammar
import Linkage.Proofs.UsedConstants
import Mathlib.Data.List.Forall2

/-!
What is written can be read back.

A decoder reads a value from some bytes if it gives the value and leaves what follows the bytes,
whatever that is. Decoders in sequence read from bytes in sequence. So each part of a class file is
compared with its bytes on its own.
-/

set_option autoImplicit false

namespace Linkage

@[simp] theorem length_bytes2 (value : Nat) : (bytes2 value).length = 2 := rfl

@[simp] theorem length_bytes4 (value : Nat) : (bytes4 value).length = 4 := rfl

theorem bytes2_of_bytes (a b : UInt8) : bytes2 (a.toNat * 256 + b.toNat) = [a, b] := by
  have boundA : a.toNat < 256 := a.toNat_lt
  have boundB : b.toNat < 256 := b.toNat_lt
  have high : ((a.toNat * 256 + b.toNat) / 256).toUInt8 = a := by
    rw [← UInt8.toNat_inj, Nat.toUInt8, UInt8.toNat_ofNat']
    omega
  have low : (a.toNat * 256 + b.toNat).toUInt8 = b := by
    rw [← UInt8.toNat_inj, Nat.toUInt8, UInt8.toNat_ofNat']
    omega
  rw [bytes2, high, low]

namespace Decoder

variable {α β : Type} {decoder : Decoder α} {bytes more : Bytes} {value : α}

/-- Whether a decoder takes just some bytes and gives a value for them. -/
def Reads (decoder : Decoder α) (bytes : Bytes) (value : α) : Prop :=
  ∀ rest, decoder (bytes ++ rest) = .ok (value, rest)

theorem reads_pure (value : α) : (pure value : Decoder α).Reads [] value := fun _ => rfl

theorem Reads.bind {next : α → Decoder β} {result : β} (first : decoder.Reads bytes value)
    (second : (next value).Reads more result) :
    (decoder >>= next).Reads (bytes ++ more) result := by
  intro rest
  rw [List.append_assoc]
  change (decoder (bytes ++ (more ++ rest)) >>= fun read => next read.1 read.2) = _
  rw [first]
  exact second rest

theorem Reads.bind_pure {next : α → Decoder β} {result : β} (first : decoder.Reads bytes value)
    (second : (next value).Reads [] result) : (decoder >>= next).Reads bytes result := by
  simpa using first.bind second

theorem reads_lift {result : Except FormatError α} (given : result = .ok value) :
    (lift result).Reads [] value := by
  intro rest
  rw [given]
  rfl

theorem reads_lift_bind {result : Except FormatError α} (given : result = .ok value)
    {next : α → Decoder β} {last : β} (reads : (next value).Reads bytes last) :
    (lift result >>= next).Reads bytes last :=
  (reads_lift given).bind reads

theorem Reads.map (reads : decoder.Reads bytes value) (change : α → β) :
    (change <$> decoder).Reads bytes (change value) := by
  intro rest
  change (decoder (bytes ++ rest) >>= fun read => pure (change read.1, read.2)) = _
  rw [reads]
  rfl

theorem Reads.within (reads : decoder.Reads bytes value) (rest : Bytes) :
    decoder.within (bytes ++ rest) = .ok value := by
  rw [Decoder.within, reads]
  rfl

theorem reads_u1 (byte : UInt8) : u1.Reads [byte] byte.toNat := fun _ => rfl

theorem reads_u2 {number : Nat} (fits : number < 65536) : u2.Reads (bytes2 number) number := by
  intro rest
  simp only [bytes2, List.cons_append, List.nil_append, u2, Nat.toUInt8, UInt8.toNat_ofNat']
  congr 2
  omega

theorem reads_u4 {number : Nat} (fits : number < 4294967296) :
    u4.Reads (bytes4 number) number := by
  intro rest
  simp only [bytes4, bytes2, List.cons_append, List.nil_append, u4, Nat.toUInt8,
    UInt8.toNat_ofNat']
  congr 2
  omega

private theorem takeBytes?_append (bytes rest : Bytes) :
    takeBytes? bytes.length (bytes ++ rest) = some (bytes, rest) := by
  induction bytes with
  | nil => rfl
  | cons byte bytes ih => simp [takeBytes?, ih]

theorem reads_take (bytes : Bytes) : (take bytes.length).Reads bytes bytes := by
  intro rest
  rw [take, takeBytes?_append]

theorem reads_skip {count : Nat} (length : bytes.length = count) :
    (skip count).Reads bytes () := by
  subst length
  exact (reads_take bytes).bind_pure (reads_pure ())

variable {ι : Type} {write : ι → Bytes} {items : List ι} {values : List α}

private theorem reads_replicate
    (each : List.Forall₂ (fun item value => decoder.Reads (write item) value) items values) :
    (replicate decoder items.length).Reads (items.flatMap write) values := by
  induction each with
  | nil => exact reads_pure []
  | cons first _ ih => exact first.bind (ih.bind_pure (reads_pure _))

theorem reads_counted (fits : items.length < 65536)
    (each : List.Forall₂ (fun item value => decoder.Reads (write item) value) items values) :
    (counted decoder).Reads (bytes2 items.length ++ items.flatMap write) values :=
  (reads_u2 fits).bind (reads_replicate each)

end Decoder

namespace Utf8

private theorem encode_append (first second : List Char) :
    encode (first ++ second) = encode first ++ encode second :=
  List.flatMap_append

theorem length_encodeString (text : String) : (encodeString text).length = text.utf8ByteSize := by
  have written : text.toByteArray = text.toList.utf8Encode := by
    rw [← String.toByteArray_ofList, String.ofList_toList]
  rw [String.utf8ByteSize, written, List.utf8Encode, List.size_toByteArray]
  rfl

theorem scalar?_toNat {char : Char} {least : Nat} (shortest : least ≤ char.toNat) :
    scalar? least char.toNat = some char := by
  have valid : char.toNat.isValidChar := char.valid
  rw [scalar?, dif_pos valid, if_pos shortest, Char.ofNat_toNat]

theorem isContinuation_ofNat {number : Nat} (payload : number < 64) :
    isContinuation (UInt8.ofNat (number + 128)) = true := by
  have at_ : (UInt8.ofNat (number + 128)).toNat = number + 128 := by
    rw [UInt8.toNat_ofNat']
    omega
  simp only [isContinuation, Bool.and_eq_true, decide_eq_true_eq, UInt8.le_iff_toNat_le, at_]
  exact ⟨Nat.le_add_left 128 number, Nat.add_le_add_right (Nat.le_of_lt_succ payload) 128⟩

theorem payload_ofNat {number : Nat} (small : number < 64) :
    payload (UInt8.ofNat (number + 128)) = number := by
  rw [payload, UInt8.toNat_ofNat']
  omega

section Lead

variable {a b c d : UInt8} {char : Char} (rest : Bytes)

theorem not_lt_of_le_toNat {least : UInt8} (large : least.toNat ≤ a.toNat) : ¬ a < least := by
  rw [UInt8.lt_iff_toNat_lt]
  omega

private theorem decode_one (low : a.toNat < 128) :
    decode (a :: rest) = (decode rest).map (Char.ofNat a.toNat :: ·) := by
  rw [decode.eq_def]
  exact if_pos (UInt8.lt_iff_toNat_lt.2 low)

private theorem decode_two (low : 192 ≤ a.toNat) (high : a.toNat < 224) (read : two? a b = some char) :
    decode (a :: b :: rest) = (decode rest).map (char :: ·) := by
  have many : ¬ a < 0x80 := not_lt_of_le_toNat (Nat.le_trans (by decide) low)
  have lead : ¬ a < 0xC0 := not_lt_of_le_toNat low
  have two : a < 0xE0 := UInt8.lt_iff_toNat_lt.2 high
  rw [decode.eq_def]
  simp only [if_neg many, if_neg lead, if_pos two, read]
  rfl

private theorem decode_three (low : 224 ≤ a.toNat) (high : a.toNat < 240)
    (read : three? a b c = some char) :
    decode (a :: b :: c :: rest) = (decode rest).map (char :: ·) := by
  have many : ¬ a < 0x80 := not_lt_of_le_toNat (Nat.le_trans (by decide) low)
  have lead : ¬ a < 0xC0 := not_lt_of_le_toNat (Nat.le_trans (by decide) low)
  have two : ¬ a < 0xE0 := not_lt_of_le_toNat low
  have three : a < 0xF0 := UInt8.lt_iff_toNat_lt.2 high
  rw [decode.eq_def]
  simp only [if_neg many, if_neg lead, if_neg two, if_pos three, read]
  rfl

private theorem decode_four (low : 240 ≤ a.toNat) (high : a.toNat < 248)
    (read : four? a b c d = some char) :
    decode (a :: b :: c :: d :: rest) = (decode rest).map (char :: ·) := by
  have many : ¬ a < 0x80 := not_lt_of_le_toNat (Nat.le_trans (by decide) low)
  have lead : ¬ a < 0xC0 := not_lt_of_le_toNat (Nat.le_trans (by decide) low)
  have two : ¬ a < 0xE0 := not_lt_of_le_toNat (Nat.le_trans (by decide) low)
  have three : ¬ a < 0xF0 := not_lt_of_le_toNat low
  have four : a < 0xF8 := UInt8.lt_iff_toNat_lt.2 high
  rw [decode.eq_def]
  simp only [if_neg many, if_neg lead, if_neg two, if_neg three, if_pos four, read]
  rfl

end Lead

theorem encodeChar_eq (char : Char) : String.utf8EncodeChar char =
    let number := char.toNat
    if number ≤ 127 then [UInt8.ofNat number]
    else if number ≤ 2047 then
      [UInt8.ofNat (number / 64 % 32 + 192), UInt8.ofNat (number % 64 + 128)]
    else if number ≤ 65535 then
      [UInt8.ofNat (number / 4096 % 16 + 224), UInt8.ofNat (number / 64 % 64 + 128),
        UInt8.ofNat (number % 64 + 128)]
    else
      [UInt8.ofNat (number / 262144 % 8 + 240), UInt8.ofNat (number / 4096 % 64 + 128),
        UInt8.ofNat (number / 64 % 64 + 128), UInt8.ofNat (number % 64 + 128)] :=
  rfl

theorem decode_encodeChar (char : Char) (rest : Bytes) :
    decode (String.utf8EncodeChar char ++ rest) = (decode rest).map (char :: ·) := by
  have bound : char.toNat < 1114112 := by
    have valid : char.toNat.isValidChar := char.valid
    unfold Nat.isValidChar at valid
    omega
  have small : ∀ number, number % 64 < 64 := fun number => Nat.mod_lt number (by decide)
  have lead : ∀ number, number < 256 → (UInt8.ofNat number).toNat = number := by
    intro number fits
    rw [UInt8.toNat_ofNat']
    omega
  rw [encodeChar_eq]
  dsimp only
  -- One case for each number of bytes; what the bytes carry adds up to the character again.
  split
  · next one =>
    have first := lead char.toNat (by omega)
    refine (decode_one rest (by omega)).trans ?_
    rw [first, Char.ofNat_toNat]
  · split
    · next two =>
      have first := lead (char.toNat / 64 % 32 + 192) (by omega)
      apply decode_two rest (by omega) (by omega)
      rw [two?, isContinuation_ofNat (small _), payload_ofNat (small _), first, if_pos rfl,
        ← @scalar?_toNat char 0x80 (by omega)]
      congr 1
      omega
    · split
      · next three =>
        have first := lead (char.toNat / 4096 % 16 + 224) (by omega)
        apply decode_three rest (by omega) (by omega)
        rw [three?, isContinuation_ofNat (small _), isContinuation_ofNat (small _),
          payload_ofNat (small _), payload_ofNat (small _), first, Bool.and_true, if_pos rfl,
          ← @scalar?_toNat char 0x800 (by omega)]
        congr 1
        omega
      · next four =>
        have first := lead (char.toNat / 262144 % 8 + 240) (by omega)
        apply decode_four rest (by omega) (by omega)
        rw [four?, isContinuation_ofNat (small _), isContinuation_ofNat (small _),
          isContinuation_ofNat (small _), payload_ofNat (small _), payload_ofNat (small _),
          payload_ofNat (small _), first, Bool.and_true, Bool.and_true, if_pos rfl,
          ← @scalar?_toNat char 0x10000 (by omega)]
        congr 1
        omega

theorem decode_encode (text : List Char) : decode (encode text) = some text := by
  induction text with
  | nil => rfl
  | cons char rest ih =>
    change decode (String.utf8EncodeChar char ++ encode rest) = _
    rw [decode_encodeChar, ih]
    rfl

end Utf8

theorem ModifiedUtf8.decode_encodeString (text : String) :
    decode (Utf8.encodeString text) = some text := by
  rw [decode, Utf8.encodeString, Utf8.decode_encode]
  exact congrArg some String.ofList_toList

namespace Bytecode

variable {code more : Bytes} {operands others : List Nat}

/-- Whether some instructions refer to some constants, whatever stands before and behind them. -/
def Runs (code : Bytes) (operands : List Nat) : Prop :=
  ∀ offset rest, operandsFrom offset (code ++ rest) =
    (operandsFrom (offset + code.length) rest).map (operands ++ ·)

theorem runs_nil : Runs [] [] := by
  intro offset rest
  simp only [List.nil_append, List.length_nil, Nat.add_zero]
  cases operandsFrom offset rest <;> rfl

theorem Runs.append (first : Runs code operands) (second : Runs more others) :
    Runs (code ++ more) (operands ++ others) := by
  intro offset rest
  rw [List.append_assoc, first, second, List.length_append, Nat.add_assoc]
  cases operandsFrom (offset + (code.length + more.length)) rest with
  | error error => rfl
  | ok found => simp [Except.map]

/-- Behind an instruction the walk goes on with what follows. -/
theorem operandsFrom_instruction {offset : Nat} {opcode : UInt8} {layout : Layout}
    {arguments rest : Bytes} {operand : Option Nat} (known : layout? opcode = some layout)
    (sized : operandBytes offset (arguments ++ rest) layout = .ok arguments.length)
    (refers : classOperand? opcode (arguments ++ rest) = .ok operand) :
    operandsFrom offset (opcode :: (arguments ++ rest)) =
      (operandsFrom (offset + (arguments.length + 1)) rest).map (operand.toList ++ ·) := by
  have enough : arguments.length ≤ (arguments ++ rest).length := by simp
  rw [operandsFrom, known]
  simp only [sized, refers, bind, Except.bind, if_pos enough, List.drop_left]
  rw [Nat.add_assoc, Nat.add_comm 1]
  cases operandsFrom (offset + (arguments.length + 1)) rest <;> rfl

/-- An instruction without alignment refers to what its own bytes say. -/
theorem runs_instruction {opcode : UInt8} {arguments : Bytes} {operand : Option Nat}
    (fixed : layout? opcode = some (.fixed arguments.length))
    (refers : ∀ rest, classOperand? opcode (arguments ++ rest) = .ok operand) :
    Runs (opcode :: arguments) operand.toList :=
  fun _ rest => operandsFrom_instruction fixed rfl (refers rest)

theorem runs_cast {number : Nat} (fits : number < 65536) :
    Runs (0xc0 :: bytes2 number) [number] := by
  refine @runs_instruction 0xc0 (bytes2 number) (some number) rfl fun rest => ?_
  have read : (number / 256).toUInt8.toNat * 256 + number.toUInt8.toNat = number := by
    simp only [Nat.toUInt8, UInt8.toNat_ofNat']
    omega
  conv => rhs; rw [← read]
  rfl

/-- A method body ends with a return. -/
theorem Runs.classOperands (runs : Runs code operands) :
    classOperands (code ++ [0xb1]) = .ok operands := by
  have last : Runs [0xb1] [] := @runs_instruction 0xb1 [] none rfl fun _ => rfl
  have whole := runs.append last 0 []
  rw [List.append_nil, List.append_nil, operandsFrom] at whole
  rw [Bytecode.classOperands, whole]
  simp [Except.map]

end Bytecode

/-- Whether a text is a class name as source code writes it: without slashes, and not the name of an
array. -/
def IsClassName (name : String) : Prop := '/' ∉ name.toList ∧ Text.startsWith name "[" = false

instance (name : String) : Decidable (IsClassName name) := inferInstanceAs (Decidable (_ ∧ _))

section ClassNames

variable {name other : String}

theorem Descriptor.binaryName_internalName (valid : IsClassName name) :
    binaryName (DraftPool.internalName name) = name := by
  rw [DraftPool.internalName, valid.2, if_neg Bool.false_ne_true, binaryName, Text.replaceChar,
    Text.replaceChar, String.toList_ofList, List.map_map]
  conv => rhs; rw [← @String.ofList_toList name, ← List.map_id name.toList]
  congr 1
  refine List.map_congr_left fun c member => ?_
  have notSlash : c ≠ '/' := fun slash => valid.1 (slash ▸ member)
  by_cases dot : c = '.'
  · simp [dot]
  · simp [dot, notSlash]

theorem DraftPool.internalName_inj (valid : IsClassName name) (valid' : IsClassName other)
    (same : internalName name = internalName other) : name = other := by
  rw [← Descriptor.binaryName_internalName valid, same, Descriptor.binaryName_internalName valid']

private theorem Descriptor.constantClass?_internalName (valid : IsClassName name) :
    constantClass? (DraftPool.internalName name) = some name := by
  have back := binaryName_internalName valid
  rw [constantClass?_of_binaryName (by rw [back]; exact valid.2), back]

theorem DraftPool.utf8ByteSize_internalName (name : String) :
    (internalName name).utf8ByteSize = name.utf8ByteSize := by
  unfold internalName
  split
  · rfl
  · rw [← Utf8.length_encodeString, ← Utf8.length_encodeString, Utf8.encodeString,
      Utf8.encodeString, Text.replaceChar, String.toList_ofList]
    induction name.toList with
    | nil => rfl
    | cons c rest ih =>
      simp only [Utf8.encode, List.map_cons, List.flatMap_cons, List.length_append] at ih ⊢
      rw [ih]
      split
      · next dot =>
        rw [beq_iff_eq.1 dot]
        rfl
      · rfl

theorem ClassDraft.utf8ByteSize_simpleName (name : String) :
    (simpleName name).utf8ByteSize ≤ name.utf8ByteSize := by
  unfold simpleName
  split
  · next before last cut =>
    obtain ⟨⟨after, rest⟩, found, same⟩ := Option.map_eq_some_iff.1 cut
    cases same
    obtain ⟨_, separator, _, whole⟩ := Text.splitOnce_eq_some_iff.1 found
    have behind : name.toList = rest.reverse ++ separator :: after.reverse := by
      simpa using congrArg List.reverse whole
    rw [← Utf8.length_encodeString, ← Utf8.length_encodeString, Utf8.encodeString,
      Utf8.encodeString, String.toList_ofList, behind, List.append_cons, Utf8.encode_append,
      List.length_append]
    exact Nat.le_add_left _ _
  · exact Nat.le_refl _

end ClassNames

namespace Descriptor

variable {className : String}

/-- Whether a descriptor is that of an array, of any number of dimensions up to 255, whose elements
are objects of a class. -/
def ElementClass (descriptor className : String) : Prop :=
  ∃ dimensions internal, 0 < dimensions ∧ dimensions ≤ 255 ∧ internal ≠ [] ∧ ';' ∉ internal ∧
    descriptor.toList = List.replicate dimensions '[' ++ 'L' :: (internal ++ [';']) ∧
    className = binaryName (String.ofList internal)

/-- Whether a reference names a class, either plainly or as the elements of an array. -/
def NamesClass (reference className : String) : Prop :=
  if Text.startsWith reference "[" then ElementClass reference className
  else className = reference

private theorem elementClass_arrays (count : Nat) (type : FieldType) :
    (FieldType.arrays count type).elementClass = type.elementClass := by
  induction count with
  | zero => rfl
  | succ count ih => exact ih

private theorem fieldType?_eq_some_iff {cs rest : List Char} :
    (∃ type, fieldType? cs = some (type, rest) ∧ type.elementClass = some className) ↔
      ∃ dimensions internal, dimensions ≤ 255 ∧ internal ≠ [] ∧ ';' ∉ internal ∧
        cs = List.replicate dimensions '[' ++ 'L' :: (internal ++ ';' :: rest) ∧
        className = binaryName (String.ofList internal) := by
  constructor
  · rintro ⟨type, found, named⟩
    obtain ⟨⟨dimensions, element, bounded⟩, rfl, rfl⟩ := exists_of_fieldType? found
    rw [WrittenType.type, elementClass_arrays] at named
    cases element with
    | base type => cases named
    | object name =>
      refine ⟨dimensions, name.text, bounded, name.nonempty, name.unended, ?_, ?_⟩
      · simp [WrittenType.text, WrittenElement.text]
      · rw [← name.binary_eq]
        exact (Option.some.inj named).symm
  · rintro ⟨dimensions, internal, bounded, nonempty, unended, rfl, rfl⟩
    let written : WrittenType := ⟨dimensions, .object ⟨internal, nonempty, unended⟩, bounded⟩
    refine ⟨written.type, ?_, ?_⟩
    · rw [← fieldType?_text written rest]
      simp [written, WrittenType.text, WrittenElement.text]
    · rw [WrittenType.type, elementClass_arrays,
        ← InternalName.binary_eq ⟨internal, nonempty, unended⟩]
      rfl

private theorem constantClass?_of_array {descriptor : String}
    (array : Text.startsWith descriptor "[" = true) :
    constantClass? descriptor = some className ↔ ElementClass descriptor className := by
  have parsed : constantClass? descriptor = some className ↔
      ∃ type, fieldType? descriptor.toList = some (type, []) ∧
        type.elementClass = some className := by
    rw [constantClass?, if_pos array, parseField, field?]
    cases found : fieldType? descriptor.toList with
    | none => simp
    | some read =>
      obtain ⟨type, rest⟩ := read
      cases rest <;> simp
  rw [parsed, fieldType?_eq_some_iff, ElementClass]
  constructor
  · rintro ⟨dimensions, internal, few, nonempty, clear, whole, same⟩
    refine ⟨dimensions, internal, Nat.pos_of_ne_zero ?_, few, nonempty, clear, whole, same⟩
    rintro rfl
    rw [Text.startsWith, whole] at array
    cases array
  · rintro ⟨dimensions, internal, _, rest⟩
    exact ⟨dimensions, internal, rest⟩

theorem constantClass?_iff {reference : String}
    (allowed : IsClassName reference ∨ Text.startsWith reference "[" = true) :
    constantClass? (DraftPool.internalName reference) = some className ↔
      NamesClass reference className := by
  cases array : Text.startsWith reference "[" with
  | true =>
    rw [DraftPool.internalName, NamesClass, if_pos array, if_pos array]
    exact constantClass?_of_array array
  | false =>
    rw [array] at allowed
    have valid := allowed.resolve_right Bool.false_ne_true
    rw [constantClass?_internalName valid, NamesClass, array, if_neg Bool.false_ne_true,
      Option.some.injEq]
    exact eq_comm

end Descriptor

end Linkage
