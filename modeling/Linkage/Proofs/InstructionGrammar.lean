import Linkage.Proofs.Encoding

/-!
The instructions of a method body.

A method body is a sequence of instructions without gaps. Most instructions have an operand part of
fixed length, a switch is aligned by its place in the body and says itself how long it is, and a
wide instruction has longer operands than the one it modifies. The walk over the bytes goes on
exactly as long as an instruction stands at the place it has reached. So it accepts exactly the
bytes of sequences of instructions, and collects the numbers of the constants that can be classes.
-/

set_option autoImplicit false

namespace Linkage

namespace Bytecode

/-- A number of four bytes, which is signed where it is counted with. -/
abbrev Word : Type := BitVec 32

def Word.bytes (word : Word) : Bytes := bytes4 word.toNat

/-- What an operand of an instruction of fixed length holds. -/
inductive Operand where
  | localIndex
  | byte
  | short
  | constant
  | branch
  | wideBranch
  | elementType
  /-- The number of arguments of a call, or a byte that is kept free. -/
  | filler
  deriving DecidableEq, Repr

def Operand.size : Operand → Nat
  | localIndex | byte | elementType | filler => 1
  | short | constant | branch => 2
  | wideBranch => 4

/-- Whether an opcode lies in a range, which includes its ends. -/
def isWithin (opcode : UInt8) (range : Nat × Nat) : Bool :=
  range.1 ≤ opcode.toNat && opcode.toNat ≤ range.2

/-- The operands of the instructions of fixed length that cannot name a class, with the ranges of
their opcodes. -/
def plainForms : List (List Operand × List (Nat × Nat)) := [
  -- `nop` to `dconst_1`, `iload_0` to `saload`, `istore_0` to `sastore`
  ([], [(0x00, 0x0f), (0x1a, 0x35), (0x3b, 0x56)]),
  -- `pop` to `lxor`, `i2l` to `dcmpg`
  ([], [(0x57, 0x83), (0x85, 0x98)]),
  -- `ireturn` to `return`, `arraylength`, `athrow`, `monitorenter`, `monitorexit`
  ([], [(0xac, 0xb1), (0xbe, 0xbf), (0xc2, 0xc3)]),
  -- `breakpoint`, `impdep1`, `impdep2`
  ([], [(0xca, 0xca), (0xfe, 0xff)]),
  -- `bipush`
  ([.byte], [(0x10, 0x10)]),
  -- `sipush`
  ([.short], [(0x11, 0x11)]),
  -- `iload` to `aload`, `istore` to `astore`, `ret`
  ([.localIndex], [(0x15, 0x19), (0x36, 0x3a), (0xa9, 0xa9)]),
  -- `iinc`
  ([.localIndex, .byte], [(0x84, 0x84)]),
  -- `ldc2_w`, `getstatic` to `invokestatic`
  ([.constant], [(0x14, 0x14), (0xb2, 0xb8)]),
  -- `invokeinterface`, `invokedynamic`
  ([.constant, .filler, .filler], [(0xb9, 0xba)]),
  -- `ifeq` to `jsr`, `ifnull`, `ifnonnull`
  ([.branch], [(0x99, 0xa8), (0xc6, 0xc7)]),
  -- `goto_w`, `jsr_w`
  ([.wideBranch], [(0xc8, 0xc9)]),
  -- `newarray`
  ([.elementType], [(0xbc, 0xbc)])]

/-- The length of the operands of an instruction of fixed length that cannot name a class. -/
def plainSize? (opcode : UInt8) : Option Nat :=
  (plainForms.find? fun form => form.2.any (isWithin opcode)).map fun form =>
    form.1.foldr (fun operand rest => operand.size + rest) 0

/-- The instructions whose only operand is the number of a constant that can be a class. -/
inductive ClassOperation where
  /-- `ldc_w` -/
  | load
  /-- `new` -/
  | new
  /-- `anewarray` -/
  | newArray
  /-- `checkcast` -/
  | cast
  /-- `instanceof` -/
  | instanceOf
  deriving DecidableEq, Repr

def ClassOperation.all : List ClassOperation := [.load, .new, .newArray, .cast, .instanceOf]

def ClassOperation.opcode : ClassOperation → UInt8
  | load => 0x13
  | new => 0xbb
  | newArray => 0xbd
  | cast => 0xc0
  | instanceOf => 0xc1

/-- An instruction of a method body. -/
inductive Instruction where
  /-- `ldc`, whose constant has a number of one byte. -/
  | load (index : UInt8)
  | ofClass (operation : ClassOperation) (index : UInt16)
  /-- `multianewarray` -/
  | newArrays (index : UInt16) (dimensions : UInt8)
  /-- Any other instruction of fixed length. -/
  | plain (opcode : UInt8) (operands : Bytes)
  | tableSwitch (padding : Bytes) (fallback low high : Word) (targets : List Word)
  | lookupSwitch (padding : Bytes) (fallback count : Word) (pairs : List (Word × Word))
  /-- A wide `iinc`. -/
  | wideIncrement (index amount : UInt16)
  /-- Any other wide instruction. -/
  | wide (opcode : UInt8) (index : UInt16)
  deriving DecidableEq, Repr

namespace Instruction

/-- What follows the opcode. -/
def arguments : Instruction → Bytes
  | load index => [index]
  | ofClass _ index => bytes2 index.toNat
  | newArrays index dimensions => bytes2 index.toNat ++ [dimensions]
  | plain _ operands => operands
  | tableSwitch padding fallback low high targets =>
    padding ++ (fallback.bytes ++ (low.bytes ++ (high.bytes ++ targets.flatMap Word.bytes)))
  | lookupSwitch padding fallback count pairs =>
    padding ++ (fallback.bytes ++ (count.bytes ++
      pairs.flatMap fun pair => pair.1.bytes ++ pair.2.bytes))
  | wideIncrement index amount => 0x84 :: (bytes2 index.toNat ++ bytes2 amount.toNat)
  | wide opcode index => opcode :: bytes2 index.toNat

def opcode : Instruction → UInt8
  | load _ => 0x12
  | ofClass operation _ => operation.opcode
  | newArrays _ _ => 0xc5
  | plain opcode _ => opcode
  | tableSwitch _ _ _ _ _ => 0xaa
  | lookupSwitch _ _ _ _ => 0xab
  | wideIncrement _ _ => 0xc4
  | wide _ _ => 0xc4

def layout : Instruction → Layout
  | load _ => .fixed 1
  | ofClass _ _ => .fixed 2
  | newArrays _ _ => .fixed 3
  | plain _ operands => .fixed operands.length
  | tableSwitch _ _ _ _ _ => .tableSwitch
  | lookupSwitch _ _ _ _ => .lookupSwitch
  | wideIncrement _ _ => .wide
  | wide _ _ => .wide

def bytes (instruction : Instruction) : Bytes := instruction.opcode :: instruction.arguments

/-- The number of the constant that can be a class. -/
def classConstant? : Instruction → Option Nat
  | load index => some index.toNat
  | ofClass _ index => some index.toNat
  | newArrays index _ => some index.toNat
  | _ => none

/-- Whether what follows an opcode at an offset is aligned by some bytes, and by no more of them
than it takes. -/
def Aligns (offset : Nat) (padding : Bytes) : Prop :=
  padding.length < 4 ∧ (offset + 1 + padding.length) % 4 = 0

/-- Whether the parts of an instruction fit together if its opcode stands at an offset. -/
def FitsAt (offset : Nat) : Instruction → Prop
  | plain opcode operands => plainSize? opcode = some operands.length
  | tableSwitch padding _ low high targets =>
    Aligns offset padding ∧ low.toInt ≤ high.toInt ∧
      (targets.length : Int) = high.toInt - low.toInt + 1
  | lookupSwitch padding _ count pairs =>
    Aligns offset padding ∧ (pairs.length : Int) = count.toInt
  | wide opcode _ => opcode ≠ 0x84
  | _ => True

end Instruction

section Opcodes

private theorem forall_opcode {holds : UInt8 → Prop} (all : ∀ number < 256, holds (UInt8.ofNat number))
    (opcode : UInt8) : holds opcode := by
  have own := all opcode.toNat opcode.toNat_lt
  rwa [UInt8.ofNat_toNat] at own

/-- Whether an opcode is that of an instruction with a layout. -/
def HasLayout (opcode : UInt8) : Layout → Prop
  | .fixed size =>
    opcode = 0x12 ∧ size = 1 ∨
      (∃ operation ∈ ClassOperation.all, opcode = operation.opcode) ∧ size = 2 ∨
      opcode = 0xc5 ∧ size = 3 ∨ plainSize? opcode = some size
  | .tableSwitch => opcode = 0xaa
  | .lookupSwitch => opcode = 0xab
  | .wide => opcode = 0xc4

instance (opcode : UInt8) : (layout : Layout) → Decidable (HasLayout opcode layout)
  | .fixed _ => inferInstanceAs (Decidable (_ ∨ _ ∨ _ ∨ _))
  | .tableSwitch | .lookupSwitch | .wide => inferInstanceAs (Decidable (_ = _))

private theorem hasLayout_of_layout? :
    ∀ opcode : UInt8, ∀ layout ∈ layout? opcode, HasLayout opcode layout := by
  apply forall_opcode
  decide +kernel

private theorem plain_opcode : ∀ opcode : UInt8, ∀ size ∈ plainSize? opcode,
    layout? opcode = some (.fixed size) ∧
      opcode ∉ [0x12, 0x13, 0xbb, 0xbd, 0xc0, 0xc1, 0xc5] := by
  apply forall_opcode
  decide +kernel

end Opcodes

section Numbers

private theorem exists_short (a b : UInt8) : ∃ number : UInt16, bytes2 number.toNat = [a, b] := by
  have boundA : a.toNat < 256 := a.toNat_lt
  have boundB : b.toNat < 256 := b.toNat_lt
  have fits : a.toNat * 256 + b.toNat < 65536 := by omega
  refine ⟨UInt16.ofNat (a.toNat * 256 + b.toNat), ?_⟩
  rw [UInt16.toNat_ofNat_of_lt' fits, bytes2_of_bytes]

private theorem bytes2_add (high low : Nat) : bytes2 (high * 65536 + low) = bytes2 low := by
  have first : ((high * 65536 + low) / 256).toUInt8 = (low / 256).toUInt8 := by
    simp only [← UInt8.toNat_inj, Nat.toUInt8, UInt8.toNat_ofNat']
    omega
  have second : (high * 65536 + low).toUInt8 = low.toUInt8 := by
    simp only [← UInt8.toNat_inj, Nat.toUInt8, UInt8.toNat_ofNat']
    omega
  rw [bytes2, bytes2, first, second]

private theorem exists_word (a b c d : UInt8) : ∃ word : Word, word.bytes = [a, b, c, d] := by
  have boundA : a.toNat < 256 := a.toNat_lt
  have boundB : b.toNat < 256 := b.toNat_lt
  have boundC : c.toNat < 256 := c.toNat_lt
  have boundD : d.toNat < 256 := d.toNat_lt
  have fits : (a.toNat * 256 + b.toNat) * 65536 + (c.toNat * 256 + d.toNat) < 4294967296 := by
    omega
  have high : ((a.toNat * 256 + b.toNat) * 65536 + (c.toNat * 256 + d.toNat)) / 65536 =
      a.toNat * 256 + b.toNat := by omega
  refine ⟨BitVec.ofNat 32 ((a.toNat * 256 + b.toNat) * 65536 + (c.toNat * 256 + d.toNat)), ?_⟩
  rw [Word.bytes, BitVec.toNat_ofNat, Nat.mod_eq_of_lt fits, bytes4, high, bytes2_add,
    bytes2_of_bytes, bytes2_of_bytes]
  rfl

private theorem signedAt_bytes (word : Word) (rest : Bytes) :
    signedAt (word.bytes ++ rest) = .ok word.toInt := by
  have bound : word.toNat < 4294967296 := word.isLt
  have value : (((word.toNat / 65536 / 256).toUInt8.toNat * 256 +
      (word.toNat / 65536).toUInt8.toNat) * 256 + (word.toNat / 256).toUInt8.toNat) * 256 +
      word.toNat.toUInt8.toNat = word.toNat := by
    simp only [Nat.toUInt8, UInt8.toNat_ofNat']
    omega
  simp only [Word.bytes, bytes4, bytes2, List.cons_append, List.nil_append, signedAt, signed, value]
  rw [BitVec.toInt_eq_toNat_cond]
  congr 1
  split
  · rw [if_pos (by omega)]
  · rw [if_neg (by omega)]
    rfl

/-- Bytes that are enough for some items are these items, if each is enough for one. -/
theorem exists_items {α : Type} {write : α → Bytes} {size : Nat}
    (each : ∀ bytes : Bytes, bytes.length = size → ∃ item, write item = bytes) (count : Nat)
    {bytes : Bytes} (length : bytes.length = count * size) :
    ∃ items : List α, items.length = count ∧ items.flatMap write = bytes := by
  induction count generalizing bytes with
  | zero =>
    rw [Nat.zero_mul] at length
    exact ⟨[], rfl, (List.eq_nil_of_length_eq_zero length).symm⟩
  | succ count ih =>
    rw [Nat.succ_mul] at length
    obtain ⟨item, first⟩ := each (bytes.take size) (List.length_take_of_le (by omega))
    obtain ⟨items, counted, others⟩ := @ih (bytes.drop size) (by rw [List.length_drop]; omega)
    refine ⟨item :: items, congrArg (· + 1) counted, ?_⟩
    rw [List.flatMap_cons, first, others, List.take_append_drop]

theorem exists_word_of_length {bytes : Bytes} (length : bytes.length = 4) :
    ∃ word : Word, word.bytes = bytes := by
  rcases bytes with _ | ⟨a, _ | ⟨b, _ | ⟨c, _ | ⟨d, _ | ⟨_, _⟩⟩⟩⟩⟩ <;> cases length
  exact exists_word a b c d

end Numbers

private theorem classOperand?_bytes2 {opcode : UInt8}
    (naming : opcode ∈ [0x13, 0xbb, 0xbd, 0xc0, 0xc1, 0xc5]) (index : UInt16) (rest : Bytes) :
    classOperand? opcode (bytes2 index.toNat ++ rest) = .ok (some index.toNat) := by
  have other : (opcode == 0x12) = false := by
    refine beq_false_of_ne ?_
    rintro rfl
    exact absurd naming (by decide)
  have bound : index.toNat < 65536 := index.toNat_lt
  have value : (index.toNat / 256).toUInt8.toNat * 256 + index.toNat.toUInt8.toNat =
      index.toNat := by
    simp only [Nat.toUInt8, UInt8.toNat_ofNat']
    omega
  rw [classOperand?.eq_def, other, if_neg Bool.false_ne_true,
    if_pos (by simpa using naming)]
  simp only [bytes2, List.cons_append, List.nil_append, value]

private theorem classOperand?_plain {opcode : UInt8} {size : Nat} (plain : plainSize? opcode = some size)
    (rest : Bytes) : classOperand? opcode rest = .ok none := by
  have special := (plain_opcode opcode size plain).2
  simp only [List.mem_cons, List.not_mem_nil, or_false, not_or] at special
  simp [classOperand?, special]

theorem aligns_iff {offset : Nat} {gap : Bytes} :
    Instruction.Aligns offset gap ↔ gap.length = padding offset := by
  unfold Instruction.Aligns padding
  omega

@[simp] theorem Word.length_bytes (word : Word) : word.bytes.length = 4 := rfl

section Switches

variable {offset : Nat} {gap : Bytes} (behind : Bytes)

private theorem operandBytes_tableSwitch (aligns : Instruction.Aligns offset gap)
    (fallback low high : Word) :
    operandBytes offset (gap ++ (fallback.bytes ++ (low.bytes ++ (high.bytes ++ behind))))
        .tableSwitch =
      if high.toInt < low.toInt then .error (.invalidBytecode offset)
      else .ok (gap.length + 12 + (high.toInt - low.toInt + 1).toNat * 4) := by
  have aligned := aligns_iff.1 aligns
  have atHigh : (fallback.bytes ++ (low.bytes ++ (high.bytes ++ behind))).drop 8 =
      high.bytes ++ behind := by
    rw [← List.append_assoc]
    exact List.drop_left' rfl
  simp only [operandBytes, List.drop_left' aligned, List.drop_left' fallback.length_bytes, atHigh,
    signedAt_bytes, aligned]
  rfl

private theorem operandBytes_lookupSwitch (aligns : Instruction.Aligns offset gap)
    (fallback count : Word) :
    operandBytes offset (gap ++ (fallback.bytes ++ (count.bytes ++ behind))) .lookupSwitch =
      if count.toInt < 0 then .error (.invalidBytecode offset)
      else .ok (gap.length + 8 + count.toInt.toNat * 8) := by
  have aligned := aligns_iff.1 aligns
  simp only [operandBytes, List.drop_left' aligned, List.drop_left' fallback.length_bytes,
    signedAt_bytes, aligned]
  rfl

end Switches

namespace Instruction

variable {offset : Nat} {instruction : Instruction}

private theorem layout?_opcode (fits : instruction.FitsAt offset) :
    layout? instruction.opcode = some instruction.layout := by
  cases instruction with
  | ofClass operation index => cases operation <;> rfl
  | plain opcode operands => exact (plain_opcode opcode _ fits).1
  | _ => rfl

private theorem classOperand?_arguments (fits : instruction.FitsAt offset) (rest : Bytes) :
    classOperand? instruction.opcode (instruction.arguments ++ rest) =
      .ok instruction.classConstant? := by
  cases instruction with
  | ofClass operation index =>
    have naming : operation.opcode ∈ [0x13, 0xbb, 0xbd, 0xc0, 0xc1, 0xc5] := by
      cases operation <;> decide
    exact classOperand?_bytes2 naming index rest
  | newArrays index dimensions =>
    have naming : (0xc5 : UInt8) ∈ [0x13, 0xbb, 0xbd, 0xc0, 0xc1, 0xc5] := by decide
    rw [arguments, List.append_assoc]
    exact classOperand?_bytes2 naming index _
  | plain opcode operands => exact classOperand?_plain fits _
  | _ => rfl

private theorem operandBytes_arguments (fits : instruction.FitsAt offset) (rest : Bytes) :
    operandBytes offset (instruction.arguments ++ rest) instruction.layout =
      .ok instruction.arguments.length := by
  cases instruction with
  | tableSwitch gap fallback low high targets =>
    obtain ⟨aligns, ordered, counted⟩ := fits
    simp only [arguments, layout, List.append_assoc, operandBytes_tableSwitch _ aligns]
    rw [if_neg (Int.not_lt.2 ordered), ← counted]
    simp only [List.length_append, Word.length_bytes, List.length_flatMap, List.map_const',
      List.sum_replicate_nat, Int.toNat_natCast]
    congr 1
    omega
  | lookupSwitch gap fallback count pairs =>
    obtain ⟨aligns, counted⟩ := fits
    simp only [arguments, layout, List.append_assoc, operandBytes_lookupSwitch _ aligns]
    rw [← counted, if_neg (Int.not_lt.2 (Int.natCast_nonneg _))]
    simp only [List.length_append, Word.length_bytes, List.length_flatMap, List.map_const',
      List.sum_replicate_nat, Int.toNat_natCast]
    congr 1
    omega
  | wide opcode index =>
    exact congrArg Except.ok (if_neg fun same => fits (eq_of_beq same))
  | _ => rfl

/-- Behind an instruction the walk goes on with the next one. -/
theorem operandsFrom_bytes (fits : instruction.FitsAt offset) (rest : Bytes) :
    operandsFrom offset (instruction.bytes ++ rest) =
      (operandsFrom (offset + instruction.bytes.length) rest).map
        (instruction.classConstant?.toList ++ ·) :=
  operandsFrom_instruction (layout?_opcode fits) (operandBytes_arguments fits rest)
    (classOperand?_arguments fits rest)

end Instruction

/-- Whether an instruction stands at the front of some bytes, which are left from an offset on. -/
def Stands (offset : Nat) (bytes : Bytes) : Prop :=
  ∃ (instruction : Instruction) (after : Bytes),
    instruction.FitsAt offset ∧ bytes = instruction.bytes ++ after

section Parts

variable {bytes : Bytes} {count : Nat}

theorem exists_append (enough : count ≤ bytes.length) :
    ∃ front after, bytes = front ++ after ∧ front.length = count :=
  ⟨bytes.take count, bytes.drop count, (List.take_append_drop count bytes).symm,
    List.length_take_of_le enough⟩

theorem exists_word_append (enough : 4 ≤ bytes.length) :
    ∃ (word : Word) (after : Bytes), bytes = word.bytes ++ after := by
  obtain ⟨front, after, rfl, length⟩ := exists_append enough
  obtain ⟨word, rfl⟩ := exists_word_of_length length
  exact ⟨word, after, rfl⟩

private theorem exists_pair_of_length (length : bytes.length = 8) :
    ∃ pair : Word × Word, pair.1.bytes ++ pair.2.bytes = bytes := by
  obtain ⟨first, behind, rfl⟩ := exists_word_append (by omega : 4 ≤ bytes.length)
  rw [List.length_append, Word.length_bytes] at length
  obtain ⟨second, rfl⟩ := exists_word_of_length (by omega : behind.length = 4)
  exact ⟨(first, second), rfl⟩

theorem exists_short_append (enough : 2 ≤ bytes.length) :
    ∃ (number : UInt16) (after : Bytes), bytes = bytes2 number.toNat ++ after := by
  rcases bytes with _ | ⟨a, _ | ⟨b, after⟩⟩
  · cases enough
  · exact absurd enough (by simp)
  · obtain ⟨number, same⟩ := exists_short a b
    exact ⟨number, after, by rw [same]; rfl⟩

end Parts

section Standing

variable {offset length : Nat} {rest : Bytes}

private theorem exists_switch (enough : padding offset + 8 ≤ rest.length) :
    ∃ (gap : Bytes) (fallback first : Word) (behind : Bytes), Instruction.Aligns offset gap ∧
      rest = gap ++ (fallback.bytes ++ (first.bytes ++ behind)) := by
  obtain ⟨gap, behind, rfl, aligned⟩ := exists_append (Nat.le_of_add_right_le enough)
  rw [List.length_append, aligned] at enough
  obtain ⟨fallback, behind, rfl⟩ := exists_word_append (by omega : 4 ≤ behind.length)
  rw [List.length_append, Word.length_bytes] at enough
  obtain ⟨first, behind, rfl⟩ := exists_word_append (by omega : 4 ≤ behind.length)
  exact ⟨gap, fallback, first, behind, aligns_iff.2 aligned, rfl⟩

private theorem stands_tableSwitch (sized : operandBytes offset rest .tableSwitch = .ok length)
    (enough : length ≤ rest.length) : Stands offset (0xaa :: rest) := by
  have least : padding offset + 12 ≤ length := by
    obtain ⟨low, _, sized⟩ := bind_ok sized
    obtain ⟨high, _, sized⟩ := bind_ok sized
    split at sized <;> cases sized
    omega
  obtain ⟨gap, fallback, low, behind, aligns, rfl⟩ :=
    exists_switch (by omega : padding offset + 8 ≤ rest.length)
  simp only [List.length_append, Word.length_bytes, aligns_iff.1 aligns] at enough
  obtain ⟨high, behind, rfl⟩ := exists_word_append (by omega : 4 ≤ behind.length)
  rw [List.length_append, Word.length_bytes] at enough
  rw [operandBytes_tableSwitch _ aligns, aligns_iff.1 aligns] at sized
  split at sized <;> cases sized
  next ordered =>
    obtain ⟨written, after, rfl, writtenLength⟩ := exists_append
      (by omega : (high.toInt - low.toInt + 1).toNat * 4 ≤ behind.length)
    obtain ⟨targets, counted, rfl⟩ := exists_items (fun _ => exists_word_of_length) _ writtenLength
    refine ⟨.tableSwitch gap fallback low high targets, after,
      ⟨aligns, Int.not_lt.1 ordered, by omega⟩, ?_⟩
    simp [Instruction.bytes, Instruction.opcode, Instruction.arguments]

private theorem stands_lookupSwitch (sized : operandBytes offset rest .lookupSwitch = .ok length)
    (enough : length ≤ rest.length) : Stands offset (0xab :: rest) := by
  have least : padding offset + 8 ≤ length := by
    obtain ⟨count, _, sized⟩ := bind_ok sized
    split at sized <;> cases sized
    omega
  obtain ⟨gap, fallback, count, behind, aligns, rfl⟩ := exists_switch (Nat.le_trans least enough)
  simp only [List.length_append, Word.length_bytes, aligns_iff.1 aligns] at enough
  rw [operandBytes_lookupSwitch _ aligns, aligns_iff.1 aligns] at sized
  split at sized <;> cases sized
  next positive =>
    obtain ⟨written, after, rfl, writtenLength⟩ := exists_append
      (by omega : count.toInt.toNat * 8 ≤ behind.length)
    obtain ⟨pairs, counted, rfl⟩ := exists_items (fun _ => exists_pair_of_length) _ writtenLength
    refine ⟨.lookupSwitch gap fallback count pairs, after, ⟨aligns, by omega⟩, ?_⟩
    simp [Instruction.bytes, Instruction.opcode, Instruction.arguments]

private theorem stands_wide (sized : operandBytes offset rest .wide = .ok length)
    (enough : length ≤ rest.length) : Stands offset (0xc4 :: rest) := by
  cases rest with
  | nil => cases sized
  | cons opcode rest =>
    rw [List.length_cons] at enough
    cases sized
    by_cases isIncrement : (opcode == increment) = true
    · obtain rfl : opcode = 0x84 := eq_of_beq isIncrement
      change 5 ≤ rest.length + 1 at enough
      obtain ⟨index, behind, rfl⟩ := exists_short_append (by omega : 2 ≤ rest.length)
      rw [List.length_append, length_bytes2] at enough
      obtain ⟨amount, after, rfl⟩ := exists_short_append (by omega : 2 ≤ behind.length)
      refine ⟨.wideIncrement index amount, after, trivial, ?_⟩
      simp [Instruction.bytes, Instruction.opcode, Instruction.arguments]
    · rw [if_neg isIncrement] at enough
      obtain ⟨index, after, rfl⟩ := exists_short_append (by omega : 2 ≤ rest.length)
      exact ⟨.wide opcode index, after, fun same => isIncrement (beq_iff_eq.2 same), rfl⟩

/-- Where the parts of an instruction can be told apart, one stands. -/
theorem stands_of_layout {opcode : UInt8} {layout : Layout} (known : layout? opcode = some layout)
    (sized : operandBytes offset rest layout = .ok length) (enough : length ≤ rest.length) :
    Stands offset (opcode :: rest) := by
  have has := hasLayout_of_layout? opcode layout known
  cases layout with
  | fixed size =>
    cases sized
    obtain ⟨rfl, rfl⟩ | ⟨⟨operation, _, rfl⟩, rfl⟩ | ⟨rfl, rfl⟩ | plain := has
    · obtain ⟨front, after, rfl, one⟩ := exists_append enough
      obtain ⟨index, rfl⟩ := List.length_eq_one_iff.1 one
      exact ⟨.load index, after, trivial, rfl⟩
    · obtain ⟨index, after, rfl⟩ := exists_short_append enough
      exact ⟨.ofClass operation index, after, trivial, rfl⟩
    · obtain ⟨index, behind, rfl⟩ := exists_short_append (Nat.le_of_succ_le enough)
      cases behind with
      | nil => exact absurd enough (by simp)
      | cons dimensions after => exact ⟨.newArrays index dimensions, after, trivial, rfl⟩
    · obtain ⟨operands, after, rfl, rfl⟩ := exists_append enough
      exact ⟨.plain opcode operands, after, plain, rfl⟩
  | tableSwitch =>
    obtain rfl : opcode = 0xaa := has
    exact stands_tableSwitch sized enough
  | lookupSwitch =>
    obtain rfl : opcode = 0xab := has
    exact stands_lookupSwitch sized enough
  | wide =>
    obtain rfl : opcode = 0xc4 := has
    exact stands_wide sized enough

end Standing

section Walk

variable {offset : Nat}

theorem signedAt_error {bytes : Bytes} {error : FormatError}
    (failed : signedAt bytes = .error error) : error = .unexpectedEnd := by
  unfold signedAt at failed
  split at failed
  · cases failed
  · cases failed
    rfl

private theorem classOperand?_error {opcode : UInt8} {rest : Bytes} {error : FormatError}
    (failed : classOperand? opcode rest = .error error) : error = .unexpectedEnd := by
  unfold classOperand? at failed
  repeat' split at failed
  all_goals cases failed
  all_goals rfl

private theorem operandBytes_error {layout : Layout} {rest : Bytes} {error : FormatError}
    (failed : operandBytes offset rest layout = .error error) :
    error = .unexpectedEnd ∨ error = .invalidBytecode offset := by
  cases layout with
  | fixed size => cases failed
  | tableSwitch =>
    rcases bind_error failed with failed | ⟨low, _, failed⟩
    · exact .inl (signedAt_error failed)
    rcases bind_error failed with failed | ⟨high, _, failed⟩
    · exact .inl (signedAt_error failed)
    split at failed
    · cases failed
      exact .inr rfl
    · cases failed
  | lookupSwitch =>
    rcases bind_error failed with failed | ⟨count, _, failed⟩
    · exact .inl (signedAt_error failed)
    split at failed
    · cases failed
      exact .inr rfl
    · cases failed
  | wide =>
    cases rest with
    | nil =>
      cases failed
      exact .inl rfl
    | cons opcode rest => cases failed

/-- Where no instruction stands, the walk fails. -/
theorem operandsFrom_error {code : Bytes} (nonempty : code ≠ []) (absent : ¬ Stands offset code) :
    operandsFrom offset code = .error .unexpectedEnd ∨
      operandsFrom offset code = .error (.invalidBytecode offset) := by
  cases code with
  | nil => exact absurd rfl nonempty
  | cons opcode rest =>
    rw [operandsFrom]
    cases known : layout? opcode with
    | none => exact .inr rfl
    | some layout =>
      dsimp only
      cases sized : operandBytes offset rest layout with
      | error error => exact (operandBytes_error sized).imp (congrArg _) (congrArg _)
      | ok length =>
        cases refers : classOperand? opcode rest with
        | error error => exact .inl (congrArg _ (classOperand?_error refers))
        | ok operand =>
          have short : ¬ length ≤ rest.length := fun enough =>
            absent (stands_of_layout known sized enough)
          exact .inl (if_neg short)

/-- Whether instructions can follow each other without gaps from an offset on. -/
def FitFrom : Nat → List Instruction → Prop
  | _, [] => True
  | offset, instruction :: rest =>
    instruction.FitsAt offset ∧ FitFrom (offset + instruction.bytes.length) rest

def assemble (program : List Instruction) : Bytes := program.flatMap Instruction.bytes

/-- The numbers of the constants that can be classes, in the order of the instructions. -/
def classConstants (program : List Instruction) : List Nat :=
  program.filterMap Instruction.classConstant?

theorem assemble_cons (instruction : Instruction) (program : List Instruction) :
    assemble (instruction :: program) = instruction.bytes ++ assemble program :=
  List.flatMap_cons

private theorem classConstants_cons (instruction : Instruction) (program : List Instruction) :
    classConstants (instruction :: program) =
      instruction.classConstant?.toList ++ classConstants program := by
  rw [classConstants, List.filterMap_cons]
  cases instruction.classConstant? <;> rfl

/-- The walk collects the constants of all instructions. -/
theorem operandsFrom_assemble {program : List Instruction} (fits : FitFrom offset program) :
    operandsFrom offset (assemble program) = .ok (classConstants program) := by
  induction program generalizing offset with
  | nil => rw [assemble, List.flatMap_nil, operandsFrom]; rfl
  | cons instruction program ih =>
    rw [assemble_cons, Instruction.operandsFrom_bytes fits.1, ih fits.2, classConstants_cons]
    rfl

private theorem length_le_assemble (program : List Instruction) :
    program.length ≤ (assemble program).length := by
  induction program with
  | nil => exact Nat.zero_le _
  | cons instruction program ih =>
    rw [assemble_cons, List.length_append, Instruction.bytes, List.length_cons, List.length_cons]
    omega

/-- Whether some instructions are those that stand one behind the other at the front of the code,
until none does. -/
structure PassesOver (offset : Nat) (code : Bytes) (program : List Instruction) (rest : Bytes) :
    Prop where
  fits : FitFrom offset program
  whole : code = assemble program ++ rest
  stops : ¬ Stands (offset + (assemble program).length) rest

/-- The walk comes to a place where no instruction stands. If that is not the end, it fails
there. -/
theorem exists_passesOver (offset : Nat) (code : Bytes) :
    ∃ program rest, PassesOver offset code program rest ∧
      (rest ≠ [] → operandsFrom offset code = .error .unexpectedEnd ∨
        operandsFrom offset code =
          .error (.invalidBytecode (offset + (assemble program).length))) := by
  -- The code gets shorter with each instruction, since each has an opcode.
  induction same : code.length using Nat.strongRecOn generalizing offset code with
  | _ size ih =>
    by_cases stands : Stands offset code
    · obtain ⟨instruction, after, fitsHere, rfl⟩ := stands
      have shorter : after.length < size := by
        rw [← same, Instruction.bytes, List.length_append, List.length_cons]
        omega
      obtain ⟨program, rest, ⟨fits, whole, stops⟩, fails⟩ :=
        ih _ shorter (offset + instruction.bytes.length) after rfl
      have place : offset + (assemble (instruction :: program)).length =
          offset + instruction.bytes.length + (assemble program).length := by
        rw [assemble_cons, List.length_append, Nat.add_assoc]
      refine ⟨instruction :: program, rest, ⟨⟨fitsHere, fits⟩, ?_, place ▸ stops⟩, fun left => ?_⟩
      · rw [whole, assemble_cons, List.append_assoc]
      · rw [place, Instruction.operandsFrom_bytes fitsHere]
        refine (fails left).imp (fun failed => ?_) (fun failed => ?_)
        all_goals
          rw [failed]
          rfl
    · exact ⟨[], code, ⟨trivial, rfl, stands⟩, fun left => operandsFrom_error left stands⟩

/-- The walk accepts exactly the bytes of instructions that follow each other without gaps, and
gives the constants that can be classes in their order. On any code it comes to an end: it passes
over no more instructions than there are bytes, and where no other one stands it is at the end of
the code or fails for that place. -/
theorem classOperands_exact (code : Bytes) :
    (∀ constants, classOperands code = .ok constants ↔
      ∃ program, FitFrom 0 program ∧ assemble program = code ∧
        classConstants program = constants) ∧
    ∃ program rest, PassesOver 0 code program rest ∧ program.length ≤ code.length ∧
      (rest = [] → classOperands code = .ok (classConstants program)) ∧
      (rest ≠ [] → classOperands code = .error .unexpectedEnd ∨
        classOperands code = .error (.invalidBytecode (assemble program).length)) := by
  obtain ⟨program, rest, passes, fails⟩ := exists_passesOver 0 code
  rw [Nat.zero_add] at fails
  have succeeds : rest = [] → classOperands code = .ok (classConstants program) := by
    rintro rfl
    rw [passes.whole, List.append_nil]
    exact operandsFrom_assemble passes.fits
  constructor
  · intro constants
    constructor
    · intro accepted
      by_cases left : rest = []
      · refine ⟨program, passes.fits, ?_, ?_⟩
        · rw [passes.whole, left, List.append_nil]
        · exact Except.ok.inj ((succeeds left).symm.trans accepted)
      · rcases fails left with failed | failed
        all_goals cases accepted.symm.trans failed
    · rintro ⟨program, fits, rfl, rfl⟩
      exact operandsFrom_assemble fits
  · refine ⟨program, rest, passes, ?_, succeeds, fails⟩
    rw [passes.whole, List.length_append]
    exact Nat.le_add_right_of_le (length_le_assemble program)

end Walk

end Bytecode

end Linkage
