import Linkage.Proofs.PoolTexts

/-!
Constants as a class file has them, and their numbers.

A constant is a tag with what follows it, and fills one number of the pool or, if it is a long or a
double, two. A text is any sequence of code units. A pool is read from what its constants are
written as exactly if no text has a surrogate without a partner. Then each constant is found at the
number that the constants before it leave. So a number leads to a text, a class or a name and type
exactly if such a constant is there and leads to texts in turn; number zero and the second number of
a long or double lead nowhere.
-/

set_option autoImplicit false

namespace Linkage

/-- A text as a class file has it: code units that take few enough bytes. -/
structure WrittenText where
  units : List UInt16
  short : (ModifiedUtf8.encodeUnits units).length < 65536

namespace WrittenText

def contents (written : WrittenText) : Bytes := ModifiedUtf8.encodeUnits written.units

/-- What is read for a text, if anything is. -/
def value (written : WrittenText) : String := (ModifiedUtf8.decode written.contents).getD ""

/-- A text is read as the one that has its code units. -/
theorem decode_contents {written : WrittenText} (paired : ModifiedUtf8.Paired written.units) :
    ModifiedUtf8.decode written.contents = some written.value := by
  obtain ⟨text, decoded⟩ := Option.isSome_iff_exists.1 (ModifiedUtf8.decode_isSome_iff.2 paired)
  rw [value, contents, decoded]
  rfl

theorem value_eq_iff {written : WrittenText} (paired : ModifiedUtf8.Paired written.units)
    {text : String} :
    written.value = text ↔ ModifiedUtf8.codeUnits text.toList = written.units := by
  rw [← ModifiedUtf8.decode_encodeUnits_iff, ← contents, decode_contents paired,
    Option.some.injEq]

end WrittenText

/-- The kinds of constants that fill one number and play no part in linkage. -/
inductive PlainKind where
  | integer
  | float
  | string
  | methodHandle
  | methodType
  | dynamic
  | invokeDynamic
  | module
  | package

namespace PlainKind

def tag : PlainKind → UInt8
  | integer => 3
  | float => 4
  | string => 8
  | methodHandle => 15
  | methodType => 16
  | dynamic => 17
  | invokeDynamic => 18
  | module => 19
  | package => 20

/-- The number of bytes behind the tag. -/
def size : PlainKind → Nat
  | integer | float | dynamic | invokeDynamic => 4
  | string | methodType | module | package => 2
  | methodHandle => 3

end PlainKind

inductive WideKind where
  | long
  | double

def WideKind.tag : WideKind → UInt8
  | long => 5
  | double => 6

inductive MemberKind where
  | field
  | method
  | interfaceMethod

namespace MemberKind

def tag : MemberKind → UInt8
  | field => 9
  | method => 10
  | interfaceMethod => 11

def value : MemberKind → Nat → Nat → Constant
  | field => .field
  | method => .method
  | interfaceMethod => .interfaceMethod

end MemberKind

/-- A constant as a class file has it. The numbers in it can be those of any constants, or of
none. -/
inductive WrittenConstant where
  | text (written : WrittenText)
  | plain (kind : PlainKind) (contents : Bytes) (sized : contents.length = kind.size)
  | wide (kind : WideKind) (contents : Bytes) (sized : contents.length = 8)
  | «class» (name : UInt16)
  | member (kind : MemberKind) (owner type : UInt16)
  | nameAndType (name descriptor : UInt16)

namespace WrittenConstant

def tag : WrittenConstant → UInt8
  | text _ => 1
  | plain kind _ _ => kind.tag
  | wide kind _ _ => kind.tag
  | «class» _ => 7
  | member kind _ _ => kind.tag
  | nameAndType _ _ => 12

def payload : WrittenConstant → Bytes
  | text written => bytes2 written.contents.length ++ written.contents
  | plain _ contents _ => contents
  | wide _ contents _ => contents
  | «class» name => bytes2 name.toNat
  | member _ owner type => bytes2 owner.toNat ++ bytes2 type.toNat
  | nameAndType name descriptor => bytes2 name.toNat ++ bytes2 descriptor.toNat

def bytes (constant : WrittenConstant) : Bytes := constant.tag :: constant.payload

def value : WrittenConstant → Constant
  | text written => .utf8 written.value
  | plain _ _ _ => .other
  | wide _ _ _ => .wide
  | «class» name => .class name.toNat
  | member kind owner type => kind.value owner.toNat type.toNat
  | nameAndType name descriptor => .nameAndType name.toNat descriptor.toNat

/-- Whether the surrogates of a constant have partners, as they can lack them in a text only. -/
def IsPaired : WrittenConstant → Prop
  | text written => ModifiedUtf8.Paired written.units
  | _ => True

/-- How many numbers a constant fills: two if it is a long or double, and one otherwise. -/
def width : WrittenConstant → Nat
  | wide _ _ _ => 2
  | _ => 1

def slotCount : List WrittenConstant → Nat
  | [] => 0
  | constant :: rest => constant.width + slotCount rest

/-- What stands at the numbers that some constants fill. -/
def slotsOf (constants : List WrittenConstant) : List Slot := constants.flatMap (·.value.slots)

/-- A constant that stands at a number: the constants before it fill the numbers from one to
there. -/
def StandsAt (constants : List WrittenConstant) (index : Nat) (constant : WrittenConstant) : Prop :=
  ∃ before after, constants = before ++ constant :: after ∧ index = 1 + slotCount before

def IsSecond (constants : List WrittenConstant) (index : Nat) : Prop :=
  ∃ first kind contents sized, StandsAt constants first (wide kind contents sized) ∧
    index = first + 1

/-- A text that stands at a number by its code units. -/
def TextAt (constants : List WrittenConstant) (index : Nat) (text : String) : Prop :=
  ∃ written : WrittenText, StandsAt constants index (.text written) ∧
    ModifiedUtf8.codeUnits text.toList = written.units

/-- What a constant is known as to linkage. -/
def IsReadAs : WrittenConstant → Constant → Prop
  | text written, value =>
    ∃ text, value = .utf8 text ∧ ModifiedUtf8.codeUnits text.toList = written.units
  | plain _ _ _, value => value = .other
  | wide _ _ _, value => value = .wide
  | «class» name, value => value = .class name.toNat
  | member kind owner type, value => value = kind.value owner.toNat type.toNat
  | nameAndType name descriptor, value => value = .nameAndType name.toNat descriptor.toNat

variable {constants : List WrittenConstant} {constant : WrittenConstant} {index : Nat}

theorem StandsAt.mem (stands : StandsAt constants index constant) : constant ∈ constants := by
  obtain ⟨before, after, rfl, _⟩ := stands
  exact List.mem_append_right _ List.mem_cons_self

private theorem isReadAs_value (paired : constant.IsPaired) : constant.IsReadAs constant.value := by
  cases constant with
  | text written => exact ⟨written.value, rfl, (WrittenText.value_eq_iff paired).1 rfl⟩
  | _ => rfl

open Decoder in
private theorem reads_bytes (paired : constant.IsPaired) (index : Nat) :
    (Constant.read index).Reads constant.bytes constant.value := by
  have fits : ∀ number : UInt16, number.toNat < 65536 := fun number => number.toNat_lt
  cases constant with
  | text written =>
    have decoded : ModifiedUtf8.decode (ModifiedUtf8.encodeUnits written.units) =
        some written.value := WrittenText.decode_contents paired
    intro rest
    refine (Constant.read_textBytes written.short rest).trans ?_
    rw [decoded]
    rfl
  | plain kind contents sized =>
    have skips : (do skip kind.size; pure Constant.other).Reads contents .other :=
      (reads_skip sized).bind_pure (reads_pure _)
    -- The reading goes by the tag, which is known only once the kind is.
    cases kind <;> exact (reads_u1 _).bind skips
  | wide kind contents sized =>
    have skips : (do skip 8; pure Constant.wide).Reads contents .wide :=
      (reads_skip sized).bind_pure (reads_pure _)
    cases kind <;> exact (reads_u1 _).bind skips
  | «class» name => exact (reads_u1 7).bind ((reads_u2 (fits name)).bind_pure (reads_pure _))
  | member kind owner type =>
    have first := reads_u2 (fits owner)
    have second := reads_u2 (fits type)
    cases kind <;> exact (reads_u1 _).bind (first.bind (second.bind_pure (reads_pure _)))
  | nameAndType name descriptor =>
    have first := reads_u2 (fits name)
    have second := reads_u2 (fits descriptor)
    exact (reads_u1 12).bind (first.bind (second.bind_pure (reads_pure _)))

/-- What stands at the numbers of a constant: the constant itself, and nothing behind it. -/
theorem slots_value (constant : WrittenConstant) :
    constant.value.slots =
      .constant constant.value :: List.replicate (constant.width - 1) .unusable := by
  cases constant with
  | member kind owner type => cases kind <;> rfl
  | _ => rfl

theorem width_pos (constant : WrittenConstant) : 0 < constant.width := by
  cases constant <;> exact Nat.succ_pos _

theorem length_slots_value (constant : WrittenConstant) :
    constant.value.slots.length = constant.width := by
  rw [slots_value, List.length_cons, List.length_replicate]
  exact Nat.sub_add_cancel constant.width_pos

theorem length_slotsOf (constants : List WrittenConstant) :
    (slotsOf constants).length = slotCount constants := by
  induction constants with
  | nil => rfl
  | cons constant rest ih =>
    rw [slotsOf, List.flatMap_cons, List.length_append, length_slots_value]
    exact congrArg _ ih

private theorem reads_slotsOf (paired : ∀ constant ∈ constants, constant.IsPaired) (index : Nat) :
    (ConstantPool.readSlots index (slotCount constants)).Reads (constants.flatMap bytes)
      (slotsOf constants) := by
  induction constants generalizing index with
  | nil =>
    rw [slotCount, ConstantPool.readSlots]
    exact Decoder.reads_pure []
  | cons constant rest ih =>
    have positive := constant.width_pos
    obtain ⟨missing, isNext⟩ : ∃ missing, slotCount (constant :: rest) = missing + 1 :=
      ⟨constant.width - 1 + slotCount rest, by rw [slotCount]; omega⟩
    have left : missing - (constant.width - 1) = slotCount rest := by
      rw [slotCount] at isNext
      omega
    rw [isNext, ConstantPool.readSlots]
    obtain ⟨first, others⟩ := List.forall_mem_cons.1 paired
    refine (reads_bytes first index).bind ?_
    dsimp only
    rw [length_slots_value, left]
    exact (ih others _).bind_pure (Decoder.reads_pure _)

private theorem fills_bytes (paired : ∀ constant ∈ constants, constant.IsPaired) (index : Nat) :
    ConstantPool.Fills index (constants.flatMap bytes) (index + slotCount constants) := by
  induction constants generalizing index with
  | nil => exact .nil index
  | cons constant rest ih =>
    obtain ⟨first, others⟩ := List.forall_mem_cons.1 paired
    rw [List.flatMap_cons, slotCount, ← Nat.add_assoc, ← length_slots_value]
    exact .cons (reads_bytes first index) (ih others _)

private theorem slotsOf_append_cons (before after : List WrittenConstant) (constant : WrittenConstant) :
    slotsOf (before ++ constant :: after) =
      slotsOf before ++ (constant.value.slots ++ slotsOf after) := by
  rw [slotsOf, List.flatMap_append, List.flatMap_cons]
  rfl

/-- The constants before it leave a constant its number, and a long or double the next one too. -/
theorem getElem?_slotsOf_add (before after : List WrittenConstant) (constant : WrittenConstant)
    {offset : Nat} (within : offset < constant.width) :
    (slotsOf (before ++ constant :: after))[slotCount before + offset]? =
      constant.value.slots[offset]? := by
  rw [slotsOf_append_cons, ← length_slotsOf before,
    List.getElem?_append_right (Nat.le_add_right _ _), Nat.add_sub_cancel_left,
    List.getElem?_append_left]
  rw [length_slots_value]
  exact within

private theorem exists_of_getElem?_slotsOf {value : Constant}
    (there : (slotsOf constants)[index]? = some (.constant value)) :
    ∃ before constant after, constants = before ++ constant :: after ∧
      index = slotCount before ∧ constant.value = value := by
  induction constants generalizing index with
  | nil => cases there
  | cons first rest ih =>
    rw [slotsOf, List.flatMap_cons, slots_value, List.cons_append] at there
    cases index with
    | zero =>
      cases there
      exact ⟨[], first, rest, rfl, rfl, rfl⟩
    | succ index =>
      rw [List.getElem?_cons_succ, List.getElem?_append, List.length_replicate] at there
      split at there
      · next second =>
        -- The second number of a long or double has no constant.
        rw [List.getElem?_replicate, if_pos second] at there
        cases there
      · next behind =>
        obtain ⟨before, constant, after, rfl, same, found⟩ := ih there
        have positive := first.width_pos
        refine ⟨first :: before, constant, after, rfl, ?_, found⟩
        rw [slotCount]
        omega

/-- What is read tells the constants that linkage depends on apart. -/
theorem eq_text_of_value {text : String} (same : constant.value = .utf8 text) :
    ∃ written : WrittenText, constant = .text written ∧ written.value = text := by
  cases constant with
  | text written => exact ⟨written, rfl, Constant.utf8.inj same⟩
  | member kind owner type => cases kind <;> cases same
  | _ => cases same

private theorem eq_class_of_value {number : Nat} (same : constant.value = .class number) :
    ∃ name : UInt16, constant = .class name ∧ name.toNat = number := by
  cases constant with
  | «class» name => exact ⟨name, rfl, Constant.class.inj same⟩
  | member kind owner type => cases kind <;> cases same
  | _ => cases same

private theorem eq_nameAndType_of_value {first second : Nat}
    (same : constant.value = .nameAndType first second) :
    ∃ name descriptor : UInt16, constant = .nameAndType name descriptor ∧ name.toNat = first ∧
      descriptor.toNat = second := by
  cases constant with
  | nameAndType name descriptor => exact ⟨name, descriptor, rfl, Constant.nameAndType.inj same⟩
  | member kind owner type => cases kind <;> cases same
  | _ => cases same

end WrittenConstant

namespace ConstantPool

open WrittenConstant

section Access

variable {pool : ConstantPool} {index : Nat} {text name descriptor : String}

private theorem slot_eq_ok_iff {slot : Slot} :
    pool.slot index = .ok slot ↔ pool.slots[index]? = some slot := by
  rw [ConstantPool.slot]
  cases pool.slots[index]? <;> simp

private theorem utf8_eq_ok_iff :
    pool.utf8 index = .ok text ↔ pool.slot index = .ok (.constant (.utf8 text)) := by
  unfold utf8
  cases pool.slot index with
  | error error => simp [bind, Except.bind]
  | ok slot =>
    rcases slot with value | _
    · cases value <;> simp [bind, Except.bind, pure, Except.pure]
    · simp [bind, Except.bind]

private theorem className_eq_ok_iff :
    pool.className index = .ok text ↔
      ∃ number, pool.slot index = .ok (.constant (.class number)) ∧
        pool.utf8 number = .ok text := by
  unfold className
  cases pool.slot index with
  | error error => simp [bind, Except.bind]
  | ok slot =>
    rcases slot with value | _
    · cases value <;> simp [bind, Except.bind]
    · simp [bind, Except.bind]

private theorem nameAndType_eq_ok_iff :
    pool.nameAndType index = .ok (name, descriptor) ↔
      ∃ first second, pool.slot index = .ok (.constant (.nameAndType first second)) ∧
        pool.utf8 first = .ok name ∧ pool.utf8 second = .ok descriptor := by
  unfold nameAndType
  cases pool.slot index with
  | error error => simp [bind, Except.bind]
  | ok slot =>
    rcases slot with value | _
    · cases value with
      | nameAndType first second =>
        cases named : pool.utf8 first <;> cases typed : pool.utf8 second <;>
          simp [bind, Except.bind, pure, Except.pure, named, typed]
      | _ => simp [bind, Except.bind]
    · simp [bind, Except.bind]

/-- A number at which nothing stands is refused whatever is expected there. -/
theorem refuses_unusable (unusable : pool.slot index = .ok .unusable) :
    pool.utf8 index = .error (.unexpectedConstant index .utf8) ∧
      pool.className index = .error (.unexpectedConstant index .class) ∧
      pool.nameAndType index = .error (.unexpectedConstant index .nameAndType) := by
  rw [utf8, className, nameAndType, unusable]
  exact ⟨rfl, rfl, rfl⟩

end Access

/-- Constants as a class file has them, behind the number that follows their last one. -/
def written (constants : List WrittenConstant) : Bytes :=
  bytes2 (slotCount constants + 1) ++ constants.flatMap bytes

def ofWritten (constants : List WrittenConstant) : ConstantPool :=
  ⟨(Slot.unusable :: slotsOf constants).toArray⟩

variable {constants : List WrittenConstant} {index : Nat}

private theorem reads_written (paired : ∀ constant ∈ constants, constant.IsPaired)
    (fits : slotCount constants ≤ 65534) :
    ConstantPool.read.Reads (written constants) (ofWritten constants) := by
  have short : slotCount constants + 1 < 65536 := by omega
  exact (Decoder.reads_u2 short).bind ((reads_slotsOf paired 1).bind_pure (Decoder.reads_pure _))

/-- A text stands in the bytes of a pool at its number, behind constants that can be read. -/
theorem hasText_written {before after : List WrittenConstant} {text : WrittenText}
    (paired : ∀ constant ∈ before, constant.IsPaired)
    (fits : slotCount (before ++ .text text :: after) ≤ 65534) (rest : Bytes) :
    HasText (written (before ++ .text text :: after) ++ rest) (1 + slotCount before)
      text.contents := by
  have count : slotCount (before ++ .text text :: after) =
      slotCount before + (1 + slotCount after) := by
    rw [← length_slotsOf, slotsOf_append_cons, List.length_append, List.length_append,
      length_slotsOf, length_slotsOf]
    rfl
  refine ⟨slotCount (before ++ .text text :: after) + 1, before.flatMap bytes,
    after.flatMap bytes ++ rest, by omega, by omega, text.short, fills_bytes paired 1, ?_⟩
  simp [written, bytes, payload, tag, Constant.textBytes]

theorem slot_ofWritten_succ {slot : Slot} : (ofWritten constants).slot (index + 1) = .ok slot ↔
    (slotsOf constants)[index]? = some slot := by
  rw [slot_eq_ok_iff, ofWritten, List.getElem?_toArray, List.getElem?_cons_succ]

theorem slot_eq_constant_iff {value : Constant} :
    (ofWritten constants).slot index = .ok (.constant value) ↔
      ∃ constant, StandsAt constants index constant ∧ constant.value = value := by
  constructor
  · intro found
    cases index with
    | zero => cases found
    | succ index =>
      obtain ⟨before, constant, after, whole, rfl, same⟩ :=
        exists_of_getElem?_slotsOf (slot_ofWritten_succ.1 found)
      exact ⟨constant, ⟨before, after, whole, Nat.add_comm _ 1⟩, same⟩
  · rintro ⟨constant, ⟨before, after, rfl, rfl⟩, rfl⟩
    rw [Nat.add_comm, slot_ofWritten_succ]
    refine (getElem?_slotsOf_add before after constant constant.width_pos).trans ?_
    rw [slots_value]
    rfl

private theorem slot_of_isSecond (second : IsSecond constants index) :
    (ofWritten constants).slot index = .ok .unusable := by
  obtain ⟨_, kind, contents, sized, ⟨before, after, rfl, rfl⟩, rfl⟩ := second
  rw [slot_ofWritten_succ, Nat.add_comm]
  exact getElem?_slotsOf_add before after (.wide kind contents sized) (Nat.lt_succ_self 1)

theorem utf8_ofWritten_iff (paired : ∀ constant ∈ constants, constant.IsPaired) {text : String} :
    (ofWritten constants).utf8 index = .ok text ↔ TextAt constants index text := by
  rw [utf8_eq_ok_iff, slot_eq_constant_iff]
  constructor
  · rintro ⟨constant, stands, same⟩
    obtain ⟨written, rfl, isText⟩ := eq_text_of_value same
    exact ⟨written, stands, (WrittenText.value_eq_iff (paired _ stands.mem)).1 isText⟩
  · rintro ⟨written, stands, units⟩
    have isText := (WrittenText.value_eq_iff (paired _ stands.mem)).2 units
    exact ⟨.text written, stands, congrArg Constant.utf8 isText⟩

/-- A pool that holds what some constants say. -/
structure Holds (constants : List WrittenConstant) (pool : ConstantPool) : Prop where
  size : pool.slots.size = 1 + slotCount constants
  constant : ∀ index constant, StandsAt constants index constant →
    ∃ value, pool.slot index = .ok (.constant value) ∧ constant.IsReadAs value
  utf8_iff : ∀ index text, pool.utf8 index = .ok text ↔ TextAt constants index text
  className_iff : ∀ index text, pool.className index = .ok text ↔
    ∃ name : UInt16, StandsAt constants index (.class name) ∧ TextAt constants name.toNat text
  nameAndType_iff : ∀ index name descriptor,
    pool.nameAndType index = .ok (name, descriptor) ↔
      ∃ first second : UInt16, StandsAt constants index (.nameAndType first second) ∧
        TextAt constants first.toNat name ∧ TextAt constants second.toNat descriptor
  /-- Number zero and the second number of a long or double are refused. -/
  refuses : ∀ index, index = 0 ∨ IsSecond constants index →
    pool.utf8 index = .error (.unexpectedConstant index .utf8) ∧
      pool.className index = .error (.unexpectedConstant index .class) ∧
      pool.nameAndType index = .error (.unexpectedConstant index .nameAndType)

private theorem holds_ofWritten (paired : ∀ constant ∈ constants, constant.IsPaired) :
    (ofWritten constants).Holds constants where
  size := by
    rw [ofWritten, List.size_toArray, List.length_cons, length_slotsOf, Nat.add_comm]
  constant := fun index constant stands => ⟨constant.value,
    slot_eq_constant_iff.2 ⟨constant, stands, rfl⟩, isReadAs_value (paired constant stands.mem)⟩
  utf8_iff := fun _ _ => utf8_ofWritten_iff paired
  className_iff := by
    intro index text
    simp only [className_eq_ok_iff, slot_eq_constant_iff, utf8_ofWritten_iff paired]
    constructor
    · rintro ⟨number, ⟨constant, stands, same⟩, isText⟩
      obtain ⟨name, rfl, rfl⟩ := eq_class_of_value same
      exact ⟨name, stands, isText⟩
    · rintro ⟨name, stands, isText⟩
      exact ⟨name.toNat, ⟨.class name, stands, rfl⟩, isText⟩
  nameAndType_iff := by
    intro index name descriptor
    simp only [nameAndType_eq_ok_iff, slot_eq_constant_iff, utf8_ofWritten_iff paired]
    constructor
    · rintro ⟨_, _, ⟨constant, stands, same⟩, isName, isDescriptor⟩
      obtain ⟨first, second, rfl, rfl, rfl⟩ := eq_nameAndType_of_value same
      exact ⟨first, second, stands, isName, isDescriptor⟩
    · rintro ⟨first, second, stands, isName, isDescriptor⟩
      exact ⟨_, _, ⟨.nameAndType first second, stands, rfl⟩, isName, isDescriptor⟩
  refuses := by
    rintro index (rfl | second)
    · exact refuses_unusable rfl
    · exact refuses_unusable (slot_of_isSecond second)

/-- If some constants are not all paired, one of them is the first that is not. -/
theorem exists_first_unpaired (unpaired : ¬ ∀ constant ∈ constants, constant.IsPaired) :
    ∃ before text after, constants = before ++ .text text :: after ∧
      (∀ constant ∈ before, constant.IsPaired) ∧ ¬ ModifiedUtf8.Paired text.units := by
  induction constants with
  | nil => exact absurd (fun _ member => absurd member List.not_mem_nil) unpaired
  | cons first rest ih =>
    by_cases paired : first.IsPaired
    · obtain ⟨before, text, after, rfl, earlier, lone⟩ :=
        ih fun others => unpaired (List.forall_mem_cons.2 ⟨paired, others⟩)
      exact ⟨first :: before, text, after, rfl, List.forall_mem_cons.2 ⟨paired, earlier⟩, lone⟩
    · cases first with
      | text text => exact ⟨[], text, rest, rfl, by simp, paired⟩
      | _ => exact absurd trivial paired

/-- If each surrogate has a partner, what constants are written as is read to its end, whatever
follows it, and the pool holds what the constants say. Otherwise the pool is refused for the first
text with a surrogate that has none. -/
theorem read_written_exact (constants : List WrittenConstant) (fits : slotCount constants ≤ 65534)
    (rest : Bytes) :
    ((∀ constant ∈ constants, constant.IsPaired) →
      ∃ pool, ConstantPool.read (written constants ++ rest) = .ok (pool, rest) ∧
        pool.Holds constants) ∧
    ((¬ ∀ constant ∈ constants, constant.IsPaired) →
      ∃ before text after, constants = before ++ .text text :: after ∧
        (∀ constant ∈ before, constant.IsPaired) ∧ ¬ ModifiedUtf8.Paired text.units ∧
        ConstantPool.read (written constants ++ rest) =
          .error (.invalidUtf8 (1 + slotCount before))) := by
  constructor
  · intro paired
    exact ⟨ofWritten constants, reads_written paired fits rest, holds_ofWritten paired⟩
  · intro unpaired
    obtain ⟨before, text, after, rfl, earlier, lone⟩ := exists_first_unpaired unpaired
    have has := hasText_written earlier fits rest
    refine ⟨before, text, after, rfl, earlier, lone, (read_invalidUtf8_iff has).2 ?_⟩
    rwa [← Option.not_isSome_iff_eq_none, WrittenText.contents, ModifiedUtf8.decode_isSome_iff]

namespace NumberSample

def letter : WrittenText := ⟨[0x78], by decide⟩

/-- A supplementary character. -/
def pair : WrittenText := ⟨[0xD83D, 0xDE00], by decide⟩

/-- A long fills the first two numbers, so the texts are at the numbers four and five. -/
def behindLong : List WrittenConstant := [
  .wide .long [0, 0, 0, 0, 0, 0, 0, 1] rfl,
  .class 4,
  .text letter,
  .text pair,
  .nameAndType 4 5]

private theorem paired_behindLong : ∀ constant ∈ behindLong, constant.IsPaired := by
  have single : ModifiedUtf8.Paired [0x78] := .single (by decide) (by decide) .nil
  have both : ModifiedUtf8.Paired [0xD83D, 0xDE00] := .pair (by decide) (by decide) .nil
  simp [behindLong, IsPaired, letter, pair, single, both]

theorem read_finds_behind_long :
    slotCount behindLong ≤ 65534 ∧ (∀ constant ∈ behindLong, constant.IsPaired) ∧
      ∃ pool, ConstantPool.read (written behindLong ++ [0xff]) = .ok (pool, [0xff]) ∧
        pool.Holds behindLong ∧ pool.className 3 = .ok "x" ∧
        pool.utf8 5 = .ok (String.singleton (Char.ofNat 0x1F600)) ∧
        pool.utf8 2 = .error (.unexpectedConstant 2 .utf8) := by
  have few : slotCount behindLong ≤ 65534 := by decide
  obtain ⟨pool, read, holds⟩ := (read_written_exact behindLong few [0xff]).1 paired_behindLong
  have long : StandsAt behindLong 1 (.wide .long [0, 0, 0, 0, 0, 0, 0, 1] rfl) := ⟨[], _, rfl, rfl⟩
  have isClass : StandsAt behindLong 3 (.class 4) :=
    ⟨[.wide .long [0, 0, 0, 0, 0, 0, 0, 1] rfl], _, rfl, rfl⟩
  have isLetter : TextAt behindLong 4 "x" :=
    ⟨letter, ⟨[.wide .long [0, 0, 0, 0, 0, 0, 0, 1] rfl, .class 4], _, rfl, rfl⟩, by decide⟩
  have isPair : TextAt behindLong 5 (String.singleton (Char.ofNat 0x1F600)) :=
    ⟨pair, ⟨[.wide .long [0, 0, 0, 0, 0, 0, 0, 1] rfl, .class 4, .text letter], _, rfl, rfl⟩,
      by decide⟩
  exact ⟨few, paired_behindLong, pool, read, holds,
    (holds.className_iff 3 "x").2 ⟨4, isClass, isLetter⟩, (holds.utf8_iff 5 _).2 isPair,
    (holds.refuses 2 (.inr ⟨1, _, _, _, long, rfl⟩)).1⟩

/-- The text behind the long is one surrogate alone. -/
def loneBehindLong : List WrittenConstant := [
  .wide .long [0, 0, 0, 0, 0, 0, 0, 1] rfl,
  .text ⟨[0xD800], by decide⟩]

theorem read_refuses_behind_long : slotCount loneBehindLong ≤ 65534 ∧
    ConstantPool.read (written loneBehindLong) = .error (.invalidUtf8 3) := by
  have few : slotCount loneBehindLong ≤ 65534 := by decide
  have undecoded : ModifiedUtf8.decode (ModifiedUtf8.encodeUnits [0xD800]) = none := by
    decide +kernel
  have earlier : ∀ constant ∈ loneBehindLong.take 1, constant.IsPaired := by
    simp [loneBehindLong, IsPaired]
  have has := hasText_written earlier few []
  rw [List.append_nil] at has
  exact ⟨few, (read_invalidUtf8_iff has).2 undecoded⟩

end NumberSample

end ConstantPool

end Linkage
