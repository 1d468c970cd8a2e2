import Linkage.Proofs.Encoding

/-!
The constants of a draft.

Equal constants are added once, so a text, a class and a member have one number each. A pool only
grows, and what stands at a number stays there. So whatever was added to a draft can be found in the
pool of its class file by the number that the draft remembers.
-/

set_option autoImplicit false

namespace Linkage

section Related

variable {α β : Type} {related : α → β → Prop} {left : List α} {right : List β}

theorem exists_right_of_mem (all : List.Forall₂ related left right) {a : α} (member : a ∈ left) :
    ∃ b ∈ right, related a b := by
  induction all with
  | nil => cases member
  | cons first _ ih =>
    rcases List.mem_cons.1 member with rfl | member
    · exact ⟨_, List.mem_cons_self, first⟩
    · obtain ⟨b, included, holds⟩ := ih member
      exact ⟨b, List.mem_cons_of_mem _ included, holds⟩

theorem exists_left_of_mem (all : List.Forall₂ related left right) {b : β} (member : b ∈ right) :
    ∃ a ∈ left, related a b := by
  induction all with
  | nil => cases member
  | cons first _ ih =>
    rcases List.mem_cons.1 member with rfl | member
    · exact ⟨_, List.mem_cons_self, first⟩
    · obtain ⟨a, included, holds⟩ := ih member
      exact ⟨a, List.mem_cons_of_mem _ included, holds⟩

end Related

namespace Constant

/-- Whether a constant can be written: its text and its numbers are not too long. -/
def Fits : Constant → Prop
  | utf8 text => text.utf8ByteSize ≤ 65535
  | «class» name => name < 65536
  | field owner member => owner < 65536 ∧ member < 65536
  | method owner member => owner < 65536 ∧ member < 65536
  | interfaceMethod owner member => owner < 65536 ∧ member < 65536
  | nameAndType name descriptor => name < 65536 ∧ descriptor < 65536
  | other => False
  | wide => False

theorem reads_write {constant : Constant} (fits : constant.Fits) (index : Nat) :
    (read index).Reads constant.write constant := by
  cases constant with
  | utf8 text =>
    have short : (Utf8.encodeString text).length < 65536 := by
      rw [Utf8.length_encodeString]
      exact Nat.lt_succ_of_le fits
    refine (Decoder.reads_u1 1).bind ((Decoder.reads_u2 short).bind ?_)
    refine (Decoder.reads_take _).bind_pure ?_
    rw [ModifiedUtf8.decode_encodeString]
    exact Decoder.reads_pure _
  | «class» name =>
    exact (Decoder.reads_u1 7).bind ((Decoder.reads_u2 fits).bind_pure (Decoder.reads_pure _))
  | field owner member =>
    refine (Decoder.reads_u1 9).bind ((Decoder.reads_u2 fits.1).bind ?_)
    exact (Decoder.reads_u2 fits.2).bind_pure (Decoder.reads_pure _)
  | method owner member =>
    refine (Decoder.reads_u1 10).bind ((Decoder.reads_u2 fits.1).bind ?_)
    exact (Decoder.reads_u2 fits.2).bind_pure (Decoder.reads_pure _)
  | interfaceMethod owner member =>
    refine (Decoder.reads_u1 11).bind ((Decoder.reads_u2 fits.1).bind ?_)
    exact (Decoder.reads_u2 fits.2).bind_pure (Decoder.reads_pure _)
  | nameAndType name descriptor =>
    refine (Decoder.reads_u1 12).bind ((Decoder.reads_u2 fits.1).bind ?_)
    exact (Decoder.reads_u2 fits.2).bind_pure (Decoder.reads_pure _)
  | other => exact fits.elim
  | wide => exact fits.elim

private theorem slots_of_fits {constant : Constant} (fits : constant.Fits) :
    constant.slots = [.constant constant] := by
  cases constant with
  | wide => exact fits.elim
  | _ => rfl

end Constant

private theorem ConstantPool.reads_slots {constants : List Constant} (fits : ∀ constant ∈ constants,
    constant.Fits) (index : Nat) :
    (readSlots index constants.length).Reads (constants.flatMap (·.write))
      (constants.map .constant) := by
  induction constants generalizing index with
  | nil =>
    rw [List.length_nil, readSlots]
    exact Decoder.reads_pure []
  | cons constant rest ih =>
    have own := fits constant List.mem_cons_self
    have others := ih fun next member => fits next (List.mem_cons_of_mem _ member)
    rw [List.length_cons, readSlots]
    refine (Constant.reads_write own index).bind ?_
    rw [Constant.slots_of_fits own]
    exact (others (index + 1)).bind_pure (Decoder.reads_pure _)

namespace MemberReference

def owner : MemberReference → String
  | field owner _ _ => owner
  | method owner _ _ _ => owner

def name : MemberReference → String
  | field _ name _ => name
  | method _ name _ _ => name

def descriptor : MemberReference → String
  | field _ _ descriptor => descriptor
  | method _ _ descriptor _ => descriptor

/-- The constant for a member, from the numbers of its owner and of its name and type. -/
def constant : MemberReference → Nat → Nat → Constant
  | field _ _ _ => .field
  | method _ _ _ false => .method
  | method _ _ _ true => .interfaceMethod

end MemberReference

namespace DraftPool

variable {pool later : DraftPool} {index number : Nat}

/-- The constants as they were added. -/
def added (pool : DraftPool) : List Constant := pool.constants.map (·.added)

/-- The constants as they are read from what is written. -/
def table (pool : DraftPool) : ConstantPool :=
  ⟨(Slot.unusable :: pool.added.map .constant).toArray⟩

section Contents

def At (pool : DraftPool) (index : Nat) (constant : Constant) : Prop :=
  ∃ position, index = position + 1 ∧ pool.added[position]? = some constant

/-- Whether a number is that of a class constant with a text. -/
def ClassText (pool : DraftPool) (index : Nat) (text : String) : Prop :=
  ∃ number, pool.At index (.class number) ∧ pool.At number (.utf8 text)

/-- Whether a number is that of a class. -/
def ClassAt (pool : DraftPool) (index : Nat) (className : String) : Prop :=
  pool.ClassText index (internalName className)

def TypeAt (pool : DraftPool) (index : Nat) (name descriptor : String) : Prop :=
  ∃ first second, pool.At index (.nameAndType first second) ∧ pool.At first (.utf8 name) ∧
    pool.At second (.utf8 descriptor)

/-- Whether a constant refers to a member. -/
def Refers (pool : DraftPool) (constant : Constant) (reference : MemberReference) : Prop :=
  ∃ owner type, constant = reference.constant owner type ∧ pool.ClassAt owner reference.owner ∧
    pool.TypeAt type reference.name reference.descriptor

def Extends (pool later : DraftPool) : Prop := pool.added <+: later.added

theorem Extends.refl (pool : DraftPool) : pool.Extends pool := List.prefix_rfl

theorem Extends.trans {last : DraftPool} (first : pool.Extends later)
    (second : later.Extends last) : pool.Extends last :=
  List.IsPrefix.trans first second

theorem Extends.length_le (continued : pool.Extends later) :
    pool.constants.length ≤ later.constants.length := by
  simpa [added] using List.IsPrefix.length_le continued

theorem At.mono {constant : Constant} (at_ : pool.At index constant)
    (continued : pool.Extends later) : later.At index constant := by
  obtain ⟨position, same, there⟩ := at_
  obtain ⟨bound, found⟩ := List.getElem?_eq_some_iff.1 there
  refine ⟨position, same, ?_⟩
  rw [← found]
  exact List.prefix_iff_getElem?.1 continued position bound

theorem At.pos {constant : Constant} (at_ : pool.At index constant) : index ≠ 0 := by
  obtain ⟨position, rfl, _⟩ := at_
  exact Nat.succ_ne_zero position

theorem At.le_length {constant : Constant} (at_ : pool.At index constant) :
    index ≤ pool.constants.length := by
  obtain ⟨position, rfl, there⟩ := at_
  obtain ⟨bound, _⟩ := List.getElem?_eq_some_iff.1 there
  exact Nat.succ_le_of_lt (by simpa [added] using bound)

theorem At.unique {first second : Constant} (at_ : pool.At index first)
    (at' : pool.At index second) : first = second := by
  obtain ⟨position, rfl, there⟩ := at_
  obtain ⟨position', same, there'⟩ := at'
  cases same
  exact Option.some.inj (there.symm.trans there')

private theorem at_of_mem {constant : Constant} (member : constant ∈ pool.added) :
    ∃ index, pool.At index constant := by
  obtain ⟨position, there⟩ := List.mem_iff_getElem?.1 member
  exact ⟨position + 1, position, rfl, there⟩

theorem At.mem {constant : Constant} (at_ : pool.At index constant) : constant ∈ pool.added := by
  obtain ⟨position, _, there⟩ := at_
  exact List.mem_of_getElem? there

theorem At.index_unique {constant : Constant} (distinct : pool.added.Nodup)
    (at_ : pool.At index constant) (at' : pool.At number constant) : index = number := by
  obtain ⟨position, rfl, there⟩ := at_
  obtain ⟨position', rfl, there'⟩ := at'
  obtain ⟨bound, _⟩ := List.getElem?_eq_some_iff.1 there
  rw [(List.getElem?_inj bound distinct).1 (there.trans there'.symm)]

theorem ClassText.mono {text : String} (at_ : pool.ClassText index text)
    (continued : pool.Extends later) : later.ClassText index text := by
  obtain ⟨number, isClass, isText⟩ := at_
  exact ⟨number, isClass.mono continued, isText.mono continued⟩

theorem ClassAt.mono {className : String} (at_ : pool.ClassAt index className)
    (continued : pool.Extends later) : later.ClassAt index className :=
  ClassText.mono at_ continued

theorem ClassText.index_unique {text : String} (distinct : pool.added.Nodup)
    (at_ : pool.ClassText index text) (at' : pool.ClassText number text) : index = number := by
  obtain ⟨_, isClass, isText⟩ := at_
  obtain ⟨_, isClass', isText'⟩ := at'
  cases At.index_unique distinct isText isText'
  exact At.index_unique distinct isClass isClass'

theorem ClassText.unique {text other : String} (at_ : pool.ClassText index text)
    (at' : pool.ClassText index other) : text = other := by
  obtain ⟨_, isClass, isText⟩ := at_
  obtain ⟨_, isClass', isText'⟩ := at'
  cases At.unique isClass isClass'
  cases At.unique isText isText'
  rfl

theorem TypeAt.mono {name descriptor : String} (at_ : pool.TypeAt index name descriptor)
    (continued : pool.Extends later) : later.TypeAt index name descriptor := by
  obtain ⟨first, second, isType, isName, isDescriptor⟩ := at_
  exact ⟨first, second, isType.mono continued, isName.mono continued, isDescriptor.mono continued⟩

theorem TypeAt.index_unique {name descriptor : String} (distinct : pool.added.Nodup)
    (at_ : pool.TypeAt index name descriptor) (at' : pool.TypeAt number name descriptor) :
    index = number := by
  obtain ⟨_, _, isType, isName, isDescriptor⟩ := at_
  obtain ⟨_, _, isType', isName', isDescriptor'⟩ := at'
  cases At.index_unique distinct isName isName'
  cases At.index_unique distinct isDescriptor isDescriptor'
  exact At.index_unique distinct isType isType'

theorem TypeAt.unique {name descriptor name' descriptor' : String}
    (at_ : pool.TypeAt index name descriptor) (at' : pool.TypeAt index name' descriptor') :
    name = name' ∧ descriptor = descriptor' := by
  obtain ⟨_, _, isType, isName, isDescriptor⟩ := at_
  obtain ⟨_, _, isType', isName', isDescriptor'⟩ := at'
  cases At.unique isType isType'
  cases At.unique isName isName'
  cases At.unique isDescriptor isDescriptor'
  exact ⟨rfl, rfl⟩

theorem Refers.mono {constant : Constant} {reference : MemberReference}
    (refers : pool.Refers constant reference) (continued : pool.Extends later) :
    later.Refers constant reference := by
  obtain ⟨owner, type, same, isOwner, isType⟩ := refers
  exact ⟨owner, type, same, isOwner.mono continued, isType.mono continued⟩

end Contents

section Read

theorem At.slot {constant : Constant} (at_ : pool.At index constant) :
    pool.table.slot index = .ok (.constant constant) := by
  obtain ⟨position, rfl, there⟩ := at_
  simp [ConstantPool.slot, table, there]

theorem At.utf8 {text : String} (at_ : pool.At index (.utf8 text)) :
    pool.table.utf8 index = .ok text := by
  rw [ConstantPool.utf8, at_.slot]
  rfl

theorem ClassText.className {text : String} (at_ : pool.ClassText index text) :
    pool.table.className index = .ok text := by
  obtain ⟨number, isClass, isText⟩ := at_
  rw [ConstantPool.className, isClass.slot]
  exact isText.utf8

theorem TypeAt.nameAndType {name descriptor : String} (at_ : pool.TypeAt index name descriptor) :
    pool.table.nameAndType index = .ok (name, descriptor) := by
  obtain ⟨first, second, isType, isName, isDescriptor⟩ := at_
  rw [ConstantPool.nameAndType, isType.slot]
  simp only [bind, Except.bind, isName.utf8, isDescriptor.utf8]
  rfl

end Read

section Add

variable {constant : Constant} {mentions : List MemberReference}

/-- Whether what a constant refers to stands in the pool. Members are left to `Mentions`. -/
def Supports (pool : DraftPool) : Constant → Prop
  | .utf8 text => text.utf8ByteSize ≤ 65535
  | .class name => ∃ text, pool.At name (.utf8 text)
  | .nameAndType name descriptor =>
    (∃ text, pool.At name (.utf8 text)) ∧ ∃ text, pool.At descriptor (.utf8 text)
  | constant => constant.isMember = true

/-- Whether the members of a pool are those that were mentioned, in the order in which they were
first mentioned. -/
structure Mentions (pool : DraftPool) (mentions : List MemberReference) : Prop where
  owners : ∀ reference ∈ mentions, IsClassName reference.owner
  members : List.Forall₂ pool.Refers (pool.added.filter (·.isMember)) mentions.eraseDups

/-- What holds of a pool all the time while members are mentioned. -/
structure Holds (pool : DraftPool) (mentions : List MemberReference) : Prop where
  plain : ∀ constant ∈ pool.constants, constant.written = constant.added
  distinct : pool.added.Nodup
  supported : ∀ constant ∈ pool.added, pool.Supports constant
  mentioned : pool.Mentions mentions

theorem Supports.mono (supports : pool.Supports constant) (continued : pool.Extends later) :
    later.Supports constant := by
  cases constant with
  | «class» name =>
    obtain ⟨text, at_⟩ := supports
    exact ⟨text, at_.mono continued⟩
  | nameAndType name descriptor =>
    obtain ⟨⟨text, at_⟩, text', at'⟩ := supports
    exact ⟨⟨text, at_.mono continued⟩, text', at'.mono continued⟩
  | _ => exact supports

theorem holds_empty : empty.Holds [] := by
  refine ⟨nofun, List.nodup_nil, nofun, nofun, ?_⟩
  exact List.Forall₂.nil

private theorem constants_add (pool : DraftPool) (constant : Constant) :
    (pool.add constant).1.constants =
      if constant ∈ pool.added then pool.constants
      else pool.constants ++ [⟨constant, constant⟩] := by
  unfold add
  split
  · next position found =>
    obtain ⟨bound, same, _⟩ := List.findIdx?_eq_some_iff_getElem.1 found
    have known : constant ∈ pool.added :=
      List.mem_map.2 ⟨_, List.getElem_mem bound, beq_iff_eq.1 same⟩
    rw [if_pos known]
  · next absent =>
    rw [if_neg]
    intro known
    obtain ⟨row, member, same⟩ := List.mem_map.1 known
    have differs := List.findIdx?_eq_none_iff.1 absent row member
    rw [same, beq_self_eq_true] at differs
    cases differs

theorem added_add (pool : DraftPool) (constant : Constant) :
    (pool.add constant).1.added =
      if constant ∈ pool.added then pool.added else pool.added ++ [constant] := by
  rw [added, constants_add]
  split
  · rfl
  · rw [List.map_append]
    rfl

theorem extends_add (pool : DraftPool) (constant : Constant) :
    pool.Extends (pool.add constant).1 := by
  rw [Extends, added_add]
  split
  · exact List.prefix_rfl
  · exact List.prefix_append _ _

theorem at_add (small : (pool.add constant).1.constants.length ≤ 65534) :
    (pool.add constant).1.At (pool.add constant).2 constant := by
  unfold add at small ⊢
  split
  · next position found =>
    obtain ⟨bound, same, _⟩ := List.findIdx?_eq_some_iff_getElem.1 found
    simp only [found] at small
    refine ⟨position, Nat.mod_eq_of_lt (by omega), ?_⟩
    rw [added, List.getElem?_map, List.getElem?_eq_getElem bound, Option.map_some,
      beq_iff_eq.1 same]
  · next absent =>
    simp only [absent, List.length_append, List.length_singleton] at small
    refine ⟨pool.constants.length, Nat.mod_eq_of_lt (by omega), ?_⟩
    simp [added]

/-- A constant whose parts are there can be added, if the pool mentions what it should then. -/
theorem Holds.add (holds : pool.Holds mentions) (supports : pool.Supports constant)
    {mentions' : List MemberReference} (mentioned : (pool.add constant).1.Mentions mentions') :
    (pool.add constant).1.Holds mentions' := by
  refine ⟨?_, ?_, ?_, mentioned⟩
  · rw [constants_add]
    split
    · exact holds.plain
    · intro row member
      rcases List.mem_append.1 member with old | new
      · exact holds.plain row old
      · rw [List.mem_singleton.1 new]
  · rw [added_add]
    split
    · exact holds.distinct
    · next unknown =>
      refine List.nodup_append.2 ⟨holds.distinct, by simp, ?_⟩
      rintro row old _ new rfl
      exact unknown (List.mem_singleton.1 new ▸ old)
  · intro row member
    have stays := pool.extends_add constant
    rw [added_add] at member
    split at member
    · exact (holds.supported row member).mono stays
    · rcases List.mem_append.1 member with old | new
      · exact (holds.supported row old).mono stays
      · rw [List.mem_singleton.1 new]
        exact supports.mono stays

/-- A constant that is no member adds nothing to what is mentioned. -/
theorem Mentions.add (mentioned : pool.Mentions mentions) (notMember : constant.isMember = false) :
    (pool.add constant).1.Mentions mentions := by
  refine ⟨mentioned.owners, ?_⟩
  have members : (pool.add constant).1.added.filter (·.isMember) =
      pool.added.filter (·.isMember) := by
    rw [added_add]
    split
    · rfl
    · simp [notMember]
  rw [members]
  exact mentioned.members.imp fun row reference refers => refers.mono (pool.extends_add constant)

theorem Refers.isMember {reference : MemberReference} (refers : pool.Refers constant reference) :
    constant.isMember = true := by
  obtain ⟨owner, type, rfl, _⟩ := refers
  cases reference with
  | field => rfl
  | method _ _ _ ofInterface => cases ofInterface <;> rfl

theorem Refers.unique {first second : MemberReference} (valid : IsClassName first.owner)
    (valid' : IsClassName second.owner) (refers : pool.Refers constant first)
    (refers' : pool.Refers constant second) : first = second := by
  obtain ⟨owner, type, rfl, isOwner, isType⟩ := refers
  obtain ⟨owner', type', same, isOwner', isType'⟩ := refers'
  rcases first with ⟨_, _, _⟩ | ⟨_, _, _, _ | _⟩ <;>
    rcases second with ⟨_, _, _⟩ | ⟨_, _, _, _ | _⟩ <;> cases same <;>
    · obtain ⟨rfl, rfl⟩ := isType.unique isType'
      cases internalName_inj valid valid' (isOwner.unique isOwner')
      rfl

private theorem Refers.constant_unique {reference : MemberReference} {constant' : Constant}
    (distinct : pool.added.Nodup) (refers : pool.Refers constant reference)
    (refers' : pool.Refers constant' reference) : constant = constant' := by
  obtain ⟨owner, type, rfl, isOwner, isType⟩ := refers
  obtain ⟨owner', type', rfl, isOwner', isType'⟩ := refers'
  rw [ClassText.index_unique distinct isOwner isOwner', isType.index_unique distinct isType']

theorem Mentions.member_of_mention {reference : MemberReference}
    (mentioned : pool.Mentions mentions) (member : reference ∈ mentions) :
    ∃ constant ∈ pool.added, pool.Refers constant reference := by
  obtain ⟨constant, listed, refers⟩ :=
    exists_left_of_mem mentioned.members (List.mem_eraseDups.2 member)
  exact ⟨constant, (List.mem_filter.1 listed).1, refers⟩

theorem Mentions.mention_of_member (mentioned : pool.Mentions mentions)
    (member : constant ∈ pool.added) (isMember : constant.isMember = true) :
    ∃ reference ∈ mentions, pool.Refers constant reference := by
  obtain ⟨reference, listed, refers⟩ :=
    exists_right_of_mem mentioned.members (List.mem_filter.2 ⟨member, isMember⟩)
  exact ⟨reference, List.mem_eraseDups.1 listed, refers⟩

/-- A member that is mentioned is listed, unless it was before. -/
theorem Mentions.mention {reference : MemberReference} (mentioned : pool.Mentions mentions)
    (distinct : pool.added.Nodup) (valid : IsClassName reference.owner)
    (refers : pool.Refers constant reference) :
    (pool.add constant).1.Mentions (mentions ++ [reference]) := by
  have stays := pool.extends_add constant
  refine ⟨?_, ?_⟩
  · intro other member
    rcases List.mem_append.1 member with old | new
    · exact mentioned.owners other old
    · rw [List.mem_singleton.1 new]
      exact valid
  · -- A member has one constant, which is there exactly if the member was mentioned before.
    have known : constant ∈ pool.added ↔ reference ∈ mentions := by
      constructor
      · intro member
        obtain ⟨other, isMention, refers'⟩ := mentioned.mention_of_member member refers.isMember
        rwa [refers.unique valid (mentioned.owners other isMention) refers']
      · intro member
        obtain ⟨constant', isConstant, refers'⟩ := mentioned.member_of_mention member
        rwa [refers.constant_unique distinct refers']
    have members := mentioned.members.imp fun row reference refers => refers.mono stays
    rw [added_add, List.eraseDups_append]
    by_cases old : reference ∈ mentions
    · simpa [known.2 old, List.removeAll, old] using members
    · rw [if_neg fun member => old (known.1 member), List.filter_append]
      have new : [constant].filter (·.isMember) = [constant] := by simp [refers.isMember]
      have fresh : ([reference].removeAll mentions).eraseDups = [reference] := by
        simp [List.removeAll, old, List.eraseDups_cons]
      rw [new, fresh]
      exact List.rel_append members (.cons (refers.mono stays) .nil)

end Add

section Steps

variable {mentions : List MemberReference}

theorem Holds.addUtf8 {text : String} (holds : pool.Holds mentions)
    (short : text.utf8ByteSize ≤ 65535)
    (small : (pool.addUtf8 text).1.constants.length ≤ 65534) :
    (pool.addUtf8 text).1.Holds mentions ∧
      (pool.addUtf8 text).1.At (pool.addUtf8 text).2 (.utf8 text) := by
  have supports : pool.Supports (.utf8 text) := short
  exact ⟨holds.add supports (holds.mentioned.add rfl), at_add small⟩

theorem extends_addUtf8 (pool : DraftPool) (text : String) :
    pool.Extends (pool.addUtf8 text).1 :=
  pool.extends_add _

theorem extends_addClass (pool : DraftPool) (className : String) :
    pool.Extends (pool.addClass className).1 :=
  (pool.extends_addUtf8 _).trans (extends_add _ _)

theorem Holds.addClass {className : String} (holds : pool.Holds mentions)
    (short : className.utf8ByteSize ≤ 65535)
    (small : (pool.addClass className).1.constants.length ≤ 65534) :
    (pool.addClass className).1.Holds mentions ∧
      (pool.addClass className).1.ClassAt (pool.addClass className).2 className := by
  let named := pool.addUtf8 (internalName className)
  have stays : named.1.Extends (pool.addClass className).1 := extends_add _ _
  have short' : (internalName className).utf8ByteSize ≤ 65535 := by
    rwa [utf8ByteSize_internalName]
  obtain ⟨holds, isText⟩ := holds.addUtf8 short' (Nat.le_trans stays.length_le small)
  have supports : named.1.Supports (.class named.2) := ⟨_, isText⟩
  refine ⟨holds.add supports (holds.mentioned.add rfl), named.2, at_add small, ?_⟩
  exact isText.mono stays

private theorem extends_addNameAndType (pool : DraftPool) (name descriptor : String) :
    pool.Extends (pool.addNameAndType name descriptor).1 :=
  (pool.extends_addUtf8 _).trans ((extends_addUtf8 _ _).trans (extends_add _ _))

theorem Holds.addNameAndType {name descriptor : String} (holds : pool.Holds mentions)
    (short : name.utf8ByteSize ≤ 65535) (short' : descriptor.utf8ByteSize ≤ 65535)
    (small : (pool.addNameAndType name descriptor).1.constants.length ≤ 65534) :
    (pool.addNameAndType name descriptor).1.Holds mentions ∧
      (pool.addNameAndType name descriptor).1.TypeAt (pool.addNameAndType name descriptor).2
        name descriptor := by
  let named := pool.addUtf8 name
  let typed := named.1.addUtf8 descriptor
  have stays : typed.1.Extends (pool.addNameAndType name descriptor).1 := extends_add _ _
  have stays' : named.1.Extends typed.1 := extends_addUtf8 _ _
  have small' := Nat.le_trans stays.length_le small
  obtain ⟨holds, isName⟩ := holds.addUtf8 short (Nat.le_trans stays'.length_le small')
  obtain ⟨holds, isDescriptor⟩ := holds.addUtf8 short' small'
  have supports : typed.1.Supports (.nameAndType named.2 typed.2) :=
    ⟨⟨_, isName.mono stays'⟩, _, isDescriptor⟩
  refine ⟨holds.add supports (holds.mentioned.add rfl), named.2, typed.2, at_add small, ?_, ?_⟩
  · exact isName.mono (stays'.trans stays)
  · exact isDescriptor.mono stays

theorem extends_addMember (pool : DraftPool) (make : Nat → Nat → Constant)
    (owner name descriptor : String) :
    pool.Extends (pool.addMember make owner name descriptor).1 :=
  (pool.extends_addClass _).trans ((extends_addNameAndType _ _ _).trans (extends_add _ _))

private theorem supports_of_isMember {constant : Constant} (isMember : constant.isMember = true) :
    pool.Supports constant := by
  cases constant with
  | utf8 => cases isMember
  | «class» => cases isMember
  | nameAndType => cases isMember
  | _ => exact isMember

theorem Holds.addMember {reference : MemberReference} (holds : pool.Holds mentions)
    (valid : IsClassName reference.owner) (short : reference.owner.utf8ByteSize ≤ 65535)
    (short' : reference.name.utf8ByteSize ≤ 65535)
    (short'' : reference.descriptor.utf8ByteSize ≤ 65535)
    (small : (pool.addMember reference.constant reference.owner reference.name
      reference.descriptor).1.constants.length ≤ 65534) :
    (pool.addMember reference.constant reference.owner reference.name
      reference.descriptor).1.Holds (mentions ++ [reference]) := by
  let owned := pool.addClass reference.owner
  let typed := owned.1.addNameAndType reference.name reference.descriptor
  have stays : typed.1.Extends (pool.addMember reference.constant reference.owner reference.name
    reference.descriptor).1 := extends_add _ _
  have stays' : owned.1.Extends typed.1 := extends_addNameAndType _ _ _
  have small' := Nat.le_trans stays.length_le small
  obtain ⟨holds, isOwner⟩ := holds.addClass short (Nat.le_trans stays'.length_le small')
  obtain ⟨holds, isType⟩ := holds.addNameAndType short' short'' small'
  have refers : typed.1.Refers (reference.constant owned.2 typed.2) reference :=
    ⟨owned.2, typed.2, rfl, isOwner.mono stays', isType⟩
  exact holds.add (supports_of_isMember refers.isMember)
    (holds.mentioned.mention holds.distinct valid refers)

end Steps

section Uses

variable {mentions : List MemberReference} {constant : Constant}

theorem Holds.fits (holds : pool.Holds mentions) (small : pool.constants.length ≤ 65534)
    (member : constant ∈ pool.added) : constant.Fits := by
  have bound : ∀ {index : Nat} {constant : Constant}, pool.At index constant → index < 65536 := by
    intro index constant at_
    have := at_.le_length
    omega
  have supports := holds.supported constant member
  cases constant with
  | utf8 text => exact supports
  | «class» name =>
    obtain ⟨_, at_⟩ := supports
    exact bound at_
  | nameAndType name descriptor =>
    obtain ⟨⟨_, at_⟩, _, at'⟩ := supports
    exact ⟨bound at_, bound at'⟩
  | other => cases supports
  | wide => cases supports
  | field | method | interfaceMethod =>
    obtain ⟨reference, _, owner, type, same, ⟨_, at_, _⟩, _, _, at', _⟩ :=
      holds.mentioned.mention_of_member member rfl
    obtain ⟨_, _, _⟩ | ⟨_, _, _, _ | _⟩ := reference <;> cases same
    exact ⟨bound at_, bound at'⟩

theorem Holds.reads_write (holds : pool.Holds mentions) (small : pool.constants.length ≤ 65534) :
    ConstantPool.read.Reads pool.write pool.table := by
  have written : pool.constants.flatMap (·.written.write) = pool.added.flatMap (·.write) := by
    rw [added, List.flatMap_map]
    exact List.flatMap_congr fun row member => by rw [holds.plain row member]
  have count : pool.constants.length = pool.added.length := by simp [added]
  rw [write, written, count]
  refine (Decoder.reads_u2 (by omega)).bind ?_
  rw [Nat.add_sub_cancel]
  exact (ConstantPool.reads_slots (fun _ => holds.fits small) 1).bind_pure (Decoder.reads_pure _)

private theorem at_of_numbered {constant : Constant}
    (member : (index, Slot.constant constant) ∈ pool.table.numbered) : pool.At index constant := by
  obtain ⟨⟨slot, position⟩, listed, same⟩ := List.mem_map.1 member
  cases same
  have found := List.mk_mem_zipIdx_iff_getElem?.1 listed
  cases index with
  | zero => cases found
  | succ position =>
    refine ⟨position, rfl, ?_⟩
    simpa [table] using found

/-- What the constant at a number refers to. -/
inductive SlotUses (pool : DraftPool) (mentions : List MemberReference) (index : Nat) :
    ConstantUses → Prop
  | nothing : SlotUses pool mentions index ⟨[], [], []⟩
  | ofClass {text : String} (isClass : pool.ClassText index text) :
      SlotUses pool mentions index
        ⟨((Descriptor.constantClass? text).map (ClassConstant.mk index)).toList, [], []⟩
  | ofMember {reference : MemberReference} {owner : Nat} (mentioned : reference ∈ mentions)
      (isOwner : pool.ClassAt owner reference.owner) :
      SlotUses pool mentions index ⟨[], [reference], [owner]⟩

theorem ClassAt.binaryName {className : String} (valid : IsClassName className)
    (at_ : pool.ClassAt index className) : pool.table.binaryName index = .ok className := by
  rw [ConstantPool.binaryName, ClassText.className at_]
  exact congrArg _ (Descriptor.binaryName_internalName valid)

theorem ofSlot_member {reference : MemberReference} {owner type : Nat}
    (valid : IsClassName reference.owner) (isOwner : pool.ClassAt owner reference.owner)
    (isType : pool.TypeAt type reference.name reference.descriptor) (index : Nat) :
    ConstantUses.ofSlot pool.table index (.constant (reference.constant owner type)) =
      .ok ⟨[], [reference], [owner]⟩ := by
  have member : ConstantUses.member pool.table owner type =
      .ok (reference.owner, reference.name, reference.descriptor) := by
    rw [ConstantUses.member, isType.nameAndType]
    simp only [bind, Except.bind, isOwner.binaryName valid]
    rfl
  obtain ⟨_, _, _⟩ | ⟨_, _, _, _ | _⟩ := reference <;>
    simp only [MemberReference.constant, ConstantUses.ofSlot, member] <;> rfl

private theorem ofSlot_class {number : Nat} {text : String} (isText : pool.At number (.utf8 text))
    (index : Nat) :
    ConstantUses.ofSlot pool.table index (.constant (.class number)) =
      .ok ⟨((Descriptor.constantClass? text).map (ClassConstant.mk index)).toList, [], []⟩ := by
  simp only [ConstantUses.ofSlot, isText.utf8, bind, Except.bind]
  cases Descriptor.constantClass? text <;> rfl

private theorem ofSlot_ok (holds : pool.Holds mentions) {slot : Slot}
    (member : (index, slot) ∈ pool.table.numbered) :
    ∃ uses, ConstantUses.ofSlot pool.table index slot = .ok uses ∧
      pool.SlotUses mentions index uses := by
  cases slot with
  | unusable => exact ⟨_, rfl, .nothing⟩
  | constant value =>
    have at_ := at_of_numbered member
    have supports := holds.supported value at_.mem
    cases value with
    | utf8 | nameAndType => exact ⟨_, rfl, .nothing⟩
    | other | wide => cases supports
    | «class» number =>
      obtain ⟨text, isText⟩ := supports
      exact ⟨_, ofSlot_class isText index, .ofClass ⟨number, at_, isText⟩⟩
    | field | method | interfaceMethod =>
      obtain ⟨reference, isMention, owner, type, same, isOwner, isType⟩ :=
        holds.mentioned.mention_of_member at_.mem rfl
      have valid := holds.mentioned.owners reference isMention
      exact ⟨_, same ▸ ofSlot_member valid isOwner isType index, .ofMember isMention isOwner⟩

private theorem references_of_not_member {uses : ConstantUses} (notMember : constant.isMember = false)
    (given : ConstantUses.ofSlot pool.table index (.constant constant) = .ok uses) :
    uses.memberReferences = [] := by
  cases constant with
  | «class» number =>
    obtain ⟨text, _, given⟩ := bind_ok given
    split at given <;> cases given <;> rfl
  | field | method | interfaceMethod => cases notMember
  | _ =>
    cases given
    rfl

private theorem references_of_mapM {constants : List Constant} {references : List MemberReference}
    {rows : List (Nat × Slot)} {uses : List ConstantUses}
    (contents : rows.map (·.2) = constants.map .constant)
    (owners : ∀ reference ∈ references, IsClassName reference.owner)
    (members : List.Forall₂ pool.Refers (constants.filter (·.isMember)) references)
    (given : rows.mapM (fun row => ConstantUses.ofSlot pool.table row.1 row.2) = .ok uses) :
    uses.flatMap (·.memberReferences) = references := by
  induction constants generalizing rows references uses with
  | nil =>
    cases List.map_eq_nil_iff.1 contents
    cases given
    cases members
    rfl
  | cons constant rest ih =>
    cases rows with
    | nil => cases contents
    | cons row rows =>
      obtain ⟨index, slot⟩ := row
      obtain ⟨rfl, others⟩ := List.cons.inj contents
      rw [List.mapM_cons] at given
      obtain ⟨first, atFirst, given⟩ := bind_ok given
      obtain ⟨remaining, atOthers, same⟩ := bind_ok given
      cases same
      rw [List.filter_cons] at members
      cases isMember : constant.isMember with
      | false =>
        rw [isMember, if_neg Bool.false_ne_true] at members
        rw [List.flatMap_cons, references_of_not_member isMember atFirst]
        exact ih others owners members atOthers
      | true =>
        rw [isMember, if_pos rfl] at members
        cases members with
        | cons refers members =>
          obtain ⟨owner, type, rfl, isOwner, isType⟩ := refers
          have valid := owners _ List.mem_cons_self
          cases atFirst.symm.trans (ofSlot_member valid isOwner isType index)
          rw [List.flatMap_cons, ih others (fun reference member =>
            owners reference (List.mem_cons_of_mem _ member)) members atOthers]
          rfl

private theorem numbered_eq (pool : DraftPool) : ∃ rows : List (Nat × Slot),
    pool.table.numbered = (0, .unusable) :: rows ∧ rows.map (·.2) = pool.added.map .constant := by
  refine ⟨((pool.added.map Slot.constant).zipIdx 1).map fun row => (row.2, row.1), rfl, ?_⟩
  rw [List.map_map]
  exact List.zipIdx_map_fst 1 _

section Collected

variable {uses : List ConstantUses}
  (collected : pool.table.numbered.mapM
    (fun row => ConstantUses.ofSlot pool.table row.1 row.2) = .ok uses)

include collected

private theorem mem_collected {row : Nat × Slot} {own : ConstantUses} (member : row ∈ pool.table.numbered)
    (atRow : ConstantUses.ofSlot pool.table row.1 row.2 = .ok own) : own ∈ uses := by
  obtain ⟨other, included, atRow'⟩ := (mapM_ok collected).1 row member
  cases atRow.symm.trans atRow'
  exact included

variable (holds : pool.Holds mentions)

include holds

private theorem memberReferences_collected :
    uses.flatMap (·.memberReferences) = mentions.eraseDups := by
  obtain ⟨rows, listed, contents⟩ := pool.numbered_eq
  rw [listed, List.mapM_cons] at collected
  obtain ⟨first, atFirst, collected⟩ := bind_ok collected
  obtain ⟨others, atOthers, same⟩ := bind_ok collected
  cases same
  cases atFirst
  have owners : ∀ reference ∈ mentions.eraseDups, IsClassName reference.owner :=
    fun reference member => holds.mentioned.owners reference (List.mem_eraseDups.1 member)
  rw [List.flatMap_cons]
  exact references_of_mapM contents owners holds.mentioned.members atOthers

private theorem slotUses_of_collected {own : ConstantUses} (included : own ∈ uses) :
    ∃ index, pool.SlotUses mentions index own := by
  obtain ⟨row, member, atRow⟩ := (mapM_ok collected).2 own included
  obtain ⟨other, atRow', facts⟩ := ofSlot_ok holds member
  cases atRow.symm.trans atRow'
  exact ⟨row.1, facts⟩

private theorem mem_classConstants_collected (index : Nat) (className : String) :
    ⟨index, className⟩ ∈ uses.flatMap (·.classConstants) ↔
      ∃ text, pool.ClassText index text ∧ Descriptor.constantClass? text = some className := by
  rw [List.mem_flatMap]
  constructor
  · intro found
    obtain ⟨own, included, member⟩ := found
    obtain ⟨number, facts⟩ := slotUses_of_collected collected holds included
    cases facts with
    | nothing => cases member
    | ofMember => cases member
    | ofClass isClass =>
      obtain ⟨_, names, same⟩ := Option.map_eq_some_iff.1 (Option.mem_toList.1 member)
      cases same
      exact ⟨_, isClass, names⟩
  · intro found
    obtain ⟨text, ⟨number, isClass, isText⟩, names⟩ := found
    have row := ConstantPool.mem_numbered_of_slot isClass.slot
    refine ⟨_, mem_collected collected row (ofSlot_class isText index), ?_⟩
    rw [names]
    exact List.mem_singleton.2 rfl

private theorem mem_usedConstants_collected (index : Nat) :
    index ∈ uses.flatMap (·.usedConstants) ↔
      ∃ reference ∈ mentions, pool.ClassAt index reference.owner := by
  rw [List.mem_flatMap]
  constructor
  · intro found
    obtain ⟨own, included, member⟩ := found
    obtain ⟨number, facts⟩ := slotUses_of_collected collected holds included
    cases facts with
    | nothing => cases member
    | ofClass => cases member
    | ofMember mentioned isOwner =>
      cases List.mem_singleton.1 member
      exact ⟨_, mentioned, isOwner⟩
  · intro found
    obtain ⟨reference, mentioned, isOwner⟩ := found
    obtain ⟨constant, added, owner, type, rfl, isOwner', isType⟩ :=
      holds.mentioned.member_of_mention mentioned
    obtain ⟨number, at_⟩ := at_of_mem added
    have row := ConstantPool.mem_numbered_of_slot at_.slot
    have valid := holds.mentioned.owners reference mentioned
    refine ⟨_, mem_collected collected row (ofSlot_member valid isOwner' isType number), ?_⟩
    exact List.mem_singleton.2 (ClassText.index_unique holds.distinct isOwner isOwner')

end Collected

/-- What a written pool is found to refer to. -/
theorem Holds.ofPool (holds : pool.Holds mentions) :
    ∃ uses, ConstantUses.ofPool pool.table = .ok uses ∧
      uses.memberReferences = mentions.eraseDups ∧
      (∀ index className, ⟨index, className⟩ ∈ uses.classConstants ↔
        ∃ text, pool.ClassText index text ∧ Descriptor.constantClass? text = some className) ∧
      ∀ index, index ∈ uses.usedConstants ↔
        ∃ reference ∈ mentions, pool.ClassAt index reference.owner := by
  have succeeds : ∀ row ∈ pool.table.numbered, ∃ own,
      ConstantUses.ofSlot pool.table row.1 row.2 = .ok own := by
    intro row member
    obtain ⟨own, given, _⟩ := ofSlot_ok holds member
    exact ⟨own, given⟩
  obtain ⟨uses, collected⟩ := mapM_of_ok succeeds
  refine ⟨⟨uses.flatMap (·.classConstants), uses.flatMap (·.memberReferences),
    uses.flatMap (·.usedConstants)⟩, ?_, memberReferences_collected collected holds,
    mem_classConstants_collected collected holds, mem_usedConstants_collected collected holds⟩
  change (pool.table.numbered.mapM (fun row => ConstantUses.ofSlot pool.table row.1 row.2) >>=
    _) = _
  rw [collected]
  rfl

end Uses

end DraftPool

end Linkage
