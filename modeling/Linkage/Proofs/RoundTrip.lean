import Linkage.Proofs.Declarations

/-!
A class file says what its declarations said.

Each part of a class file is read from the bytes that a draft writes for it, with the names that the
draft has numbers for. What remains is which classes are used: those whose numbers stand in the
class itself, in its instructions and handlers, or in the constants of its members.
-/

set_option autoImplicit false

namespace Linkage

open Decoder

theorem reads_access (access : Access) : u2.Reads (bytes2 access.bits.toNat) access.bits.toNat :=
  reads_u2 access.bits.toNat_lt

theorem access_toNat (access : Access) : (⟨access.bits.toNat.toUInt16⟩ : Access) = access := by
  simp

theorem reads_counted_nil {α : Type} (decoder : Decoder α) :
    (counted decoder).Reads (bytes2 0) [] :=
  @reads_counted α decoder Unit (fun _ => []) [] [] (by decide) .nil

theorem reads_counted_one {α : Type} {decoder : Decoder α} {bytes : Bytes} {value : α}
    (reads : decoder.Reads bytes value) : (counted decoder).Reads (bytes2 1 ++ bytes) [value] := by
  have each : List.Forall₂ (fun bytes value => decoder.Reads (id bytes) value) [bytes] [value] :=
    .cons reads .nil
  simpa using reads_counted (by simp) each

private theorem reads_header :
    ClassInfo.readHeader.Reads (bytes4 0xCAFEBABE ++ (bytes2 0 ++ bytes2 52)) () :=
  (reads_u4 (by decide)).bind (reads_skip rfl)

private theorem forall₂_zip {α β : Type} {related : α → β → Prop} {left : List α} {right : List β}
    (all : List.Forall₂ related left right) :
    List.Forall₂ (fun a pair => a = pair.1 ∧ related a pair.2) left (left.zip right) := by
  induction all with
  | nil => exact .nil
  | cons first _ ih => exact .cons ⟨rfl, first⟩ ih

namespace DraftPool

variable {pool : DraftPool} {index : Nat}

theorem NamedAt.ne_zero {className : String} (at_ : pool.NamedAt index className) :
    index ≠ 0 := by
  obtain ⟨⟨number, isClass, _⟩, _⟩ := at_
  exact isClass.pos

section Read

variable (small : pool.constants.length ≤ 65534)

include small

theorem At.reads_number {constant : Constant} (at_ : pool.At index constant) :
    u2.Reads (bytes2 index) index :=
  reads_u2 (Nat.lt_of_le_of_lt (Nat.le_trans at_.le_length small) (by decide))

theorem NamedAt.reads_number {className : String} (at_ : pool.NamedAt index className) :
    u2.Reads (bytes2 index) index := by
  obtain ⟨⟨number, isClass, _⟩, _⟩ := at_
  exact isClass.reads_number small

private theorem reads_className {className : String} (at_ : pool.NamedAt index className) :
    (ClassInfo.readClassName pool.table).Reads (bytes2 index) (index, className) := by
  refine (at_.reads_number small).bind_pure ?_
  exact reads_lift_bind (at_.1.binaryName at_.2) (reads_pure _)

private theorem reads_super {className : String} (at_ : pool.NamedAt index className) :
    (ClassInfo.readSuper pool.table).Reads (bytes2 index) (some (index, className)) := by
  refine (at_.reads_number small).bind_pure ?_
  rw [if_neg at_.ne_zero]
  exact reads_lift_bind (at_.1.binaryName at_.2) (reads_pure _)

private theorem reads_classNames {numbers : List Nat} {names : List String}
    (all : List.Forall₂ pool.NamedAt numbers names) (few : numbers.length < 65536) :
    (counted (ClassInfo.readClassName pool.table)).Reads (ClassDraft.writeNumbers numbers)
      (numbers.zip names) := by
  apply reads_counted few
  refine (forall₂_zip all).imp ?_
  rintro _ ⟨index, className⟩ ⟨rfl, at_⟩
  exact reads_className small at_

private theorem reads_attribute {name : String} {body : Bytes} (isName : pool.At index (.utf8 name))
    (short : body.length < 4294967296) :
    (readAttribute pool.table).Reads (bytes2 index ++ (bytes4 body.length ++ body))
      (name, body) := by
  refine (isName.reads_number small).bind (reads_lift_bind isName.utf8 ?_)
  exact (reads_u4 short).bind ((reads_take body).bind_pure (reads_pure _))

theorem reads_field {member : DraftMember} {field : FieldInfo} (at_ : pool.FieldAt member field) :
    (FieldInfo.read pool.table).Reads (ClassDraft.writeMember member ++ bytes2 0) field := by
  obtain ⟨access, isName, isDescriptor⟩ := at_
  simp only [ClassDraft.writeMember, List.append_assoc]
  refine (reads_access member.access).bind ?_
  refine (isName.reads_number small).bind (reads_lift_bind isName.utf8 ?_)
  refine (isDescriptor.reads_number small).bind (reads_lift_bind isDescriptor.utf8 ?_)
  refine (reads_counted_nil skipAttribute).bind_pure ?_
  rw [access_toNat, access]
  exact reads_pure _

private theorem reads_handler {className : String} (at_ : pool.NamedAt index className)
    (codeLength : Nat) :
    (MethodAttribute.readHandler pool.table).Reads
      (bytes2 0 ++ bytes2 codeLength ++ bytes2 0 ++ bytes2 index) (some (index, className)) := by
  have range : (skip 6).Reads (bytes2 0 ++ bytes2 codeLength ++ bytes2 0) () := reads_skip rfl
  refine range.bind ((at_.reads_number small).bind_pure ?_)
  rw [if_neg at_.ne_zero]
  exact reads_lift_bind (at_.1.binaryName at_.2) (reads_pure _)

theorem OuterAt.reads_number {outer : Option String} (at_ : pool.OuterAt index outer) :
    u2.Reads (bytes2 index) index := by
  cases outer with
  | none =>
    cases at_
    exact reads_u2 (by decide)
  | some outer => exact NamedAt.reads_number small at_

omit small in
private theorem OuterAt.reads_name {outer : Option String} (at_ : pool.OuterAt index outer) {α : Type}
    {next : Option String → Decoder α} {bytes : Bytes} {value : α}
    (reads : (next outer).Reads bytes value) :
    (if index = 0 then pure none >>= next
      else some <$> lift (pool.table.binaryName index) >>= next).Reads bytes value := by
  cases outer with
  | none =>
    cases at_
    exact (reads_pure none).bind reads
  | some outer =>
    rw [if_neg (NamedAt.ne_zero at_)]
    exact ((reads_lift (at_.1.binaryName at_.2)).map some).bind reads

private theorem reads_innerClass {record : DraftInnerClass} {inner : InnerClass}
    (at_ : pool.InnerClassAt record inner) :
    (InnerClass.read pool.table).Reads (ClassDraft.writeInnerClass record) inner := by
  obtain ⟨access, isInner, isOuter, simpleName, same, isName⟩ := at_
  simp only [ClassDraft.writeInnerClass, List.append_assoc]
  refine (isInner.reads_number small).bind ((isOuter.reads_number small).bind ?_)
  refine (isName.reads_number small).bind ((reads_access record.access).bind_pure ?_)
  refine reads_lift_bind (isInner.1.binaryName isInner.2) (isOuter.reads_name ?_)
  dsimp only
  rw [if_neg isName.pos]
  refine ((reads_lift isName.utf8).map some).bind ?_
  rw [access_toNat, access, ← same]
  exact reads_pure _

private theorem reads_handlers {catchTypes : List Nat} {names : List String}
    (caught : List.Forall₂ pool.NamedAt catchTypes names) (few : catchTypes.length < 65536)
    (codeLength : Nat) :
    (counted (MethodAttribute.readHandler pool.table)).Reads
      (bytes2 catchTypes.length ++ catchTypes.flatMap fun catchType =>
        bytes2 0 ++ bytes2 codeLength ++ bytes2 0 ++ bytes2 catchType)
      ((catchTypes.zip names).map some) := by
  apply reads_counted few
  refine List.forall₂_map_right_iff.2 ((forall₂_zip caught).imp ?_)
  rintro _ ⟨index, className⟩ ⟨rfl, at_⟩
  exact reads_handler small at_ codeLength

private theorem reads_code {codeName : Nat} {instructions : Bytes} {operands catchTypes : List Nat}
    {names : List String} (isCode : pool.At codeName (.utf8 "Code"))
    (runs : Bytecode.Runs instructions operands)
    (caught : List.Forall₂ pool.NamedAt catchTypes names) (few : catchTypes.length < 65536)
    (short : instructions.length ≤ 400000) :
    (MethodAttribute.read pool.table).Reads
      (ClassDraft.writeCode codeName instructions catchTypes)
      ⟨true, names, operands ++ catchTypes⟩ := by
  let code := instructions ++ [0xb1]
  let handlers := bytes2 catchTypes.length ++ catchTypes.flatMap fun catchType =>
    bytes2 0 ++ bytes2 code.length ++ bytes2 0 ++ bytes2 catchType
  have length : code.length = instructions.length + 1 := by simp [code]
  have inside : (MethodAttribute.readCode pool.table).Reads
      (bytes2 8 ++ (bytes2 8 ++ (bytes4 code.length ++ (code ++ handlers))))
      ⟨true, names, operands ++ catchTypes⟩ := by
    have limits : (skip 2).Reads (bytes2 8) () := reads_skip rfl
    refine limits.bind (limits.bind ?_)
    refine (reads_u4 (by omega)).bind ((reads_take code).bind ?_)
    refine reads_lift_bind runs.classOperands ?_
    refine (reads_handlers small caught few code.length).bind_pure ?_
    have counts := caught.length_eq
    simp only [List.filterMap_map, Function.comp_def, id, List.filterMap_some,
      List.map_fst_zip (Nat.le_of_eq counts), List.map_snd_zip (Nat.le_of_eq counts.symm)]
    exact reads_pure _
  let body := bytes2 8 ++ (bytes2 8 ++ (bytes4 code.length ++ (code ++ handlers))) ++ bytes2 0
  have size : body.length = 12 + (instructions.length + 1) + 8 * catchTypes.length := by
    simp [body, handlers, code, List.length_flatMap]
    omega
  have written : ClassDraft.writeCode codeName instructions catchTypes =
      bytes2 codeName ++ (bytes4 body.length ++ body) := by
    rw [ClassDraft.writeCode, size]
    simp [body, handlers, code]
  rw [written]
  refine (reads_attribute small isCode (by omega)).bind_pure (reads_lift ?_)
  rw [MethodAttribute.ofBody, if_pos rfl]
  -- The number of attributes of the body follows, which is not read.
  exact inside.within _

theorem reads_member {member : DraftMember} {field : FieldInfo} (at_ : pool.FieldAt member field)
    {bytes : Bytes} {attributes : List MethodAttribute}
    (reads : (counted (MethodAttribute.read pool.table)).Reads bytes attributes) :
    (MethodInfo.read pool.table).Reads (ClassDraft.writeMember member ++ bytes)
      (⟨field.name, field.descriptor, field.access, attributes.any (·.hasCode),
        attributes.flatMap (·.catchTypes)⟩, attributes.flatMap (·.usedConstants)) := by
  obtain ⟨access, isName, isDescriptor⟩ := at_
  simp only [ClassDraft.writeMember, List.append_assoc]
  refine (reads_access member.access).bind ?_
  refine (isName.reads_number small).bind (reads_lift_bind isName.utf8 ?_)
  refine (isDescriptor.reads_number small).bind (reads_lift_bind isDescriptor.utf8 ?_)
  refine reads.bind_pure ?_
  rw [access_toNat, access]
  exact reads_pure _

private theorem reads_method {codeName : Nat} (isCode : pool.At codeName (.utf8 "Code"))
    {member : DraftMember} {method : MethodInfo} (at_ : pool.MethodAt member method) :
    (MethodInfo.read pool.table).Reads (ClassDraft.writeMethod codeName member) (method, []) := by
  obtain ⟨name, descriptor, access, hasCode, catchTypes⟩ := method
  obtain ⟨isMember, given, noHandler⟩ := at_
  dsimp only at given noHandler
  subst given noHandler
  have same : member.access = access := isMember.1
  rw [ClassDraft.writeMethod, same]
  by_cases bodiless : (access.isAbstract || access.isNative) = true
  · rw [if_pos bodiless, bodiless]
    exact reads_member small isMember (reads_counted_nil _)
  · rw [if_neg bodiless, Bool.eq_false_iff.2 bodiless]
    have code := reads_code small isCode Bytecode.runs_nil .nil (by decide) (by decide)
    exact reads_member small isMember (reads_counted_one code)

theorem reads_initializer {codeName : Nat} {instructions : Bytes} {operands catchTypes : List Nat}
    {names : List String} {member : DraftMember} (isCode : pool.At codeName (.utf8 "Code"))
    (runs : Bytecode.Runs instructions operands)
    (caught : List.Forall₂ pool.NamedAt catchTypes names) (few : catchTypes.length < 65536)
    (short : instructions.length ≤ 400000)
    (at_ : pool.FieldAt member ⟨"<clinit>", "()V", .static⟩) :
    (MethodInfo.read pool.table).Reads
      (ClassDraft.writeMember member ++ bytes2 1 ++
        ClassDraft.writeCode codeName instructions catchTypes)
      (⟨"<clinit>", "()V", .static, true, names⟩, operands ++ catchTypes) := by
  have code := reads_counted_one (reads_code small isCode runs caught few short)
  simpa using reads_member small at_ code

private theorem reads_innerClasses {number : Nat} {records : List DraftInnerClass}
    {innerClasses : List InnerClass} (isName : pool.At number (.utf8 "InnerClasses"))
    (recorded : List.Forall₂ pool.InnerClassAt records innerClasses)
    (few : records.length < 65536) :
    (ClassAttribute.read pool.table).Reads
      (bytes2 number ++ (bytes4 (2 + 8 * records.length) ++
        (bytes2 records.length ++ records.flatMap ClassDraft.writeInnerClass)))
      ⟨innerClasses, []⟩ := by
  let body := bytes2 records.length ++ records.flatMap ClassDraft.writeInnerClass
  have size : body.length = 2 + 8 * records.length := by
    simp [body, List.length_flatMap, ClassDraft.writeInnerClass]
    omega
  have inside : (counted (InnerClass.read pool.table)).Reads body innerClasses :=
    reads_counted few (recorded.imp fun _ _ at_ => reads_innerClass small at_)
  rw [← size]
  refine (reads_attribute small isName (by omega)).bind_pure (reads_lift ?_)
  rw [ClassAttribute.ofBody, if_pos rfl]
  have whole := inside.within []
  rw [List.append_nil] at whole
  rw [whole]
  rfl

end Read

section Uses

variable {className : String}

/-- Whether a number is that of a class constant that names a class. -/
def Names (pool : DraftPool) (index : Nat) (className : String) : Prop :=
  ∃ text, pool.ClassText index text ∧ Descriptor.constantClass? text = some className

theorem ClassAt.names_iff {reference : String} (at_ : pool.ClassAt index reference)
    (allowed : IsClassName reference ∨ Text.startsWith reference "[" = true) :
    pool.Names index className ↔ Descriptor.NamesClass reference className := by
  rw [← Descriptor.constantClass?_iff allowed]
  constructor
  · rintro ⟨text, isText, named⟩
    rw [ClassText.unique at_ isText]
    exact named
  · exact fun named => ⟨_, at_, named⟩

theorem NamedAt.names_iff {own : String} (at_ : pool.NamedAt index own) :
    pool.Names index className ↔ className = own := by
  rw [at_.1.names_iff (.inl at_.2), Descriptor.NamesClass, at_.2.2, if_neg Bool.false_ne_true]

private theorem names_of_forall₂ {α : Type} {related : Nat → α → Prop} {numbers : List Nat}
    {values : List α} {named : α → Prop} (all : List.Forall₂ related numbers values)
    (same : ∀ index, ∀ value ∈ values, related index value →
      (pool.Names index className ↔ named value)) :
    (∃ index ∈ numbers, pool.Names index className) ↔ ∃ value ∈ values, named value := by
  constructor
  · rintro ⟨index, member, names⟩
    obtain ⟨value, listed, at_⟩ := exists_right_of_mem all member
    exact ⟨value, listed, (same index value listed at_).1 names⟩
  · rintro ⟨value, listed, isNamed⟩
    obtain ⟨index, member, at_⟩ := exists_left_of_mem all listed
    exact ⟨index, member, (same index value listed at_).2 isNamed⟩

private theorem names_of_named {numbers : List Nat} {names : List String}
    (all : List.Forall₂ pool.NamedAt numbers names) :
    (∃ index ∈ numbers, pool.Names index className) ↔ className ∈ names := by
  rw [names_of_forall₂ all fun _ _ _ at_ => at_.names_iff]
  simp

/-- The numbers of the owners of mentioned members name these owners. -/
theorem Holds.names_owner {mentions : List MemberReference} (holds : pool.Holds mentions) :
    (∃ index, (∃ reference ∈ mentions, pool.ClassAt index reference.owner) ∧
      pool.Names index className) ↔ ∃ reference ∈ mentions, className = reference.owner := by
  constructor
  · rintro ⟨index, ⟨reference, mentioned, at_⟩, names⟩
    have valid := holds.mentioned.owners reference mentioned
    exact ⟨reference, mentioned, (NamedAt.names_iff ⟨at_, valid⟩).1 names⟩
  · rintro ⟨reference, mentioned, same⟩
    have valid := holds.mentioned.owners reference mentioned
    obtain ⟨_, _, owner, _, _, at_, _⟩ := holds.mentioned.member_of_mention mentioned
    exact ⟨owner, ⟨reference, mentioned, at_⟩, (NamedAt.names_iff ⟨at_, valid⟩).2 same⟩

end Uses

end DraftPool

private theorem ClassInfo.usesClass_iff {info : ClassInfo} {pool : DraftPool}
    (named : ∀ index className, ⟨index, className⟩ ∈ info.classConstants ↔
      pool.Names index className) (className : String) :
    info.usesClass className = true ↔
      ∃ index ∈ info.usedConstants, pool.Names index className := by
  simp only [usesClass, List.any_eq_true, Bool.and_eq_true, beq_iff_eq, List.contains_iff_mem]
  constructor
  · rintro ⟨⟨index, _⟩, member, rfl, used⟩
    exact ⟨index, used, (named index _).1 member⟩
  · rintro ⟨index, used, names⟩
    exact ⟨⟨index, className⟩, (named index className).2 names, rfl, used⟩

/-- The static initializer that stands for what the class refers to and catches, if there is any of
that. -/
def Summary.initializer (summary : Summary) : List MethodInfo :=
  if summary.members = [] ∧ summary.references = [] ∧ summary.catchTypes = [] then []
  else [⟨"<clinit>", "()V", .static, true, summary.catchTypes⟩]

/-- Whether a class is as its declarations say. -/
structure ClassInfo.Describes (info : ClassInfo) (own : String) (summary : Summary) : Prop where
  name : info.name = own
  access : info.access = summary.access
  superName : info.superName = some summary.superClass
  interfaces : info.interfaces = summary.interfaces
  fields : info.fields = summary.fields
  methods : info.methods = summary.methods ++ summary.initializer
  innerClasses : info.innerClasses = summary.innerClasses
  memberReferences : info.memberReferences = summary.members.eraseDups
  usesClass (className : String) : info.usesClass className = true ↔
    className = own ∨ className = summary.superClass ∨ className ∈ summary.interfaces ∨
      (∃ member ∈ summary.members, className = member.owner) ∨ className ∈ summary.catchTypes ∨
      ∃ reference ∈ summary.references, Descriptor.NamesClass reference className

namespace ClassDraft

variable {draft : ClassDraft} {name : String} {summary : Summary} {pool : DraftPool}

attribute [local irreducible] DraftPool.add

private theorem Shows.hasInitializer_iff (shows : Shows pool draft name summary) :
    draft.hasInitializer = false ↔
      summary.members = [] ∧ summary.references = [] ∧ summary.catchTypes = [] := by
  have caught : draft.catchTypes = [] ↔ summary.catchTypes = [] := by
    rw [← List.length_eq_zero_iff, shows.catchTypes.length_eq, List.length_eq_zero_iff]
  rw [← and_assoc, ← shows.isEmpty, ← caught]
  simp [hasInitializer]

section Layout

theorem extends_withInitializer (draft : ClassDraft) :
    draft.withCode.1.Extends draft.withInitializer.1 := by
  unfold withInitializer
  split
  · exact (DraftPool.extends_addUtf8 _ _).trans (DraftPool.extends_addUtf8 _ _)
  · exact .refl _

theorem extends_withInnerClasses (draft : ClassDraft) :
    draft.withInitializer.1.Extends draft.writtenPool := by
  unfold writtenPool withInnerClasses
  split
  · exact .refl _
  · exact DraftPool.extends_addUtf8 _ _

private theorem extends_writtenPool (draft : ClassDraft) : draft.pool.Extends draft.writtenPool :=
  (DraftPool.extends_addUtf8 _ _).trans
    (draft.extends_withInitializer.trans draft.extends_withInnerClasses)

variable (follows : draft.Follows name summary)
  (small : draft.writtenPool.constants.length ≤ 65534)

include follows small

theorem Follows.withCode :
    draft.withCode.1.Holds summary.members ∧
      draft.withCode.1.At draft.withCode.2 (.utf8 "Code") := by
  refine follows.holds.addUtf8 (by decide) (Nat.le_trans ?_ small)
  exact (draft.extends_withInitializer.trans draft.extends_withInnerClasses).length_le

theorem Follows.withInitializer :
    draft.withInitializer.1.Holds summary.members ∧
      List.Forall₂ draft.withInitializer.1.FieldAt draft.withInitializer.2
        (if draft.hasInitializer then [⟨"<clinit>", "()V", .static⟩] else []) := by
  have small' := Nat.le_trans draft.extends_withInnerClasses.length_le small
  obtain ⟨holds, _⟩ := follows.withCode small
  unfold ClassDraft.withInitializer at small' ⊢
  split
  · next has =>
    rw [if_pos has] at small'
    have stays := DraftPool.extends_addUtf8 (draft.withCode.1.addUtf8 "<clinit>").1 "()V"
    obtain ⟨holds, isName⟩ := holds.addUtf8 (by decide) (Nat.le_trans stays.length_le small')
    obtain ⟨holds, isDescriptor⟩ := holds.addUtf8 (by decide) small'
    exact ⟨holds, .cons ⟨rfl, isName.mono stays, isDescriptor⟩ .nil⟩
  · exact ⟨holds, .nil⟩

theorem Follows.writtenPool :
    draft.writtenPool.Holds summary.members ∧ (draft.innerClasses.isEmpty = false →
      draft.writtenPool.At draft.withInnerClasses.2 (.utf8 "InnerClasses")) := by
  obtain ⟨holds, _⟩ := follows.withInitializer small
  unfold ClassDraft.writtenPool withInnerClasses at small ⊢
  split
  · next none => exact ⟨holds, fun some => absurd none (Bool.eq_false_iff.1 some)⟩
  · next some =>
    rw [if_neg some] at small
    obtain ⟨holds, isName⟩ := holds.addUtf8 (by decide) small
    exact ⟨holds, fun _ => isName⟩

omit small in
theorem Follows.shows_writtenPool : Shows draft.writtenPool draft name summary :=
  follows.shows.mono draft.extends_writtenPool

end Layout

/-- Whether the parts of a draft are few enough to be counted in a class file. -/
structure Limited (draft : ClassDraft) : Prop where
  interfaces : draft.interfaces.length < 65535
  fields : draft.fields.length < 65535
  methods : draft.methods.length < 65535
  innerClasses : draft.innerClasses.length < 65535
  catchTypes : draft.catchTypes.length < 65535
  initializer : draft.initializer.length ≤ 400000

section Parts

open Decoder

variable (follows : draft.Follows name summary)
  (small : draft.writtenPool.constants.length ≤ 65534) (limited : draft.Limited)

include follows small limited

theorem Follows.reads_initializer {operands : List Nat}
    (classes : List.Forall₂ draft.writtenPool.ClassAt operands summary.references)
    (runs : Bytecode.Runs draft.initializer operands) :
    ∃ last : List (MethodInfo × List Nat),
      List.Forall₂ (fun member method => (MethodInfo.read draft.writtenPool.table).Reads
        (writeMember member ++ bytes2 1 ++
          writeCode draft.withCode.2 draft.initializer draft.catchTypes) method)
        draft.withInitializer.2 last ∧
      last.map (·.1) = summary.initializer ∧
      last.flatMap (·.2) = operands ++ draft.catchTypes := by
  have shows := follows.shows_writtenPool
  have stays := draft.extends_withInitializer.trans draft.extends_withInnerClasses
  have isCode := (follows.withCode small).2.mono stays
  have declared := (follows.withInitializer small).2
  cases has : draft.hasInitializer with
  | false =>
    have nothing := shows.hasInitializer_iff.1 has
    have caught := shows.catchTypes
    rw [has, if_neg Bool.false_ne_true] at declared
    rw [nothing.2.1] at classes
    rw [nothing.2.2] at caught
    rw [List.forall₂_nil_right_iff.1 declared, List.forall₂_nil_right_iff.1 classes,
      List.forall₂_nil_right_iff.1 caught]
    exact ⟨[], .nil, (if_pos nothing).symm, rfl⟩
  | true =>
    have something : ¬ _ := fun nothing => by
      rw [shows.hasInitializer_iff.2 nothing] at has
      cases has
    rw [has, if_pos rfl] at declared
    obtain ⟨member, others, at_, none, same⟩ := List.forall₂_cons_right_iff.1 declared
    cases List.forall₂_nil_right_iff.1 none
    rw [same]
    refine ⟨[(⟨"<clinit>", "()V", .static, true, summary.catchTypes⟩,
      operands ++ draft.catchTypes)], .cons ?_ .nil, (if_neg something).symm, by simp⟩
    exact DraftPool.reads_initializer small isCode runs shows.catchTypes
      (Nat.lt_succ_of_lt limited.catchTypes) limited.initializer
      (at_.mono draft.extends_withInnerClasses)

/-- The methods with the numbers of the classes that they refer to. -/
theorem Follows.reads_methods : ∃ (operands : List Nat) (methods : List (MethodInfo × List Nat)),
    List.Forall₂ draft.writtenPool.ClassAt operands summary.references ∧
      (counted (MethodInfo.read draft.writtenPool.table)).Reads draft.writeMethods methods ∧
      methods.map (·.1) = summary.methods ++ summary.initializer ∧
      methods.flatMap (·.2) = operands ++ draft.catchTypes := by
  have shows := follows.shows_writtenPool
  have stays := draft.extends_withInitializer.trans draft.extends_withInnerClasses
  have isCode := (follows.withCode small).2.mono stays
  obtain ⟨operands, classes, runs⟩ := shows.operands
  obtain ⟨last, readsLast, isLast, uses⟩ := follows.reads_initializer small limited classes runs
  -- The initializer is not written like other methods, so the items of the list are written pieces.
  let write (member : DraftMember) := writeMember member ++ bytes2 1 ++
    writeCode draft.withCode.2 draft.initializer draft.catchTypes
  let pieces :=
    draft.methods.map (writeMethod draft.withCode.2) ++ draft.withInitializer.2.map write
  have each : List.Forall₂
      (fun piece method => (MethodInfo.read draft.writtenPool.table).Reads (id piece) method)
      pieces (summary.methods.map (fun method => (method, [])) ++ last) := by
    refine List.rel_append ?_ (List.forall₂_map_left_iff.2 readsLast)
    refine List.forall₂_map_left_iff.2 (List.forall₂_map_right_iff.2 ?_)
    exact shows.methods.imp fun _ _ at_ => DraftPool.reads_method small isCode at_
  have few : pieces.length < 65536 := by
    have single := readsLast.length_eq
    have bound : last.length ≤ 1 := by
      rw [← List.length_map (fun method : MethodInfo × List Nat => method.1), isLast,
        Summary.initializer]
      split <;> simp
    have := limited.methods
    simp only [pieces, List.length_append, List.length_map]
    omega
  have written : draft.writeMethods = bytes2 pieces.length ++ pieces.flatMap id := by
    simp [writeMethods, pieces, write, List.flatMap_map]
  have reads := reads_counted few each
  rw [← written] at reads
  refine ⟨operands, _, classes, reads, ?_, ?_⟩
  · simp [isLast, Function.comp_def]
  · simp [uses, List.flatMap_map]

private theorem Follows.reads_attributes : ∃ attributes : List ClassAttribute,
    (counted (ClassAttribute.read draft.writtenPool.table)).Reads draft.writeAttributes
        attributes ∧
      attributes.flatMap (·.innerClasses) = summary.innerClasses ∧
      attributes.flatMap (·.usedConstants) = [] := by
  have recorded := follows.shows_writtenPool.innerClasses
  cases none : draft.innerClasses.isEmpty with
  | true =>
    rw [List.isEmpty_iff.1 none] at recorded
    rw [writeAttributes, if_pos none, List.forall₂_nil_left_iff.1 recorded]
    exact ⟨[], reads_counted_nil _, rfl, rfl⟩
  | false =>
    have isName := (follows.writtenPool small).2 none
    rw [writeAttributes, none, if_neg Bool.false_ne_true]
    refine ⟨[⟨summary.innerClasses, []⟩], reads_counted_one ?_, by simp, rfl⟩
    exact DraftPool.reads_innerClasses small isName recorded
      (Nat.lt_succ_of_lt limited.innerClasses)

/-- What is written for a draft is read as a class that its declarations describe. -/
theorem Follows.reads_build (allowed : ∀ reference ∈ summary.references,
    IsClassName reference ∨ Text.startsWith reference "[" = true) :
    ∃ info, ClassInfo.read.Reads draft.build info ∧ info.Describes name summary := by
  have shows := follows.shows_writtenPool
  obtain ⟨holds, _⟩ := follows.writtenPool small
  obtain ⟨operands, methods, classes, readsMethods, isMethods, used⟩ :=
    follows.reads_methods small limited
  obtain ⟨attributes, readsAttributes, isInner, unused⟩ := follows.reads_attributes small limited
  obtain ⟨uses, given, isMembers, constants, owners⟩ := holds.ofPool
  have readsInterfaces := DraftPool.reads_classNames small shows.interfaces
    (Nat.lt_succ_of_lt limited.interfaces)
  have readsFields := reads_counted (Nat.lt_succ_of_lt limited.fields)
    (shows.fields.imp fun _ _ at_ => DraftPool.reads_field small at_)
  have counts := shows.interfaces.length_eq
  refine ⟨_, reads_header.bind ((holds.reads_write small).bind ((reads_access draft.access).bind
    ((DraftPool.reads_className small shows.thisClass).bind
      ((DraftPool.reads_super small shows.superClass).bind (readsInterfaces.bind
        (readsFields.bind (readsMethods.bind (readsAttributes.bind_pure
          (reads_lift_bind given (reads_pure _)))))))))), ?_⟩
  refine ⟨rfl, ?_, rfl, ?_, rfl, isMethods, isInner, isMembers, fun className => ?_⟩
  · exact (access_toNat draft.access).trans shows.access
  · exact List.map_snd_zip (Nat.le_of_eq counts.symm)
  have ofReferences : (∃ index ∈ operands, draft.writtenPool.Names index className) ↔
      ∃ reference ∈ summary.references, Descriptor.NamesClass reference className :=
    DraftPool.names_of_forall₂ classes fun _ reference member at_ =>
      at_.names_iff (allowed reference member)
  rw [ClassInfo.usesClass_iff constants, List.map_fst_zip (Nat.le_of_eq counts), used, unused]
  simp only [Option.map_some, Option.toList_some, List.cons_append, List.nil_append,
    List.append_nil, List.mem_cons, List.mem_append, or_and_right, exists_or, exists_eq_left,
    owners, shows.thisClass.names_iff, shows.superClass.names_iff,
    DraftPool.names_of_named shows.interfaces, DraftPool.names_of_named shows.catchTypes,
    holds.names_owner, ofReferences]
  -- Only the order of the alternatives differs now.
  grind

end Parts

section Whole

variable {access : Access} {declarations : List Declaration} {start : ClassDraft}

theorem Follows.limited
    (follows : (start.declareAll declarations).Follows name (.of access declarations))
    (empty : start.initializer = []) (few : declarations.length ≤ 65534) :
    (start.declareAll declarations).Limited := by
  have shows := follows.shows
  have bound {α : Type} (part : Declaration → Option α) :
      (declarations.filterMap part).length < 65535 :=
    Nat.lt_of_le_of_lt (List.length_filterMap_le _ _) (Nat.lt_succ_of_le few)
  refine ⟨?_, ?_, ?_, ?_, ?_, ?_⟩
  · exact shows.interfaces.length_eq ▸ bound _
  · exact shows.fields.length_eq ▸ bound _
  · exact shows.methods.length_eq ▸ bound _
  · exact shows.innerClasses.length_eq ▸ bound _
  · exact shows.catchTypes.length_eq ▸ bound _
  · have := length_initializer_declareAll empty declarations
    omega

private theorem allowed_references (allowed : ∀ declaration ∈ declarations, declaration.Allowed)
    {reference : String} (member : reference ∈ (Summary.of access declarations).references) :
    IsClassName reference ∨ Text.startsWith reference "[" = true := by
  obtain ⟨declaration, listed, refers⟩ := List.mem_filterMap.1 member
  cases declaration with
  | referencesClass own =>
    cases refers
    exact (allowed _ listed).1
  | _ => cases refers

/-- Reading the class file of some declarations gives the class that they describe. -/
theorem decode_build (valid : IsClassName name) (short : Declaration.Short name)
    (starts : start = ofClass name ∨ start = ofInterface name)
    (few : declarations.length ≤ 65534)
    (allowed : ∀ declaration ∈ declarations, declaration.Allowed)
    (small : (start.declareAll declarations).writtenPool.constants.length ≤ 65534) :
    ∃ info, ClassInfo.decode (start.declareAll declarations).build = .ok info ∧
      info.Describes name (.of start.access declarations) := by
  have fewer : (start.declareAll declarations).pool.constants.length ≤ 65534 :=
    Nat.le_trans (extends_writtenPool _).length_le small
  have atStart := Nat.le_trans (start.extends_declareAll allowed).length_le fewer
  have first : start.Follows name (.of start.access []) ∧ start.initializer = [] := by
    cases starts with
    | inl same =>
      subst same
      exact ⟨follows_ofClass valid short atStart, rfl⟩
    | inr same =>
      subst same
      exact ⟨follows_ofInterface valid short atStart, rfl⟩
  have follows := first.1.declareAll allowed fewer
  obtain ⟨info, reads, describes⟩ := follows.reads_build small (follows.limited first.2 few)
    fun _ => allowed_references allowed
  refine ⟨info, ?_, describes⟩
  have decoded := reads.within []
  rw [List.append_nil] at decoded
  exact decoded

end Whole

end ClassDraft

namespace RoundTripSample

/-- Declarations of every kind, some of them made twice. -/
def declarations : List Declaration := [
  .access (.public ||| .final),
  .superClass "q.Base",
  .interface "q.Shape",
  .field .private "size" "I",
  .method .public "run" "()V",
  .method (.public ||| .native) "poll" "()I",
  .abstractMethod "draw" "(Lq/Pen;)V",
  .invokes "q.Util" "help" "()V",
  .readsField "q.Util" "count" "I",
  .invokes "q.Util" "help" "()V",
  .invokesInterface "q.Shape" "area" "()D",
  .referencesClass "[[Lq/Pen;",
  .referencesClass "q.Base",
  .innerClass "p.Main$Part" (some "p.Main") .static,
  .innerClass "p.Main$1" none .none,
  .catches "q.Failure"]

def draft : ClassDraft := (ClassDraft.ofClass "p.Main").declareAll declarations

theorem decode_build_main :
    (∀ declaration ∈ declarations, declaration.Allowed) ∧
      draft.writtenPool.constants.length ≤ 65534 ∧
      ∃ info, ClassInfo.decode draft.build = .ok info ∧
        info.Describes "p.Main" (.of (.public ||| .super) declarations) := by
  have allowed : ∀ declaration ∈ declarations, declaration.Allowed := by decide
  have small : draft.writtenPool.constants.length ≤ 65534 := by decide +kernel
  exact ⟨allowed, small,
    ClassDraft.decode_build (by decide) (by decide) (.inl rfl) (by decide) allowed small⟩

end RoundTripSample

end Linkage
