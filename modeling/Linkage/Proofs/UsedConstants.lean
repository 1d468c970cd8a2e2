import Linkage.ClassFile.Reader
import Linkage.Proofs.Inquiry
import Linkage.References

/-!
The class constants that a class file uses.

A reference to a member names its owner by a class constant, which counts as used, and so do the
constants that name the superclass and the interfaces. So a class that refers to a member or has a
supertype also uses the class that it names in this way, unless that is an array.
-/

set_option autoImplicit false

namespace Linkage

theorem Decoder.bind_ok {α β : Type} {decoder : Decoder α} {next : α → Decoder β}
    {bytes rest : Bytes} {result : β}
    (decoded : (decoder >>= next) bytes = .ok (result, rest)) :
    ∃ value middle, decoder bytes = .ok (value, middle) ∧
      next value middle = .ok (result, rest) := by
  obtain ⟨⟨value, middle⟩, first, decoded⟩ := Linkage.bind_ok decoded
  exact ⟨value, middle, first, decoded⟩

theorem Decoder.bind_error {α β : Type} {decoder : Decoder α} {next : α → Decoder β}
    {bytes : Bytes} {error : FormatError} (failed : (decoder >>= next) bytes = .error error) :
    decoder bytes = .error error ∨
      ∃ value rest, decoder bytes = .ok (value, rest) ∧ next value rest = .error error := by
  rcases Linkage.bind_error failed with failed | ⟨⟨value, rest⟩, read, failed⟩
  · exact .inl failed
  · exact .inr ⟨value, rest, read, failed⟩

theorem Decoder.lift_ok {α : Type} {result : Except FormatError α} {value : α} {bytes rest : Bytes}
    (decoded : Decoder.lift result bytes = .ok (value, rest)) : result = .ok value := by
  obtain ⟨_, given, same⟩ := map_ok decoded
  cases same
  exact given

private theorem Decoder.mem_replicate {α : Type} {decoder : Decoder α} {count : Nat} {values : List α}
    {bytes rest : Bytes} (decoded : decoder.replicate count bytes = .ok (values, rest)) {value : α}
    (member : value ∈ values) : ∃ before after, decoder before = .ok (value, after) := by
  induction count generalizing bytes values with
  | zero =>
    cases decoded
    cases member
  | succ count ih =>
    obtain ⟨first, middle, read, decoded⟩ := Decoder.bind_ok decoded
    obtain ⟨others, _, remaining, decoded⟩ := Decoder.bind_ok decoded
    cases decoded
    rcases List.mem_cons.1 member with same | later
    · exact ⟨bytes, middle, same ▸ read⟩
    · exact ih remaining later

private theorem Decoder.mem_counted {α : Type} {decoder : Decoder α} {values : List α} {bytes rest : Bytes}
    (decoded : decoder.counted bytes = .ok (values, rest)) {value : α} (member : value ∈ values) :
    ∃ before after, decoder before = .ok (value, after) := by
  obtain ⟨_, _, _, decoded⟩ := Decoder.bind_ok decoded
  exact mem_replicate decoded member

namespace ClassInfo

variable {pool : ConstantPool} {bytes rest : Bytes} {index : Nat} {name : String}

private theorem readClassName_ok (read : readClassName pool bytes = .ok ((index, name), rest)) :
    pool.binaryName index = .ok name := by
  obtain ⟨_, _, _, read⟩ := Decoder.bind_ok read
  obtain ⟨_, _, named, read⟩ := Decoder.bind_ok read
  cases read
  exact Decoder.lift_ok named

private theorem readSuper_ok (read : readSuper pool bytes = .ok (some (index, name), rest)) :
    pool.binaryName index = .ok name := by
  obtain ⟨_, _, _, read⟩ := Decoder.bind_ok read
  split at read
  · cases read
  · obtain ⟨_, _, named, read⟩ := Decoder.bind_ok read
    cases read
    exact Decoder.lift_ok named

/-- What a class file says of its constants comes from its constant pool. The constants of its
supertypes are used. -/
theorem decode_constants {info : ClassInfo} (decoded : ClassInfo.decode bytes = .ok info) :
    ∃ pool uses, ConstantUses.ofPool pool = .ok uses ∧
      info.classConstants = uses.classConstants ∧ info.memberReferences = uses.memberReferences ∧
      uses.usedConstants ⊆ info.usedConstants ∧
      ∀ name, info.superName = some name ∨ name ∈ info.interfaces →
        ∃ index ∈ info.usedConstants, pool.binaryName index = .ok name := by
  obtain ⟨⟨_, rest⟩, read, same⟩ := map_ok decoded
  cases same
  obtain ⟨_, _, _, decoded⟩ := Decoder.bind_ok read
  obtain ⟨pool, _, _, decoded⟩ := Decoder.bind_ok decoded
  obtain ⟨_, _, _, decoded⟩ := Decoder.bind_ok decoded
  obtain ⟨_, _, _, decoded⟩ := Decoder.bind_ok decoded
  obtain ⟨super, _, readsSuper, decoded⟩ := Decoder.bind_ok decoded
  obtain ⟨interfaces, _, readsInterfaces, decoded⟩ := Decoder.bind_ok decoded
  obtain ⟨_, _, _, decoded⟩ := Decoder.bind_ok decoded
  obtain ⟨_, _, _, decoded⟩ := Decoder.bind_ok decoded
  obtain ⟨_, _, _, decoded⟩ := Decoder.bind_ok decoded
  obtain ⟨uses, _, given, decoded⟩ := Decoder.bind_ok decoded
  cases decoded
  refine ⟨pool, uses, Decoder.lift_ok given, rfl, rfl, List.subset_append_right _ _, ?_⟩
  intro name supertype
  rcases supertype with isSuper | isInterface
  · obtain ⟨numbered, isSome, rfl⟩ := Option.map_eq_some_iff.1 isSuper
    subst isSome
    exact ⟨numbered.1, by simp, readSuper_ok readsSuper⟩
  · obtain ⟨numbered, member, rfl⟩ := List.mem_map.1 isInterface
    obtain ⟨_, _, read⟩ := Decoder.mem_counted readsInterfaces member
    refine ⟨numbered.1, ?_, readClassName_ok read⟩
    simp only [List.mem_append, List.mem_map]
    exact .inl (.inl (.inl (.inr ⟨numbered, member, rfl⟩)))

end ClassInfo

namespace ConstantPool

variable {pool : ConstantPool}

theorem mem_numbered_of_slot {index : Nat} {slot : Slot} (at_ : pool.slot index = .ok slot) :
    (index, slot) ∈ pool.numbered := by
  unfold ConstantPool.slot at at_
  split at at_
  · next value stands =>
    cases at_
    refine List.mem_map.2 ⟨(slot, index), List.mk_mem_zipIdx_iff_getElem?.2 ?_, rfl⟩
    rw [Array.getElem?_toList]
    exact stands
  · cases at_

private theorem binaryName_ok {index : Nat} {name : String} (named : pool.binaryName index = .ok name) :
    ∃ number internal, (index, .constant (.class number)) ∈ pool.numbered ∧
      pool.utf8 number = .ok internal ∧ name = Descriptor.binaryName internal := by
  obtain ⟨internal, named, same⟩ := map_ok named
  obtain ⟨slot, at_, named⟩ := bind_ok named
  split at named
  · exact ⟨_, internal, mem_numbered_of_slot at_, named, same.symm⟩
  · cases named

end ConstantPool

/-- A name that does not begin like an array was not written as one. -/
theorem Descriptor.constantClass?_of_binaryName {internal : String}
    (notArray : Text.startsWith (binaryName internal) "[" = false) :
    constantClass? internal = some (binaryName internal) := by
  have written : Text.startsWith internal "[" = false := by
    unfold Text.startsWith binaryName Text.replaceChar at *
    cases text : internal.toList with
    | nil => rfl
    | cons first rest =>
      simp [text, List.isPrefixOf] at notArray ⊢
      split at notArray
      · next slash => simp [slash]
      · exact notArray
  simp [constantClass?, written]

namespace ConstantUses

variable {pool : ConstantPool} {uses : ConstantUses} {owner : Nat} {ownerName : String}

private theorem member_ok {nameAndType : Nat} {name descriptor : String}
    (given : member pool owner nameAndType = .ok (ownerName, name, descriptor)) :
    pool.binaryName owner = .ok ownerName := by
  obtain ⟨_, _, given⟩ := bind_ok given
  obtain ⟨_, named, same⟩ := bind_ok given
  cases same
  exact named

/-- The constant of a reference names the owner by a class constant, which it uses. -/
theorem ofSlot_reference {index : Nat} {slot : Slot} {reference : MemberReference}
    (given : ofSlot pool index slot = .ok uses) (refers : reference ∈ uses.memberReferences) :
    ∃ owner ∈ uses.usedConstants, pool.binaryName owner = .ok reference.symbol.className := by
  unfold ofSlot at given
  split at given
  · obtain ⟨internal, _, given⟩ := bind_ok given
    split at given <;> cases given <;> cases refers
  rotate_right
  · cases given
    cases refers
  -- The three kinds of members differ only in the reference that they become.
  all_goals
    obtain ⟨⟨ownerName, name, descriptor⟩, found, same⟩ := bind_ok given
    cases same
    cases List.mem_singleton.1 refers
    exact ⟨_, List.mem_singleton_self _, member_ok found⟩

/-- The class constant of the owner is among those that are listed. -/
theorem ofPool_class (given : ofPool pool = .ok uses)
    (named : pool.binaryName owner = .ok ownerName)
    (notArray : Text.startsWith ownerName "[" = false) :
    ⟨owner, ownerName⟩ ∈ uses.classConstants := by
  obtain ⟨parts, collected, same⟩ := bind_ok given
  cases same
  obtain ⟨number, internal, member, text, rfl⟩ := ConstantPool.binaryName_ok named
  obtain ⟨part, included, ofSlot⟩ := (mapM_ok collected).1 _ member
  refine List.mem_flatMap.2 ⟨part, included, ?_⟩
  simp only [ConstantUses.ofSlot, text, bind, Except.bind,
    Descriptor.constantClass?_of_binaryName notArray] at ofSlot
  cases ofSlot
  exact List.mem_singleton_self _

end ConstantUses

namespace ClassInfo

variable {bytes : Bytes} {info : ClassInfo} {name : String}

private theorem usesClass_of_constant {pool : ConstantPool} {uses : ConstantUses} {index : Nat}
    (given : ConstantUses.ofPool pool = .ok uses)
    (constants : info.classConstants = uses.classConstants)
    (used : index ∈ info.usedConstants) (named : pool.binaryName index = .ok name)
    (notArray : Text.startsWith name "[" = false) : info.usesClass name = true := by
  refine List.any_eq_true.2 ⟨⟨index, name⟩, ?_, by simp [used]⟩
  rw [constants]
  exact ConstantUses.ofPool_class given named notArray

/-- A class uses the owners of the members that it refers to. -/
theorem usesClass_of_memberReference {reference : MemberReference}
    (decoded : ClassInfo.decode bytes = .ok info) (refers : reference ∈ info.memberReferences)
    (notArray : Text.startsWith reference.symbol.className "[" = false) :
    info.usesClass reference.symbol.className = true := by
  obtain ⟨pool, uses, given, constants, references, used, _⟩ := decode_constants decoded
  have ofParts := given
  obtain ⟨parts, collected, same⟩ := bind_ok given
  cases same
  rw [references] at refers
  obtain ⟨part, included, refers⟩ := List.mem_flatMap.1 refers
  obtain ⟨⟨index, slot⟩, _, ofSlot⟩ := (mapM_ok collected).2 part included
  obtain ⟨owner, uses, named⟩ := ConstantUses.ofSlot_reference ofSlot refers
  apply usesClass_of_constant ofParts constants ?_ named notArray
  exact used (List.mem_flatMap.2 ⟨part, included, uses⟩)

theorem usesClass_of_supertype (decoded : ClassInfo.decode bytes = .ok info)
    (supertype : info.superName = some name ∨ name ∈ info.interfaces)
    (notArray : Text.startsWith name "[" = false) : info.usesClass name = true := by
  obtain ⟨pool, uses, given, constants, _, _, supertypes⟩ := decode_constants decoded
  obtain ⟨index, used, named⟩ := supertypes name supertype
  exact usesClass_of_constant given constants used named notArray

end ClassInfo

end Linkage
