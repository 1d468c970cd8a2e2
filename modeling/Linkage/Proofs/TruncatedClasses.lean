import Linkage.Proofs.Encoding

/-!
Class files that are cut short or followed by other bytes.

A decoder that gives a value has taken bytes from the front. It is frugal if these bytes alone
decide what it does: more bytes behind them change nothing, and if some of them are missing it
notices that before anything else. Decoders in sequence are frugal if each of them is, so the reader
of class files is frugal because its smallest parts are.
-/

set_option autoImplicit false

namespace Linkage

namespace Decoder

variable {α β : Type} {decoder : Decoder α} {next : α → Decoder β} {bytes more : Bytes} {value : α}
  {result : β}

/-- Whether a decoder takes just some bytes for a value, and misses those that are cut off. -/
structure Takes (decoder : Decoder α) (bytes : Bytes) (value : α) : Prop where
  reads : decoder.Reads bytes value
  misses : ∀ count < bytes.length, decoder (bytes.take count) = .error .unexpectedEnd

/-- Whether the bytes that a decoder takes alone decide what it does. -/
def Frugal (decoder : Decoder α) : Prop :=
  ∀ bytes value rest, decoder bytes = .ok (value, rest) →
    ∃ taken, bytes = taken ++ rest ∧ decoder.Takes taken value

private theorem Reads.takes_nothing (reads : decoder.Reads [] value) : decoder.Takes [] value :=
  ⟨reads, fun _ missing => absurd missing (Nat.not_lt_zero _)⟩

theorem Takes.bind (first : decoder.Takes bytes value) (second : (next value).Takes more result) :
    (decoder >>= next).Takes (bytes ++ more) result where
  reads := first.reads.bind second.reads
  misses count missing := by
    change (decoder ((bytes ++ more).take count) >>= fun read => next read.1 read.2) = _
    rcases Nat.lt_or_ge count bytes.length with inFirst | behind
    · rw [List.take_append_of_le_length (Nat.le_of_lt inFirst), first.misses count inFirst]
      rfl
    · have inSecond : count - bytes.length < more.length := by
        rw [List.length_append] at missing
        omega
      rw [List.take_append, List.take_of_length_le behind, first.reads]
      exact second.misses _ inSecond

theorem frugal_pure (value : α) : (pure value : Decoder α).Frugal := by
  intro bytes _ rest given
  cases given
  exact ⟨[], rfl, (reads_pure value).takes_nothing⟩

theorem frugal_fail (error : FormatError) : (fail error : Decoder α).Frugal := by
  intro _ _ _ given
  cases given

theorem frugal_lift (result : Except FormatError α) : (lift result).Frugal := by
  intro bytes value rest given
  cases result with
  | error error => cases given
  | ok value =>
    cases given
    exact ⟨[], rfl, (reads_lift rfl).takes_nothing⟩

theorem Frugal.bind (first : decoder.Frugal) (second : ∀ value, (next value).Frugal) :
    (decoder >>= next).Frugal := by
  intro bytes result rest given
  obtain ⟨value, middle, read, readNext⟩ := bind_ok given
  obtain ⟨taken, rfl, takes⟩ := first _ _ _ read
  obtain ⟨others, rfl, takesOthers⟩ := second value _ _ _ readNext
  exact ⟨taken ++ others, (List.append_assoc _ _ _).symm, takes.bind takesOthers⟩

private theorem Frugal.ite {condition : Prop} [Decidable condition] {other : Decoder α}
    (holds : decoder.Frugal) (fails : other.Frugal) :
    (if condition then decoder else other).Frugal := by
  split
  · exact holds
  · exact fails

private theorem frugal_u1 : u1.Frugal := by
  intro bytes value rest given
  rcases bytes with _ | ⟨a, bytes⟩
  · cases given
  · cases given
    refine ⟨[a], rfl, fun _ => rfl, fun count missing => ?_⟩
    cases Nat.lt_one_iff.1 missing
    rfl

theorem frugal_u2 : u2.Frugal := by
  intro bytes value rest given
  rcases bytes with _ | ⟨a, _ | ⟨b, bytes⟩⟩
  · cases given
  · cases given
  · cases given
    refine ⟨[a, b], rfl, fun _ => rfl, fun count missing => ?_⟩
    obtain rfl | rfl : count = 0 ∨ count = 1 := by
      change count < 2 at missing
      omega
    all_goals rfl

theorem frugal_u4 : u4.Frugal := by
  intro bytes value rest given
  rcases bytes with _ | ⟨a, _ | ⟨b, _ | ⟨c, _ | ⟨d, bytes⟩⟩⟩⟩
  iterate 4
    · cases given
  cases given
  refine ⟨[a, b, c, d], rfl, fun _ => rfl, fun count missing => ?_⟩
  obtain rfl | rfl | rfl | rfl : count = 0 ∨ count = 1 ∨ count = 2 ∨ count = 3 := by
    change count < 4 at missing
    omega
  all_goals rfl

private theorem takeBytes?_of_short {count : Nat} (short : bytes.length < count) :
    takeBytes? count bytes = none := by
  induction count generalizing bytes with
  | zero => cases short
  | succ count ih =>
    cases bytes with
    | nil => rfl
    | cons byte bytes =>
      rw [takeBytes?, ih (Nat.lt_of_succ_lt_succ short)]
      rfl

theorem takeBytes?_eq_some {count : Nat} {taken rest : Bytes}
    (found : takeBytes? count bytes = some (taken, rest)) :
    taken.length = count ∧ bytes = taken ++ rest := by
  induction count generalizing bytes taken with
  | zero =>
    cases found
    exact ⟨rfl, rfl⟩
  | succ count ih =>
    cases bytes with
    | nil => cases found
    | cons byte bytes =>
      obtain ⟨⟨others, _⟩, found, same⟩ := Option.map_eq_some_iff.1 found
      cases same
      obtain ⟨rfl, rfl⟩ := ih found
      exact ⟨rfl, rfl⟩

theorem frugal_take (count : Nat) : (take count).Frugal := by
  intro bytes value rest given
  rw [take] at given
  split at given
  · next found =>
    cases given
    obtain ⟨rfl, rfl⟩ := takeBytes?_eq_some found
    refine ⟨value, rfl, reads_take value, fun count missing => ?_⟩
    have short : (value.take count).length < value.length := by
      rw [List.length_take]
      omega
    rw [take, takeBytes?_of_short short]
  · cases given

theorem frugal_skip (count : Nat) : (skip count).Frugal :=
  (frugal_take count).bind fun _ => frugal_pure ()

theorem Frugal.replicate (frugal : decoder.Frugal) (count : Nat) :
    (decoder.replicate count).Frugal := by
  induction count with
  | zero => exact frugal_pure []
  | succ count ih => exact frugal.bind fun _ => ih.bind fun _ => frugal_pure _

theorem Frugal.counted (frugal : decoder.Frugal) : decoder.counted.Frugal :=
  frugal_u2.bind frugal.replicate

end Decoder

open Decoder

section Pool

variable (pool : ConstantPool)

theorem Constant.frugal_read (index : Nat) : (Constant.read index).Frugal := by
  refine frugal_u1.bind fun tag => ?_
  split
  case h_1 =>
    refine frugal_u2.bind fun length => ?_
    refine (frugal_take length).bind fun bytes => ?_
    split
    · exact frugal_pure _
    · exact frugal_fail _
  -- A class, and then what names two other constants.
  case h_6 => exact frugal_u2.bind fun _ => frugal_pure _
  case h_8 | h_9 | h_10 | h_11 =>
    exact frugal_u2.bind fun _ => frugal_u2.bind fun _ => frugal_pure _
  case h_18 => exact frugal_fail _
  -- All other constants are passed over.
  all_goals exact (frugal_skip _).bind fun _ => frugal_pure _

private theorem ConstantPool.frugal_readSlots (index missing : Nat) :
    (ConstantPool.readSlots index missing).Frugal := by
  fun_induction ConstantPool.readSlots index missing with
  | case1 => exact frugal_pure []
  | case2 index missing ih =>
    refine (Constant.frugal_read index).bind fun constant => ?_
    exact (ih constant).bind fun _ => frugal_pure _

theorem ConstantPool.frugal_read : ConstantPool.read.Frugal :=
  frugal_u2.bind fun _ => (frugal_readSlots _ _).bind fun _ => frugal_pure _

private theorem frugal_readAttribute : (readAttribute pool).Frugal := by
  refine frugal_u2.bind fun name => ?_
  refine (frugal_lift (pool.utf8 name)).bind fun _ => ?_
  exact frugal_u4.bind fun length => (frugal_take length).bind fun _ => frugal_pure _

private theorem frugal_skipAttribute : skipAttribute.Frugal :=
  (frugal_skip 2).bind fun _ => frugal_u4.bind frugal_skip

theorem FieldInfo.frugal_read : (FieldInfo.read pool).Frugal := by
  refine frugal_u2.bind fun access => ?_
  refine frugal_u2.bind fun name => (frugal_lift (pool.utf8 name)).bind fun _ => ?_
  refine frugal_u2.bind fun descriptor => (frugal_lift (pool.utf8 descriptor)).bind fun _ => ?_
  exact frugal_skipAttribute.counted.bind fun _ => frugal_pure _

theorem MethodAttribute.frugal_read : (MethodAttribute.read pool).Frugal :=
  (frugal_readAttribute pool).bind fun _ => frugal_lift _

theorem MethodInfo.frugal_read : (MethodInfo.read pool).Frugal := by
  refine frugal_u2.bind fun access => ?_
  refine frugal_u2.bind fun name => (frugal_lift (pool.utf8 name)).bind fun _ => ?_
  refine frugal_u2.bind fun descriptor => (frugal_lift (pool.utf8 descriptor)).bind fun _ => ?_
  exact (MethodAttribute.frugal_read pool).counted.bind fun _ => frugal_pure _

theorem ClassAttribute.frugal_read : (ClassAttribute.read pool).Frugal :=
  (frugal_readAttribute pool).bind fun _ => frugal_lift _

namespace ClassInfo

private theorem frugal_readHeader : readHeader.Frugal :=
  frugal_u4.bind fun _ => (frugal_skip 4).ite (frugal_fail _)

private theorem frugal_readClassName : (readClassName pool).Frugal :=
  frugal_u2.bind fun _ => (frugal_lift _).bind fun _ => frugal_pure _

private theorem frugal_readSuper : (readSuper pool).Frugal :=
  frugal_u2.bind fun _ => (frugal_pure none).ite ((frugal_lift _).bind fun _ => frugal_pure _)

end ClassInfo

end Pool

namespace ClassInfo

theorem frugal_read : ClassInfo.read.Frugal := by
  refine frugal_readHeader.bind fun _ => ?_
  refine ConstantPool.frugal_read.bind fun pool => ?_
  refine frugal_u2.bind fun access => ?_
  refine (frugal_readClassName pool).bind fun this => ?_
  refine (frugal_readSuper pool).bind fun super => ?_
  refine (frugal_readClassName pool).counted.bind fun interfaces => ?_
  refine (FieldInfo.frugal_read pool).counted.bind fun fields => ?_
  refine (MethodInfo.frugal_read pool).counted.bind fun methods => ?_
  refine (ClassAttribute.frugal_read pool).counted.bind fun attributes => ?_
  -- Only what is read of the pool is left, which takes no more bytes.
  exact (frugal_lift (ConstantUses.ofPool pool)).bind fun _ => frugal_pure _

/-- A class file that can be decoded has a length of its own. If it is cut off before that, bytes
are missing and nothing else is wrong; whatever follows, it is the same class. -/
theorem decode_up_to_length {bytes : Bytes} {info : ClassInfo} (decoded : decode bytes = .ok info) :
    ∃ length ≤ bytes.length, ClassInfo.read bytes = .ok (info, bytes.drop length) ∧
      (∀ count < length, decode (bytes.take count) = .error .unexpectedEnd) ∧
      ∀ more, decode (bytes.take length ++ more) = .ok info := by
  obtain ⟨⟨_, rest⟩, read, same⟩ := map_ok decoded
  cases same
  obtain ⟨taken, rfl, takes⟩ := frugal_read _ _ _ read
  refine ⟨taken.length, by simp, ?_, fun count missing => ?_, fun more => ?_⟩
  · rwa [List.drop_left]
  · rw [List.take_append_of_le_length (Nat.le_of_lt missing), decode, within,
      takes.misses count missing]
    rfl
  · rw [List.take_left]
    exact takes.reads.within more

end ClassInfo

namespace TruncationSample

/-- A class with a nested class and a static initializer that catches an exception. -/
def draft : ClassDraft := (ClassDraft.ofClass "p.Main").declareAll [
  .invokes "q.Util" "help" "()V", .catches "q.Failure", .innerClass "p.Main$1" none .none]

/-- The class file with two more bytes, which its length does not count. -/
theorem decode_up_to_length_of_followed :
    ∃ info, ClassInfo.decode (draft.build ++ [0xCA, 0xFE]) = .ok info ∧
      (∀ count < draft.build.length,
        ClassInfo.decode (draft.build.take count) = .error .unexpectedEnd) ∧
      ∀ more, ClassInfo.decode (draft.build ++ more) = .ok info := by
  have left : ((ClassInfo.read (draft.build ++ [0xCA, 0xFE])).map (·.2)).toOption =
      some [0xCA, 0xFE] := by decide +kernel
  generalize draft.build = file at left ⊢
  obtain ⟨⟨info, rest⟩, read, same⟩ := map_ok (toOption_eq_some_iff.1 left)
  cases same
  have decoded : ClassInfo.decode (file ++ [0xCA, 0xFE]) = .ok info := by
    rw [ClassInfo.decode, Decoder.within, read]
    rfl
  obtain ⟨length, most, readAgain, missing, followed⟩ := ClassInfo.decode_up_to_length decoded
  have behind : [0xCA, 0xFE] = (file ++ [0xCA, 0xFE]).drop length :=
    (Prod.mk.inj (Except.ok.inj (read.symm.trans readAgain))).2
  obtain rfl : length = file.length := by
    have lengths := congrArg List.length behind
    simp only [List.length_cons, List.length_nil, List.length_drop, List.length_append]
      at lengths most
    omega
  refine ⟨info, decoded, fun count short => ?_, fun more => ?_⟩
  · rw [← missing count short, List.take_append_of_le_length (Nat.le_of_lt short)]
  · rw [← followed more, List.take_left]

end TruncationSample

end Linkage
