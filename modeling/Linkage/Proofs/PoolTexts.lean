import Linkage.Proofs.CodeUnits

/-!
Texts in the constant pool.

A pool is refused for a text exactly if the constants before it can be read and its contents cannot
be decoded. So among the texts that are written as code units, a pool is refused for those with a
surrogate that has no partner, and for no others.
-/

set_option autoImplicit false

namespace Linkage

namespace Decoder

variable {α β : Type} {decoder : Decoder α} {next : α → Decoder β} {bytes : Bytes} {value : α}

theorem Reads.bind_eq (first : decoder.Reads bytes value) (rest : Bytes) :
    (decoder >>= next) (bytes ++ rest) = next value rest := by
  change (decoder (bytes ++ rest) >>= fun read => next read.1 read.2) = _
  rw [first]
  rfl

theorem bind_pure_error_iff {change : α → β} {error : FormatError} :
    (do let value ← decoder; pure (change value) : Decoder β) bytes = .error error ↔
      decoder bytes = .error error := by
  change (decoder bytes >>= fun read => pure (change read.1, read.2)) = _ ↔ _
  cases decoder bytes <;> simp [bind, Except.bind, pure, Except.pure]

section Numbers

variable {number : Nat} {rest : Bytes}

private theorem u1_ok (read : u1 bytes = .ok (number, rest)) :
    ∃ byte, bytes = byte :: rest ∧ byte.toNat = number := by
  rcases bytes with _ | ⟨byte, bytes⟩
  · cases read
  · cases read
    exact ⟨byte, rfl, rfl⟩

private theorem u2_ok (read : u2 bytes = .ok (number, rest)) :
    number < 65536 ∧ bytes = bytes2 number ++ rest := by
  rcases bytes with _ | ⟨a, _ | ⟨b, bytes⟩⟩
  · cases read
  · cases read
  · cases read
    have boundA : a.toNat < 256 := a.toNat_lt
    have boundB : b.toNat < 256 := b.toNat_lt
    refine ⟨by omega, ?_⟩
    rw [bytes2_of_bytes]
    rfl

private theorem take_ok {count : Nat} {taken : Bytes} (read : take count bytes = .ok (taken, rest)) :
    taken.length = count ∧ bytes = taken ++ rest := by
  rw [take] at read
  split at read
  · next found =>
    cases read
    exact takeBytes?_eq_some found
  · cases read

end Numbers

/-- Whether a decoder never fails for the contents of a text. -/
def BlamesNoText (decoder : Decoder α) : Prop :=
  ∀ bytes index, decoder bytes ≠ .error (.invalidUtf8 index)

theorem blamesNoText_pure (value : α) : (pure value : Decoder α).BlamesNoText := by
  intro bytes index failed
  cases failed

theorem BlamesNoText.bind (first : decoder.BlamesNoText)
    (second : ∀ value, (next value).BlamesNoText) : (decoder >>= next).BlamesNoText := by
  intro bytes index failed
  rcases bind_error failed with failed | ⟨value, rest, _, failed⟩
  · exact first bytes index failed
  · exact second value rest index failed

private theorem blamesNoText_u1 : u1.BlamesNoText := by
  intro bytes index failed
  unfold u1 at failed
  split at failed <;> cases failed

theorem blamesNoText_u2 : u2.BlamesNoText := by
  intro bytes index failed
  unfold u2 at failed
  split at failed <;> cases failed

private theorem blamesNoText_take (count : Nat) : (take count).BlamesNoText := by
  intro bytes index failed
  unfold take at failed
  split at failed <;> cases failed

private theorem blamesNoText_skip (count : Nat) : (skip count).BlamesNoText :=
  (blamesNoText_take count).bind fun _ => blamesNoText_pure ()

end Decoder

namespace Constant

open Decoder

def textBytes (contents : Bytes) : Bytes := 1 :: (bytes2 contents.length ++ contents)

variable {index number : Nat} {contents bytes : Bytes}

theorem read_textBytes (short : contents.length < 65536) (rest : Bytes) :
    Constant.read index (textBytes contents ++ rest) =
      match ModifiedUtf8.decode contents with
      | some text => .ok (.utf8 text, rest)
      | none => .error (.invalidUtf8 index) := by
  have whole : textBytes contents ++ rest =
      [1] ++ (bytes2 contents.length ++ (contents ++ rest)) := by simp [textBytes]
  rw [whole]
  refine ((reads_u1 1).bind_eq _).trans ?_
  refine ((reads_u2 short).bind_eq _).trans ?_
  refine ((reads_take contents).bind_eq _).trans ?_
  cases ModifiedUtf8.decode contents <;> rfl

/-- Only the contents of a text can be blamed for not being decoded. -/
theorem read_invalidUtf8 (failed : Constant.read index bytes = .error (.invalidUtf8 number)) :
    number = index ∧ ∃ contents rest, contents.length < 65536 ∧
      bytes = textBytes contents ++ rest ∧ ModifiedUtf8.decode contents = none := by
  rcases Decoder.bind_error failed with failed | ⟨tag, behind, first, failed⟩
  · exact absurd failed (blamesNoText_u1 _ _)
  split at failed
  case h_1 =>
    rcases Decoder.bind_error failed with failed | ⟨length, behind, second, failed⟩
    · exact absurd failed (blamesNoText_u2 _ _)
    rcases Decoder.bind_error failed with failed | ⟨contents, rest, taken, failed⟩
    · exact absurd failed (blamesNoText_take _ _ _)
    cases decoded : ModifiedUtf8.decode contents with
    | some text =>
      rw [decoded] at failed
      cases failed
    | none =>
      rw [decoded] at failed
      cases failed
      obtain ⟨byte, rfl, isText⟩ := u1_ok first
      obtain rfl : byte = 1 := UInt8.toNat_inj.1 isText
      obtain ⟨short, rfl⟩ := u2_ok second
      obtain ⟨rfl, rfl⟩ := take_ok taken
      exact ⟨rfl, contents, rest, short, by simp [textBytes], decoded⟩
  -- The other kinds fail at their end or for their tag.
  case h_6 =>
    exact absurd failed (blamesNoText_u2.bind (fun _ => blamesNoText_pure _) _ _)
  case h_8 | h_9 | h_10 | h_11 =>
    refine absurd failed (blamesNoText_u2.bind (fun _ => ?_) _ _)
    exact blamesNoText_u2.bind fun _ => blamesNoText_pure _
  case h_18 => cases failed
  all_goals exact absurd failed ((blamesNoText_skip _).bind (fun _ => blamesNoText_pure _) _ _)

private theorem length_slots_pos (constant : Constant) : 0 < constant.slots.length := by
  cases constant <;> exact Nat.succ_pos _

end Constant

namespace ConstantPool

/-- Whether bytes are constants that fill the numbers of a pool from the first to below the last. -/
inductive Fills : Nat → Bytes → Nat → Prop where
  | nil (index : Nat) : Fills index [] index
  | cons {index last : Nat} {constant : Constant} {bytes more : Bytes}
      (reads : (Constant.read index).Reads bytes constant) :
      Fills (index + constant.slots.length) more last → Fills index (bytes ++ more) last

/-- Whether a pool has a text with some contents at a number, behind constants that can be read. -/
def HasText (bytes : Bytes) (index : Nat) (contents : Bytes) : Prop :=
  ∃ count before after, index < count ∧ count < 65536 ∧ contents.length < 65536 ∧
    Fills 1 before index ∧
    bytes = bytes2 count ++ (before ++ (Constant.textBytes contents ++ after))

variable {index last limit missing number : Nat} {bytes before contents : Bytes}

theorem Fills.le (fills : Fills index before last) : index ≤ last := by
  induction fills with
  | nil => exact Nat.le_refl _
  | cons _ _ ih => exact Nat.le_trans (Nat.le_add_right _ _) ih

/-- Behind constants that fill some numbers, the reading goes on with the next number. -/
theorem Fills.readSlots_error_iff (fills : Fills index before last) (room : last < limit)
    {rest : Bytes} {error : FormatError} :
    readSlots index (limit - index) (before ++ rest) = .error error ↔
      readSlots last (limit - last) rest = .error error := by
  induction fills with
  | nil => rfl
  | @cons index last constant bytes more reads others ih =>
    have positive := constant.length_slots_pos
    have most := others.le
    obtain ⟨missing, isNext⟩ : ∃ missing, limit - index = missing + 1 :=
      ⟨limit - index - 1, by omega⟩
    have left : missing - (constant.slots.length - 1) =
        limit - (index + constant.slots.length) := by omega
    rw [← ih room, isNext, readSlots, List.append_assoc, reads.bind_eq, left]
    exact Decoder.bind_pure_error_iff

/-- If reading blames a number, there is a text at the number whose contents cannot be decoded. -/
theorem readSlots_invalidUtf8
    (failed : readSlots index missing bytes = .error (.invalidUtf8 number)) :
    number < index + missing ∧ ∃ before contents after, contents.length < 65536 ∧
      Fills index before number ∧ bytes = before ++ (Constant.textBytes contents ++ after) ∧
      ModifiedUtf8.decode contents = none := by
  fun_induction readSlots index missing generalizing bytes with
  | case1 => cases failed
  | case2 index missing ih =>
    rcases Decoder.bind_error failed with failed | ⟨constant, rest, read, failed⟩
    · obtain ⟨rfl, contents, after, short, rfl, undecoded⟩ := Constant.read_invalidUtf8 failed
      exact ⟨by omega, [], contents, after, short, .nil number, rfl, undecoded⟩
    · rcases Decoder.bind_error failed with failed | ⟨_, _, _, failed⟩
      · obtain ⟨most, before, contents, after, short, fills, rfl, undecoded⟩ := ih constant failed
        obtain ⟨taken, rfl, takes⟩ := Constant.frugal_read index _ _ _ read
        have least := fills.le
        refine ⟨by omega, taken ++ before, contents, after, short, .cons takes.reads fills, ?_,
          undecoded⟩
        rw [List.append_assoc]
      · cases failed

/-- A text is blamed if and only if its own contents cannot be decoded. -/
theorem readSlots_textBytes_iff (short : contents.length < 65536) (rest : Bytes) :
    readSlots index (missing + 1) (Constant.textBytes contents ++ rest) =
        .error (.invalidUtf8 index) ↔ ModifiedUtf8.decode contents = none := by
  rw [readSlots]
  cases decoded : ModifiedUtf8.decode contents with
  | none =>
    have failed := @Constant.read_textBytes index contents short rest
    rw [decoded] at failed
    refine iff_of_true ?_ rfl
    change (Constant.read index _ >>= _) = _
    rw [failed]
    rfl
  | some text =>
    have reads : (Constant.read index).Reads (Constant.textBytes contents) (.utf8 text) := by
      intro rest
      rw [Constant.read_textBytes short, decoded]
    rw [reads.bind_eq, Decoder.bind_pure_error_iff]
    refine iff_of_false (fun failed => ?_) (Option.some_ne_none text)
    -- What follows is blamed by numbers of its own.
    obtain ⟨_, _, _, _, _, fills, _⟩ := readSlots_invalidUtf8 failed
    exact Nat.not_succ_le_self index fills.le

/-- Reading a pool blames a number exactly if a text with that number cannot be decoded. -/
theorem read_invalidUtf8_iff (has : HasText bytes index contents) :
    ConstantPool.read bytes = .error (.invalidUtf8 index) ↔
      ModifiedUtf8.decode contents = none := by
  obtain ⟨count, before, after, room, fits, short, fills, rfl⟩ := has
  obtain ⟨missing, isNext⟩ : ∃ missing, count - index = missing + 1 :=
    ⟨count - index - 1, by omega⟩
  rw [ConstantPool.read, (Decoder.reads_u2 fits).bind_eq, Decoder.bind_pure_error_iff,
    fills.readSlots_error_iff room, isNext, readSlots_textBytes_iff short]

private theorem exists_text_of_invalidUtf8
    (failed : ConstantPool.read bytes = .error (.invalidUtf8 index)) :
    ∃ contents, HasText bytes index contents ∧ ModifiedUtf8.decode contents = none := by
  rcases Decoder.bind_error failed with failed | ⟨count, rest, counted, refused⟩
  · exact absurd failed (Decoder.blamesNoText_u2 _ _)
  obtain ⟨fits, rfl⟩ := Decoder.u2_ok counted
  obtain ⟨most, before, contents, after, short, fills, rfl, undecoded⟩ :=
    readSlots_invalidUtf8 (Decoder.bind_pure_error_iff.1 refused)
  have least := fills.le
  exact ⟨contents, ⟨count, before, after, by omega, fits, short, fills, rfl⟩, undecoded⟩

open ModifiedUtf8

/-- Code units are decoded exactly if each surrogate has a partner. So a pool with code units at a
number is refused for them exactly if a surrogate has none, and whenever a pool is refused for a
text, its contents are no code units whose surrogates have partners. -/
theorem text_refused_iff_unpaired (units : List UInt16) (bytes : Bytes) (index : Nat) :
    ((decode (encodeUnits units)).isSome ↔ Paired units) ∧
    (HasText bytes index (encodeUnits units) →
      (ConstantPool.read bytes = .error (.invalidUtf8 index) ↔ ¬ Paired units)) ∧
    (ConstantPool.read bytes = .error (.invalidUtf8 index) →
      ∃ contents, HasText bytes index contents ∧
        ∀ units, Paired units → contents ≠ encodeUnits units) := by
  refine ⟨decode_isSome_iff, fun has => ?_, fun refused => ?_⟩
  · rw [read_invalidUtf8_iff has, ← decode_isSome_iff, Option.not_isSome_iff_eq_none]
  · obtain ⟨contents, has, undecoded⟩ := exists_text_of_invalidUtf8 refused
    refine ⟨contents, has, fun units paired same => ?_⟩
    have decoded := decode_isSome_iff.2 paired
    rw [← same, undecoded] at decoded
    cases decoded

/-- A surrogate alone is a code unit, and yet the only text of a pool is refused for it. -/
theorem lone_surrogate_refused :
    HasText (bytes2 2 ++ Constant.textBytes (encodeUnits [0xD800])) 1 (encodeUnits [0xD800]) ∧
      decode (encodeUnits [0xD800]) = none ∧
      ConstantPool.read (bytes2 2 ++ Constant.textBytes (encodeUnits [0xD800])) =
        .error (.invalidUtf8 1) := by
  have undecoded : decode (encodeUnits [0xD800]) = none := by decide +kernel
  have has : HasText (bytes2 2 ++ Constant.textBytes (encodeUnits [0xD800])) 1
      (encodeUnits [0xD800]) :=
    ⟨2, [], [], by decide, by decide, by decide, .nil 1, by simp⟩
  exact ⟨has, undecoded, (read_invalidUtf8_iff has).2 undecoded⟩

end ConstantPool

end Linkage
