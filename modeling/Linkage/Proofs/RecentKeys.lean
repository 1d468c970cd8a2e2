import Linkage.Proofs.Repository
import Mathlib.Data.List.Dedup
import Mathlib.Data.List.DropRight

/-!
A bounded memory keeps exactly the keys that were used last.

The table of values and the order of the keys are changed one after the other, and nothing ties
them together but the way in which they are changed. After any calls on an empty memory they have
the same keys, each once. These are the last distinct keys that the calls used, and each has the
value that was stored last for it.
-/

set_option autoImplicit false

namespace Linkage.Lru

/-- A call on a memory. -/
inductive Call (κ ν : Type) where
  | insert (key : κ) (value : ν)
  | get (key : κ)
  deriving DecidableEq, Repr

section Calls

variable {κ ν : Type}

/-- A value is the last that calls store for a key. -/
def LastStored (calls : List (Call κ ν)) (key : κ) (value : ν) : Prop :=
  ∃ before behind, calls = before ++ .insert key value :: behind ∧
    ∀ other, .insert key other ∉ behind

private theorem lastStored_concat (calls : List (Call κ ν)) (key : κ) (value : ν) :
    LastStored (calls ++ [.insert key value]) key value :=
  ⟨calls, [], rfl, fun _ => List.not_mem_nil⟩

theorem LastStored.concat {calls : List (Call κ ν)} {key : κ} {value : ν}
    (stored : LastStored calls key value) {call : Call κ ν}
    (apart : ∀ other, .insert key other ≠ call) : LastStored (calls ++ [call]) key value := by
  obtain ⟨before, behind, split, last⟩ := stored
  refine ⟨before, behind ++ [call], by simp [split], ?_⟩
  intro other member
  rcases List.mem_append.1 member with inside | new
  · exact last other inside
  · exact apart other (List.mem_singleton.1 new)

private theorem LastStored.concat_get {calls : List (Call κ ν)} {key : κ} {value : ν}
    (stored : LastStored calls key value) (sought : κ) :
    LastStored (calls ++ [.get sought]) key value := by
  apply stored.concat
  intro other same
  cases same

variable [DecidableEq κ]

/-- The memory after a call. A search that finds nothing leaves it as it is. -/
def Call.apply (lru : Lru κ ν) : Call κ ν → Lru κ ν
  | .insert key value => lru.insert key value
  | .get key => ((lru.get? key).map (·.2)).getD lru

/-- The key that a call uses, by storing a value for it or by finding its value. -/
def Call.used? (lru : Lru κ ν) : Call κ ν → Option κ
  | .insert key _ => some key
  | .get key => (lru.get? key).map fun _ => key

def after (lru : Lru κ ν) (calls : List (Call κ ν)) : Lru κ ν := calls.foldl Call.apply lru

/-- The keys that calls use, one after another. -/
def used (lru : Lru κ ν) : List (Call κ ν) → List κ
  | [] => []
  | call :: rest => (call.used? lru).toList ++ used (call.apply lru) rest

end Calls

section Recency

variable {κ : Type}

theorem rtake_of_length_le {keys : List κ} {room : Nat} (fits : keys.length ≤ room) :
    keys.rtake room = keys := by
  rw [List.rtake, Nat.sub_eq_zero_of_le fits, List.drop_zero]

theorem rtake_append_of_le (front : List κ) {back : List κ} {room : Nat}
    (full : room ≤ back.length) : (front ++ back).rtake room = back.rtake room := by
  have rest : (front ++ back).length - room = front.length + (back.length - room) := by
    rw [List.length_append]
    omega
  rw [List.rtake, rest, List.drop_length_add_append, List.rtake]

private theorem length_rtake (keys : List κ) (room : Nat) :
    (keys.rtake room).length = min room keys.length := by
  rw [List.rtake, List.length_drop]
  omega

private theorem exists_last_of_mem {keys : List κ} {key : κ} (member : key ∈ keys) :
    ∃ before behind, keys = before ++ key :: behind ∧ key ∉ behind := by
  obtain ⟨behind, before, split, absent⟩ :=
    List.eq_append_cons_of_mem (List.mem_reverse.2 member)
  refine ⟨before.reverse, behind.reverse, ?_, by simpa using absent⟩
  simpa using congrArg List.reverse split

variable [DecidableEq κ]

/-- The last distinct keys of a sequence, as many as there is room for, in the order of their last
use. -/
def recent (room : Nat) (keys : List κ) : List κ := keys.dedup.rtake room

/-- Only the last keys matter when one of them is taken out and its place is not filled. -/
theorem rtake_erase {keys : List κ} (nodup : keys.Nodup) (key : κ) (room : Nat) :
    ((keys.rtake (room + 1)).erase key).rtake room = (keys.erase key).rtake room := by
  by_cases fits : keys.length ≤ room + 1
  · rw [rtake_of_length_le fits]
  obtain ⟨front, split⟩ : keys.rtake (room + 1) <:+ keys := List.drop_suffix _ keys
  have full : (keys.rtake (room + 1)).length = room + 1 := by
    rw [length_rtake]
    omega
  generalize keys.rtake (room + 1) = back at split full
  subst split
  by_cases inFront : key ∈ front
  · have notInBack : key ∉ back := by
      intro inBack
      exact (List.nodup_append.1 nodup).2.2 key inFront key inBack rfl
    rw [List.erase_of_not_mem notInBack, List.erase_append_left back inFront,
      rtake_append_of_le _ (by omega)]
  · have enough : room ≤ (back.erase key).length := by
      have bound := List.le_length_erase (l := back) (a := key)
      omega
    rw [List.erase_append_right back inFront, rtake_append_of_le _ enough]

/-- A key that is used moves to the end of the distinct keys. -/
theorem dedup_concat (keys : List κ) (key : κ) :
    (keys ++ [key]).dedup = keys.dedup.erase key ++ [key] := by
  induction keys with
  | nil => rfl
  | cons first rest ih =>
    rw [List.cons_append]
    by_cases again : first ∈ rest
    · rw [List.dedup_cons_of_mem again, List.dedup_cons_of_mem (List.mem_append_left _ again), ih]
    rw [List.dedup_cons_of_notMem again]
    by_cases same : first = key
    · subst same
      have absent : first ∉ rest.dedup := mt List.mem_dedup.1 again
      rw [List.dedup_cons_of_mem (List.mem_append_right _ (List.mem_singleton_self first)), ih,
        List.erase_of_not_mem absent, List.erase_cons_head]
    · have absent : first ∉ rest ++ [key] := by
        simp [again, same]
      rw [List.dedup_cons_of_notMem absent, ih, List.erase_cons_tail (by simpa using same),
        List.cons_append]

/-- After the use of a key, what is recent depends on what was recent before and on nothing else. -/
theorem recent_concat {room : Nat} (isRoom : 0 < room) (keys : List κ) (key : κ) :
    recent room (keys ++ [key]) = ((recent room keys).erase key ++ [key]).rtake room := by
  obtain ⟨others, rfl⟩ : ∃ others, room = others + 1 := ⟨room - 1, by omega⟩
  rw [recent, recent, dedup_concat, List.rtake_concat_succ, List.rtake_concat_succ,
    rtake_erase keys.nodup_dedup]

private theorem length_recent_le (room : Nat) (keys : List κ) : (recent room keys).length ≤ room := by
  rw [recent, length_rtake]
  exact Nat.min_le_left _ _

/-- A key is recent if fewer distinct keys than there is room for were used after it. -/
theorem mem_recent_append_iff {room : Nat} {before behind : List κ} {key : κ}
    (absent : key ∉ behind) :
    key ∈ recent room (before ++ key :: behind) ↔ behind.dedup.length < room := by
  obtain ⟨front, _, split⟩ := List.sublist_suffix_of_union before (key :: behind.dedup)
  have distinct : (before ++ key :: behind).dedup = front ++ key :: behind.dedup := by
    rw [List.dedup_append, List.dedup_cons_of_notMem absent, split]
  rw [recent, distinct]
  constructor
  · intro member
    by_contra tooMany
    -- With the keys behind it there is no room left, and it is none of them.
    have isBehind : key ∈ behind.dedup.rtake room := by
      rw [← List.singleton_append, ← List.append_assoc, rtake_append_of_le _ (by omega)] at member
      exact member
    exact absent (List.mem_dedup.1 (List.mem_of_mem_drop isBehind))
  · intro fits
    rw [List.rtake, List.drop_append_of_le_length (by simp; omega)]
    exact List.mem_append_right _ List.mem_cons_self

private theorem mem_recent_iff {room : Nat} {keys : List κ} {key : κ} :
    key ∈ recent room keys ↔ ∃ before behind, keys = before ++ key :: behind ∧ key ∉ behind ∧
      behind.dedup.length < room := by
  constructor
  · intro member
    have inKeys : key ∈ keys := List.mem_dedup.1 (List.mem_of_mem_drop member)
    obtain ⟨before, behind, rfl, absent⟩ := exists_last_of_mem inKeys
    exact ⟨before, behind, rfl, absent, (mem_recent_append_iff absent).1 member⟩
  · rintro ⟨before, behind, rfl, absent, fits⟩
    exact (mem_recent_append_iff absent).2 fits

end Recency

section Steps

variable {κ ν : Type} {lru : Lru κ ν} {key : κ}

/-- The table and the order have the same keys, each once. -/
structure Aligned (lru : Lru κ ν) : Prop where
  nodup : lru.order.Nodup
  perm : lru.order.Perm lru.keys

private theorem Aligned.length_order (aligned : lru.Aligned) : lru.order.length = lru.size := by
  rw [aligned.perm.length_eq, keys, List.length_map, size]

variable [DecidableEq κ]

private theorem get?_of_mem (held : key ∈ lru.keys) :
    ∃ value, lru.get? key = some (value, lru.touch key) := by
  obtain ⟨row, member, rfl⟩ := List.mem_map.1 held
  have isSome : (lru.values.lookup row.1).isSome :=
    List.lookup_isSome_iff.2 ⟨row, member, BEq.refl row.1⟩
  obtain ⟨value, looked⟩ := Option.isSome_iff_exists.1 isSome
  exact ⟨value, by rw [get?, looked, Option.map_some]⟩

private theorem mem_keys_of_get? {value : ν} {after : Lru κ ν}
    (found : lru.get? key = some (value, after)) : key ∈ lru.keys :=
  List.mem_map_of_mem (mem_of_get? found).1

private theorem get?_of_not_mem (absent : key ∉ lru.keys) : lru.get? key = none := by
  cases found : lru.get? key with
  | none => rfl
  | some hit => exact absurd (mem_keys_of_get? found) absent

private theorem keys_without (key : κ) (values : List (κ × ν)) :
    (without key values).map (·.1) = (values.map (·.1)).filter (· != key) := by
  rw [List.filter_map]
  rfl

private theorem nodup_touch (nodup : lru.order.Nodup) (key : κ) : (lru.touch key).order.Nodup := by
  refine List.nodup_append.2 ⟨nodup.erase key, List.nodup_singleton key, ?_⟩
  intro other kept last isLast same
  rw [same, List.mem_singleton.1 isLast] at kept
  exact nodup.not_mem_erase kept

theorem Aligned.touch (aligned : lru.Aligned) (held : key ∈ lru.keys) :
    (lru.touch key).Aligned where
  nodup := nodup_touch aligned.nodup key
  perm := by
    have inOrder : key ∈ lru.order := aligned.perm.mem_iff.2 held
    calc List.Perm (lru.order.erase key ++ [key]) (key :: lru.order.erase key) :=
          List.perm_append_singleton key _
      List.Perm _ lru.order := (List.perm_cons_erase inOrder).symm
      List.Perm _ lru.keys := aligned.perm

private theorem Aligned.put_touch (aligned : lru.Aligned) (key : κ) (value : ν) :
    ((lru.put key value).touch key).Aligned where
  nodup := nodup_touch aligned.nodup key
  perm := by
    have others : (lru.order.erase key).Perm ((without key lru.values).map (·.1)) := by
      rw [keys_without, aligned.nodup.erase_eq_filter]
      exact aligned.perm.filter (· != key)
    calc List.Perm (lru.order.erase key ++ [key]) (key :: lru.order.erase key) :=
          List.perm_append_singleton key _
      List.Perm _ (key :: (without key lru.values).map (·.1)) := others.cons key

private theorem evictFrom_capacity (capacity : Nat) (values : List (κ × ν)) (order : List κ) :
    (evictFrom capacity values order).capacity = capacity := by
  induction order generalizing values with
  | nil => rfl
  | cons oldest rest ih =>
    rw [evictFrom]
    split
    · exact ih (without oldest values)
    · rfl

/-- Each key that goes from the order takes one value with it, so the last keys stay that fit. -/
theorem evictFrom_aligned (capacity : Nat) {values : List (κ × ν)} {order : List κ}
    (nodup : order.Nodup) (perm : order.Perm (values.map (·.1))) :
    (evictFrom capacity values order).order = order.rtake capacity ∧
      (evictFrom capacity values order).order.Perm (evictFrom capacity values order).keys := by
  induction order generalizing values with
  | nil => exact ⟨(List.rtake_nil capacity).symm, perm⟩
  | cons oldest rest ih =>
    have sameLength : rest.length + 1 = values.length := by simpa using perm.length_eq
    rw [evictFrom]
    split
    case isTrue tooMany =>
      -- The oldest key has exactly one row, so the table loses what the order loses.
      have permRest : rest.Perm ((without oldest values).map (·.1)) := by
        have filtered := perm.filter (· != oldest)
        rw [← nodup.erase_eq_filter, List.erase_cons_head, ← keys_without] at filtered
        exact filtered
      obtain ⟨last, aligned⟩ := ih (List.nodup_cons.1 nodup).2 permRest
      refine ⟨?_, aligned⟩
      rw [last, ← List.singleton_append, rtake_append_of_le _ (by omega)]
    case isFalse fits =>
      refine ⟨?_, perm⟩
      rw [rtake_of_length_le]
      rw [List.length_cons]
      omega

theorem Aligned.evict (aligned : lru.Aligned) :
    lru.evict.order = lru.order.rtake lru.capacity ∧ lru.evict.Aligned := by
  obtain ⟨last, perm⟩ := evictFrom_aligned lru.capacity aligned.nodup aligned.perm
  refine ⟨last, ?_, perm⟩
  rw [Lru.evict, last]
  exact (List.drop_sublist _ _).nodup aligned.nodup

/-- A memory after some calls that have used some keys. -/
structure Reflects (room : Nat) (calls : List (Call κ ν)) (keys : List κ) (lru : Lru κ ν) : Prop
    extends Aligned lru where
  capacity_eq : lru.capacity = room
  order_eq : lru.order = recent room keys
  stored : ∀ row ∈ lru.values, LastStored calls row.1 row.2

variable {room : Nat} {calls : List (Call κ ν)} {keys : List κ}

private theorem Reflects.size_le (reflects : lru.Reflects room calls keys) : lru.size ≤ room := by
  rw [← reflects.length_order, reflects.order_eq]
  exact length_recent_le room keys

private theorem ofCapacity_reflects (capacity : Nat) :
    (ofCapacity capacity : Lru κ ν).Reflects (max capacity 1) [] [] where
  nodup := List.nodup_nil
  perm := List.Perm.refl []
  capacity_eq := rfl
  order_eq := (List.rtake_nil _).symm
  stored := by
    intro row member
    cases member

theorem Reflects.insert (reflects : lru.Reflects room calls keys) (isRoom : 0 < room) (key : κ)
    (value : ν) :
    (lru.insert key value).Reflects room (calls ++ [.insert key value]) (keys ++ [key]) := by
  obtain ⟨last, aligned⟩ := (reflects.put_touch key value).evict
  refine { aligned with capacity_eq := ?_, order_eq := ?_, stored := ?_ }
  · exact (evictFrom_capacity _ _ _).trans reflects.capacity_eq
  · calc (lru.insert key value).order
      _ = (lru.order.erase key ++ [key]).rtake lru.capacity := last
      _ = ((recent room keys).erase key ++ [key]).rtake room := by
        rw [reflects.order_eq, reflects.capacity_eq]
      _ = recent room (keys ++ [key]) := (recent_concat isRoom keys key).symm
  · intro row member
    rcases mem_of_mem_insert member with new | ⟨old, other⟩
    · rw [new]
      exact lastStored_concat calls key value
    · apply (reflects.stored row old).concat
      intro stored same
      cases same
      exact other rfl

/-- A key that is found is recent already, so its use pushes no other key out. -/
theorem Reflects.get (reflects : lru.Reflects room calls keys) (isRoom : 0 < room)
    (held : key ∈ lru.keys) :
    (lru.touch key).Reflects room (calls ++ [.get key]) (keys ++ [key]) := by
  have aligned := reflects.touch held
  refine { aligned with capacity_eq := reflects.capacity_eq, order_eq := ?_, stored := ?_ }
  · have fits : (lru.touch key).order.length ≤ room := by
      rw [aligned.length_order]
      exact reflects.size_le
    rw [recent_concat isRoom, ← reflects.order_eq]
    exact (rtake_of_length_le fits).symm
  · intro row member
    exact (reflects.stored row member).concat_get key

private theorem Reflects.miss (reflects : lru.Reflects room calls keys) (key : κ) :
    lru.Reflects room (calls ++ [.get key]) keys := by
  refine { reflects with stored := ?_ }
  intro row member
  exact (reflects.stored row member).concat_get key

theorem Reflects.apply (reflects : lru.Reflects room calls keys) (isRoom : 0 < room)
    (call : Call κ ν) :
    (call.apply lru).Reflects room (calls ++ [call]) (keys ++ (call.used? lru).toList) := by
  cases call with
  | insert key value => exact reflects.insert isRoom key value
  | get key =>
    by_cases held : key ∈ lru.keys
    · obtain ⟨value, found⟩ := get?_of_mem held
      simpa [Call.apply, Call.used?, found] using reflects.get isRoom held
    · simpa [Call.apply, Call.used?, get?_of_not_mem held] using reflects.miss key

theorem Reflects.after (reflects : lru.Reflects room calls keys) (isRoom : 0 < room)
    (more : List (Call κ ν)) :
    (lru.after more).Reflects room (calls ++ more) (keys ++ lru.used more) := by
  induction more generalizing lru calls keys with
  | nil => simpa [Lru.after, used] using reflects
  | cons call rest ih =>
    have next := ih (reflects.apply isRoom call)
    rw [List.append_assoc, List.append_assoc] at next
    exact next

private theorem after_ofCapacity_reflects (capacity : Nat) (calls : List (Call κ ν)) :
    ((ofCapacity capacity).after calls).Reflects (max capacity 1) calls
      ((ofCapacity capacity).used calls) :=
  (ofCapacity_reflects capacity).after (by omega) calls

/-- After any calls on an empty memory, the order has the keys of the table, each once, and no more
than there is room for. The keys are the last distinct ones that the calls used, and a key is among
them exactly if fewer distinct keys than there is room for were used after it. A search for one of
them gives the value that was stored last for it, and a search for any other key gives nothing. -/
theorem keeps_most_recent (capacity : Nat) (calls : List (Call κ ν)) :
    let lru := (ofCapacity capacity).after calls
    let used := (ofCapacity capacity).used calls
    (lru.order.Nodup ∧ lru.order.Perm lru.keys) ∧
    lru.size ≤ max capacity 1 ∧
    lru.order = recent (max capacity 1) used ∧
    (∀ key, key ∈ lru.keys ↔ ∃ before behind, used = before ++ key :: behind ∧ key ∉ behind ∧
      behind.dedup.length < max capacity 1) ∧
    (∀ key ∈ lru.keys, ∃ value, LastStored calls key value ∧
      lru.get? key = some (value, lru.touch key)) ∧
    ∀ key ∉ lru.keys, lru.get? key = none := by
  have reflects := after_ofCapacity_reflects capacity calls
  refine ⟨⟨reflects.nodup, reflects.perm⟩, reflects.size_le, reflects.order_eq, ?_, ?_, ?_⟩
  · intro key
    rw [← reflects.perm.mem_iff, reflects.order_eq, mem_recent_iff]
  · intro key held
    obtain ⟨value, found⟩ := get?_of_mem held
    exact ⟨value, reflects.stored _ (mem_of_get? found).1, found⟩
  · intro key absent
    exact get?_of_not_mem absent

end Steps

/-- More keys than there is room for. The first is used again before the last comes. -/
def overflow : List (Call String Nat) := [.insert "a" 1, .insert "b" 2, .get "a", .insert "c" 3]

/-- The key that was used again stays, with its value, and the other one goes. -/
theorem overflow_keeps_used_key :
    let lru := (ofCapacity 2).after overflow
    lru.order = ["a", "c"] ∧
    ("a" ∈ lru.keys ∧ ∃ value, LastStored overflow "a" value ∧
      lru.get? "a" = some (value, lru.touch "a")) ∧
    "b" ∉ lru.keys ∧ lru.get? "b" = none := by
  obtain ⟨_, _, _, _, found, missed⟩ := keeps_most_recent 2 overflow
  have kept : "a" ∈ ((ofCapacity 2).after overflow).keys := by decide
  have gone : "b" ∉ ((ofCapacity 2).after overflow).keys := by decide
  exact ⟨by decide, ⟨kept, found "a" kept⟩, gone, missed "b" gone⟩

end Linkage.Lru
