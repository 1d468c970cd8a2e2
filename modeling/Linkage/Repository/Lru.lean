/-!
A memory for a bounded number of values, which forgets those that were not used for longest.

The values stand in a table, in no particular order. Their keys stand beside it in the order of
their last use. Storing or finding a value uses its key.
-/

set_option autoImplicit false

namespace Linkage

/-- A table of values, and its keys with the one that was used last at the end. -/
structure Lru (κ ν : Type) where
  capacity : Nat
  values : List (κ × ν)
  order : List κ

namespace Lru

variable {κ ν : Type} [DecidableEq κ]

/-- An empty memory. There is room for at least one value. -/
def ofCapacity (capacity : Nat) : Lru κ ν := ⟨max capacity 1, [], []⟩

/-- How many values there are. -/
def size (lru : Lru κ ν) : Nat := lru.values.length

/-- The keys that have a value. -/
def keys (lru : Lru κ ν) : List κ := lru.values.map (·.1)

/-- A table without the row of a key. -/
def without (key : κ) (values : List (κ × ν)) : List (κ × ν) :=
  values.filter fun row => row.1 != key

/-- Gives a key a value, whether it had one or not. -/
def put (lru : Lru κ ν) (key : κ) (value : ν) : Lru κ ν :=
  { lru with values := (key, value) :: without key lru.values }

/-- Makes a key the one that was used last. -/
def touch (lru : Lru κ ν) (key : κ) : Lru κ ν :=
  { lru with order := lru.order.erase key ++ [key] }

/-- Removes the values of the first keys of an order until there are no more than fit. -/
def evictFrom (capacity : Nat) (values : List (κ × ν)) : List κ → Lru κ ν
  | [] => ⟨capacity, values, []⟩
  | oldest :: rest =>
    if capacity < values.length then evictFrom capacity (without oldest values) rest
    else ⟨capacity, values, oldest :: rest⟩

/-- Removes values until there are no more than fit, the one that was not used for longest first. -/
def evict (lru : Lru κ ν) : Lru κ ν := evictFrom lru.capacity lru.values lru.order

/-- The value of a key, and the memory after its use. -/
def get? (lru : Lru κ ν) (key : κ) : Option (ν × Lru κ ν) :=
  (lru.values.lookup key).map fun value => (value, lru.touch key)

/-- Stores a value. If there is no room left, the one that was not used for longest goes. -/
def insert (lru : Lru κ ν) (key : κ) (value : ν) : Lru κ ν := ((lru.put key value).touch key).evict

end Lru

end Linkage
