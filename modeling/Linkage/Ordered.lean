/-!
Lists kept in increasing order, as sets and as tables.

Of elements that compare equal the one inserted first stays. Equality in the order need not be
equality of the elements.
-/

set_option autoImplicit false

namespace Linkage.Ordered

/-- Inserts an element unless one that compares equal is there. -/
def insert {α : Type} [Ord α] (new : α) : List α → List α
  | [] => [new]
  | item :: rest =>
    match compare new item with
    | .lt => new :: item :: rest
    | .eq => item :: rest
    | .gt => item :: insert new rest

/-- Whether an element that compares equal is there. -/
def contains {α : Type} [Ord α] (items : List α) (item : α) : Bool :=
  items.any fun other => compare item other == .eq

/-- The set of the elements of a list, which are inserted one after another. -/
def ofList {α : Type} [Ord α] (items : List α) : List α :=
  items.foldl (fun set item => insert item set) []

/-- Changes the value of a key, which has the value `default` before its first change. -/
def update {κ ν : Type} [Ord κ] (key : κ) (default : ν) (change : ν → ν) :
    List (κ × ν) → List (κ × ν)
  | [] => [(key, change default)]
  | (other, value) :: rest =>
    match compare key other with
    | .lt => (key, change default) :: (other, value) :: rest
    | .eq => (other, change value) :: rest
    | .gt => (other, value) :: update key default change rest

/-- Gives a key a value, whether it had one or not. -/
def put {κ ν : Type} [Ord κ] (key : κ) (value : ν) (table : List (κ × ν)) : List (κ × ν) :=
  update key value (fun _ => value) table

/-- Gives a key a value unless it has one. -/
def putNew {κ ν : Type} [Ord κ] (key : κ) (value : ν) (table : List (κ × ν)) : List (κ × ν) :=
  update key value id table

/-- The value of a key. -/
def get? {κ ν : Type} [Ord κ] (table : List (κ × ν)) (key : κ) : Option ν :=
  (table.find? fun (other, _) => compare key other == .eq).map (·.2)

end Linkage.Ordered
