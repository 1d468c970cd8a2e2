import Linkage.Text.Lowercase

/-!
The order of versions.

A version is read as numbers and words. Full stops separate them, and a hyphen or a change between
digits and other characters also opens a nested group that reaches to the end of the version.
Trailing items that mean nothing (zero, words for a release, empty groups) are dropped, so that
`1.0` and `1-final` are the version `1`.

Known words come in the order `alpha`, `beta`, `milestone`, `rc`, `snapshot`, release, `sp`; every
other word comes after them, and such words are ordered by their characters.
-/

set_option autoImplicit false

namespace Linkage

/-- A component of a version. -/
inductive VersionItem where
  | number (value : Nat)
  | word (letters : List Char)
  | group (items : List VersionItem)
  deriving Repr

namespace VersionItem

/-- The words with a place of their own. The empty word stands for a release. -/
def knownWords : List (List Char) :=
  ["alpha", "beta", "milestone", "rc", "snapshot", "", "sp"].map String.toList

/-- The place of a word among the known ones, or behind them. -/
def wordRank (letters : List Char) : Nat := knownWords.idxOf letters

/-- The place of a release. -/
def releaseRank : Nat := 5

/-- Words with the same place differ only if they are unknown. -/
def compareWords (a b : List Char) : Ordering :=
  (compare (wordRank a) (wordRank b)).then
    (if wordRank a < knownWords.length then .eq else compare a b)

/-- Whether the item means nothing at the end of a version. -/
def isNull : VersionItem → Bool
  | number value => value == 0
  | word letters => letters.isEmpty
  | group items => items.isEmpty

/-- The item against a missing one. A group counts by its first item alone. -/
def compareToNothing : VersionItem → Ordering
  | number value => if value == 0 then .eq else .gt
  | word letters => compare (wordRank letters) releaseRank
  | group [] => .eq
  | group (first :: _) => first.compareToNothing

/-- A row of items against no item. -/
def compareRestToNothing : List VersionItem → Ordering
  | [] => .eq
  | item :: rest => item.compareToNothing.then (compareRestToNothing rest)

mutual

/-- Numbers come after groups, and groups after words. -/
def compareItem : VersionItem → VersionItem → Ordering
  | number a, number b => compare a b
  | number _, word _ => .gt
  | number _, group _ => .gt
  | word _, number _ => .lt
  | word a, word b => compareWords a b
  | word _, group _ => .lt
  | group _, number _ => .lt
  | group _, word _ => .gt
  | group a, group b => compareItems a b

/-- Place by place; where one row has ended, the other is compared with nothing. -/
def compareItems : List VersionItem → List VersionItem → Ordering
  | [], right => (compareRestToNothing right).swap
  | left :: lefts, [] => left.compareToNothing.then (compareRestToNothing lefts)
  | left :: lefts, right :: rights =>
    (compareItem left right).then (compareItems lefts rights)

end

/-- A word as written, in lower case. Some words are short for others, some of them only in front
of a digit, and three words stand for a release. -/
def ofWord (letters : List Char) (beforeDigit : Bool) : VersionItem :=
  word <|
    match String.ofList letters with
    | "a" => if beforeDigit then "alpha".toList else letters
    | "b" => if beforeDigit then "beta".toList else letters
    | "m" => if beforeDigit then "milestone".toList else letters
    | "ga" => []
    | "final" => []
    | "release" => []
    | "cr" => "rc".toList
    | _ => letters

/-- A row of decimal digits as a number. -/
def ofDigits (digits : List Char) : VersionItem :=
  number (digits.foldl (fun value c => value * 10 + (c.toNat - '0'.toNat)) 0)

/-- A run of characters that are all digits or all others. -/
def ofRun (digits : Bool) (run : List Char) : VersionItem :=
  if digits then ofDigits run else ofWord run false

/-- Drops null items from the front, looking past groups that are not null. -/
def dropNulls : List VersionItem → List VersionItem
  | [] => []
  | item :: rest =>
    if item.isNull then dropNulls rest
    else
      match item with
      | group _ => item :: dropNulls rest
      | _ => item :: rest

/-- Drops the null items at the end; groups at the end do not protect those before them. -/
def normalize (items : List VersionItem) : List VersionItem := (dropNulls items.reverse).reverse

end VersionItem

namespace Version

open VersionItem

/-- The rows of items between which groups open, the outermost first. The run read so far is `run`,
and `digits` tells whether the last character that was no separator was a digit; `row` holds the
items of the row that is being read. -/
def rows (row : List VersionItem) (run : List Char) (digits : Bool) :
    List Char → List (List VersionItem)
  | [] => [if run.isEmpty then row else row ++ [ofRun digits run]]
  | c :: rest =>
    if c == '.' || c == '-' then
      let row := row ++ [if run.isEmpty then number 0 else ofRun digits run]
      if c == '-' then row :: rows [] [] digits rest else rows row [] digits rest
    else if c.isDigit then
      if !digits && !run.isEmpty then (row ++ [ofWord run true]) :: rows [] [c] true rest
      else rows row (run ++ [c]) true rest
    else if digits && !run.isEmpty then (row ++ [ofRun true run]) :: rows [] [c] false rest
    else rows row (run ++ [c]) false rest

/-- Nests each row in the one before it, without the null items at the ends. -/
def nest : List (List VersionItem) → List VersionItem
  | [] => []
  | [row] => normalize row
  | row :: rest => normalize (row ++ [group (nest rest)])

/-- The items of a version. Letter case does not matter. -/
def items (version : String) : List VersionItem :=
  nest (rows [] [] false (Text.lowercase version.toList))

/-- The order of versions. -/
def order (a b : String) : Ordering := compareItems (items a) (items b)

end Version

end Linkage
