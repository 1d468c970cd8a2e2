/-!
Cutting a list at a separator.

`split` keeps every piece, empty ones included, so that joining the pieces with the separator gives
the list back. `splitOnce` cuts at the first separator only.
-/

set_option autoImplicit false

namespace Linkage.Text

/-- The pieces between the elements that are separators; there is always at least one piece. -/
def split {α : Type} (isSeparator : α → Bool) : List α → List (List α)
  | [] => [[]]
  | item :: rest =>
    if isSeparator item then [] :: split isSeparator rest
    else
      match split isSeparator rest with
      | [] => [[item]]
      | piece :: pieces => (item :: piece) :: pieces

/-- What stands before and after the first separator. -/
def splitOnce {α : Type} (isSeparator : α → Bool) : List α → Option (List α × List α)
  | [] => none
  | item :: rest =>
    if isSeparator item then some ([], rest)
    else (splitOnce isSeparator rest).map fun (before, after) => (item :: before, after)

/-- What follows a separator is shorter than the whole. -/
theorem splitOnce_rest_length {α : Type} (isSeparator : α → Bool) :
    ∀ {items before after : List α}, splitOnce isSeparator items = some (before, after) →
      after.length < items.length
  | [], _, _, found => by simp [splitOnce] at found
  | item :: rest, before, after, found => by
    simp only [splitOnce] at found
    split at found
    · cases found
      simp
    · obtain ⟨⟨_, remaining⟩, cut, same⟩ := Option.map_eq_some_iff.1 found
      cases same
      have shorter := splitOnce_rest_length isSeparator cut
      simp only [List.length_cons]
      omega

/-- What stands before and after the last separator. -/
def splitLast {α : Type} (isSeparator : α → Bool) (items : List α) : Option (List α × List α) :=
  (splitOnce isSeparator items.reverse).map fun (after, before) => (before.reverse, after.reverse)

/-- The pieces of a text between occurrences of one character. -/
def splitAt (separator : Char) (text : String) : List String :=
  (split (· == separator) text.toList).map String.ofList

/-- Removes one carriage return from the end of a line. -/
def withoutReturn (line : List Char) : List Char :=
  if line.getLast? == some '\r' then line.dropLast else line

/-- The lines of a text. A line feed ends a line, and a carriage return before it belongs to the
line end; what follows the last line feed is a line unless it is empty. -/
def lines (text : String) : List String :=
  let pieces := split (· == '\n') text.toList
  let last := pieces.getLast?.toList.filter (!·.isEmpty)
  (pieces.dropLast.map withoutReturn ++ last).map String.ofList

end Linkage.Text
