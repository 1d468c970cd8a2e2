import Linkage.Ordered
import Linkage.Text.Affix
import Linkage.Text.Split

/-!
Placeholders in project descriptions.

A placeholder is a dollar sign followed by a property name in braces. One round replaces every
placeholder of a known property by its value; values may hold placeholders again, so there are up to
eight rounds.
-/

set_option autoImplicit false

namespace Linkage

/-- Properties by their names. -/
abbrev Properties := List (String × String)

namespace Placeholder

/-- The value of a property. -/
def value? (properties : Properties) (name : List Char) : Option (List Char) :=
  (Ordered.get? properties (String.ofList name)).map String.toList

/-- A placeholder as it is written. -/
def written (name : List Char) : List Char := '$' :: '\x7b' :: name ++ ['\x7d']

/-- Replaces the placeholders of known properties, each once. A name has at least one character
and none that is a closing brace. -/
def replaceRound (properties : Properties) (cs : List Char) : List Char :=
  match cs with
  | [] => []
  | '$' :: '\x7b' :: rest =>
    match _found : Text.splitOnce (· == '\x7d') rest with
    | none => '$' :: '\x7b' :: rest
    | some (name, after) =>
      if name.isEmpty then '$' :: '\x7b' :: replaceRound properties rest
      else (value? properties name).getD (written name) ++ replaceRound properties after
  | c :: rest => c :: replaceRound properties rest
termination_by cs.length
decreasing_by
  · simp only [List.length_cons]; omega
  · have shorter := Text.splitOnce_rest_length _ _found
    simp only [List.length_cons]; omega
  · simp

/-- Replaces placeholders in a number of rounds, or until none is left to replace. -/
def replaceRounds (properties : Properties) : Nat → List Char → List Char
  | 0, cs => cs
  | rounds + 1, cs =>
    if Text.containsPart ['$', '\x7b'] cs then
      let next := replaceRound properties cs
      if next == cs then cs else replaceRounds properties rounds next
    else cs

/-- The most rounds of replacement. -/
def maxRounds : Nat := 8

/-- A text with its placeholders replaced. -/
def expand (properties : Properties) (text : String) : String :=
  String.ofList (replaceRounds properties maxRounds text.toList)

/-- Whether a text still has the beginning of a placeholder. -/
def isPending (text : String) : Bool := Text.containsPart ['$', '\x7b'] text.toList

end Placeholder

end Linkage
