/-! Beginnings and ends of texts, and replacing one character by another. -/

set_option autoImplicit false

namespace Linkage.Text

/-- Whether `text` begins with `start`. -/
def startsWith (text start : String) : Bool :=
  start.toList.isPrefixOf text.toList

/-- Whether `text` ends with `tail`. -/
def endsWith (text tail : String) : Bool :=
  tail.toList.isSuffixOf text.toList

/-- What follows `start` in a list that begins with it. -/
def afterStart? {α : Type} [BEq α] : List α → List α → Option (List α)
  | items, [] => some items
  | [], _ :: _ => none
  | item :: items, expected :: start =>
    if item == expected then afterStart? items start else none

/-- What precedes `tail` in a list that ends with it. -/
def beforeEnd? {α : Type} [BEq α] (items tail : List α) : Option (List α) :=
  (afterStart? items.reverse tail.reverse).map List.reverse

/-- Whether `part` occurs in a list. -/
def containsPart {α : Type} [BEq α] (part : List α) : List α → Bool
  | [] => part.isEmpty
  | item :: rest => part.isPrefixOf (item :: rest) || containsPart part rest

/-- Every occurrence of `old` becomes `new`. -/
def replaceChar (old new : Char) (text : String) : String :=
  String.ofList (text.toList.map fun c => if c == old then new else c)

end Linkage.Text
