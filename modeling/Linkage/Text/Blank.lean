/-! White space as Unicode defines it, and trimming by it. -/

set_option autoImplicit false

namespace Linkage.Text

/-- The characters with the Unicode property `White_Space`. -/
def isBlank (c : Char) : Bool :=
  let n := c.toNat
  (9 ≤ n && n ≤ 13) || n == 0x20 || n == 0x85 || n == 0xA0 || n == 0x1680 ||
    (0x2000 ≤ n && n ≤ 0x200A) || n == 0x2028 || n == 0x2029 || n == 0x202F || n == 0x205F ||
    n == 0x3000

/-- Drops the elements that satisfy `drop` from both ends of a list. -/
def trimList {α : Type} (drop : α → Bool) (items : List α) : List α :=
  ((items.dropWhile drop).reverse.dropWhile drop).reverse

/-- Removes white space from both ends of a text. -/
def trim (text : String) : String :=
  String.ofList (trimList isBlank text.toList)

end Linkage.Text
