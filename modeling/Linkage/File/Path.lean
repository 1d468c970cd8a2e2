import Linkage.Text.Affix
import Linkage.Text.Split

/-!
Paths of files.

A path keeps the text that it was written as. Paths are compared by their components, so that
different texts can be the same path: empty components and those that are a single dot do not
count, except for a dot at the very front.
-/

set_option autoImplicit false

namespace Linkage

/-- A path of a file, as it was written. -/
structure Path where
  text : String
  deriving DecidableEq, Repr

namespace Path

/-- What counts in the comparison of paths. -/
inductive Component where
  | root
  | current
  | parent
  | name (text : String)
  deriving DecidableEq, Repr

namespace Component

/-- The place of a kind of component among the kinds. -/
def rank : Component → Nat
  | root => 0
  | current => 1
  | parent => 2
  | name _ => 3

def order : Component → Component → Ordering
  | name a, name b => compare a b
  | a, b => compare a.rank b.rank

instance : Ord Component := ⟨order⟩

/-- The component that a part between slashes stands for, if it counts wherever it stands. -/
def ofPart? (part : String) : Option Component :=
  if part = "" || part = "." then none
  else if part = ".." then some parent
  else some (name part)

end Component

/-- The parts of the text between its slashes. -/
def parts (path : Path) : List String := Text.splitAt '/' path.text

def isAbsolute (path : Path) : Bool := Text.startsWith path.text "/"

/-- What the path is compared by. -/
def components (path : Path) : List Component :=
  let named := path.parts.filterMap Component.ofPart?
  if path.isAbsolute then .root :: named
  else if path.parts.head? == some "." then .current :: named
  else named

/-- Paths are ordered component by component. -/
def order (a b : Path) : Ordering := List.compareLex compare a.components b.components

instance : Ord Path := ⟨order⟩

/-- Whether two texts are the same path. -/
def same (a b : Path) : Bool := a.order b == .eq

/-- The path of something below `base`, unless it has an absolute path of its own. -/
def join (base child : Path) : Path :=
  if child.isAbsolute then child
  else if base.text.isEmpty || Text.endsWith base.text "/" then ⟨base.text ++ child.text⟩
  else ⟨base.text ++ "/" ++ child.text⟩

end Path

end Linkage
