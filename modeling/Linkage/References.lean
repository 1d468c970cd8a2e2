import Linkage.Ordered
import Linkage.Symbol

/-! The symbols that a class refers to. -/

set_option autoImplicit false

namespace Linkage

/-- A reference to a member as a symbol. -/
def MemberReference.symbol : MemberReference → Symbol
  | .field owner name descriptor => .field ⟨owner, name, descriptor⟩
  | .method owner name descriptor ofInterface => .method ⟨owner, name, descriptor, ofInterface⟩

namespace ClassInfo

/-- Whether a class constant names neither the class itself nor one of its direct supertypes. -/
def isForeign (info : ClassInfo) (className : String) : Bool :=
  className != info.name && info.superName != some className &&
    !info.interfaces.contains className

/-- The symbols that a class refers to, in order. Its direct supertypes count as such and not as
plain classes, and the class does not refer to itself. -/
def symbols (info : ClassInfo) : List Symbol :=
  Ordered.ofList <|
    info.superName.toList.map .superClass ++ info.interfaces.map .superInterface ++
      ((info.classConstants.map (·.className)).filter info.isForeign).map .class ++
      info.memberReferences.map (·.symbol)

end ClassInfo

end Linkage
