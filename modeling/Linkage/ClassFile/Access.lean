/-! Access and property flags of classes, nested classes, fields and methods. -/

set_option autoImplicit false

namespace Linkage

/-- A set of flags, one per bit. -/
structure Access where
  bits : UInt16
  deriving DecidableEq, Repr

namespace Access

def none : Access := ⟨0⟩
def «public» : Access := ⟨0x0001⟩
def «private» : Access := ⟨0x0002⟩
def «protected» : Access := ⟨0x0004⟩
def static : Access := ⟨0x0008⟩
def final : Access := ⟨0x0010⟩
def super : Access := ⟨0x0020⟩
def bridge : Access := ⟨0x0040⟩
def native : Access := ⟨0x0100⟩
def interface : Access := ⟨0x0200⟩
def abstract : Access := ⟨0x0400⟩
def synthetic : Access := ⟨0x1000⟩

/-- The flags of either set. -/
def union (a b : Access) : Access := ⟨a.bits ||| b.bits⟩

instance : OrOp Access := ⟨union⟩

/-- Whether every flag of `other` is set. -/
def contains (access other : Access) : Bool := access.bits &&& other.bits == other.bits

def isPublic (access : Access) : Bool := access.contains «public»
def isPrivate (access : Access) : Bool := access.contains «private»
def isProtected (access : Access) : Bool := access.contains «protected»
def isStatic (access : Access) : Bool := access.contains static
def isFinal (access : Access) : Bool := access.contains final
def isNative (access : Access) : Bool := access.contains native
def isInterface (access : Access) : Bool := access.contains interface
def isAbstract (access : Access) : Bool := access.contains abstract

end Access

end Linkage
