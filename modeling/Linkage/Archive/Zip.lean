import Linkage.Archive.Inflate
import Linkage.File.System

/-!
The members of archive files.

An archive ends with a record that leads to its directory. The directory has a record for each
member, with its name and the place of its data, which is plain or deflated.
-/

set_option autoImplicit false

namespace Linkage.Zip

/-- The number in some bytes, the lowest one first. -/
def number (bytes : ByteArray) (start : Nat) : Nat → Option Nat
  | 0 => some 0
  | count + 1 => do
    let low ← bytes[start]?
    pure (low.toNat + 256 * (← number bytes (start + 1) count))

/-- Bytes from a place on, all of which must be there. -/
def part? (bytes : ByteArray) (start count : Nat) : Option ByteArray :=
  if start + count ≤ bytes.size then some (bytes.extract start (start + count)) else none

/-- The marks of the three kinds of records. -/
def memberMark : Nat := 0x04034B50

def directoryMark : Nat := 0x02014B50

def endMark : Nat := 0x06054B50

/-- The number of bytes of the last record without the comment behind it. -/
def endSize : Nat := 22

/-- The place of the last record, looked for from the end. -/
def endPlace? (bytes : ByteArray) : Option Nat :=
  if bytes.size < endSize then none
  else
    ((List.range (min (bytes.size - endSize + 1) 65536)).map (bytes.size - endSize - ·)).find?
      fun place => number bytes place 4 == some endMark

/-- The data of a member, given how it is packed and where its own record is. -/
def data? (bytes : ByteArray) (method packedSize place : Nat) : Option Bytes := do
  guard ((← number bytes place 4) = memberMark)
  let nameSize ← number bytes (place + 26) 2
  let extraSize ← number bytes (place + 28) 2
  let packed ← part? bytes (place + 30 + nameSize + extraSize) packedSize
  match method with
  | 0 => pure packed.toList
  | 8 => (Inflate.decompress? packed).map (·.toList)
  | _ => none

/-- The members that some records of the directory describe. -/
def members? (bytes : ByteArray) : Nat → Nat → Option (List Member)
  | 0, _ => some []
  | count + 1, place => do
    guard ((← number bytes place 4) = directoryMark)
    let method ← number bytes (place + 10) 2
    let packedSize ← number bytes (place + 20) 4
    let nameSize ← number bytes (place + 28) 2
    let extraSize ← number bytes (place + 30) 2
    let commentSize ← number bytes (place + 32) 2
    let memberPlace ← number bytes (place + 42) 4
    let name ← Utf8.decodeString (← part? bytes (place + 46) nameSize).toList
    let data ← data? bytes method packedSize memberPlace
    let rest ← members? bytes count (place + 46 + nameSize + extraSize + commentSize)
    pure (⟨name, data⟩ :: rest)

/-- What a file on disk holds: an archive, or else plain bytes. -/
def nodeOf (bytes : ByteArray) : Node :=
  let members := do
    let last ← endPlace? bytes
    members? bytes (← number bytes (last + 10) 2) (← number bytes (last + 16) 4)
  match members with
  | some members => .ofMembers members
  | none => .file bytes.toList

end Linkage.Zip
