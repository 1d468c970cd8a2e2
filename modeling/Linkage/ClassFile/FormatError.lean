/-! What can be wrong with a class file. -/

set_option autoImplicit false

namespace Linkage

/-- What a constant pool entry should have been. -/
inductive ConstantKind where
  | utf8
  | «class»
  | nameAndType
  deriving DecidableEq, Repr

namespace ConstantKind

def text : ConstantKind → String
  | utf8 => "Utf8"
  | «class» => "Class"
  | nameAndType => "NameAndType"

end ConstantKind

/-- Why a class file cannot be read. -/
inductive FormatError where
  | unexpectedEnd
  | invalidMagic (value : Nat)
  | unsupportedConstant (tag index : Nat)
  | invalidConstantIndex (index : Nat)
  | unexpectedConstant (index : Nat) (expected : ConstantKind)
  | invalidUtf8 (index : Nat)
  | invalidDescriptor (descriptor : String)
  | invalidBytecode (offset : Nat)
  deriving DecidableEq, Repr

namespace FormatError

/-- Hexadecimal digits with `0x` in front, padded with zeros to eight digits. -/
def hexWord (value : Nat) : String :=
  let digits := Nat.toDigits 16 value
  String.ofList ('0' :: 'x' :: (List.replicate (8 - digits.length) '0' ++ digits))

def message : FormatError → String
  | unexpectedEnd => "unexpected end of class file"
  | invalidMagic value => "invalid magic number " ++ hexWord value
  | unsupportedConstant tag index =>
    "unsupported constant pool tag " ++ toString tag ++ " at index " ++ toString index
  | invalidConstantIndex index => "constant pool index " ++ toString index ++ " is out of range"
  | unexpectedConstant index expected =>
    "constant pool entry " ++ toString index ++ " is not a " ++ expected.text
  | invalidUtf8 index => "invalid modified UTF-8 in constant pool entry " ++ toString index
  | invalidDescriptor descriptor => "invalid descriptor `" ++ descriptor ++ "`"
  | invalidBytecode offset => "invalid instruction at code offset " ++ toString offset

end FormatError

end Linkage
