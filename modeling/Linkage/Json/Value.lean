/-!
JSON values and their indented form.

Members of objects stay in the order in which they are given. Each level is indented by two spaces,
and empty lists and objects take no lines of their own.
-/

set_option autoImplicit false

namespace Linkage

/-- A value to be written as JSON. -/
inductive JsonValue where
  | null
  | bool (value : Bool)
  | number (value : Nat)
  | string (value : String)
  | array (items : List JsonValue)
  | object (members : List (String × JsonValue))

namespace JsonValue

/-- The text for a character between quotes. -/
def escapeChar (c : Char) : List Char :=
  if c == '"' then ['\\', '"']
  else if c == '\\' then ['\\', '\\']
  else if c == '\x08' then ['\\', 'b']
  else if c == '\x0c' then ['\\', 'f']
  else if c == '\n' then ['\\', 'n']
  else if c == '\r' then ['\\', 'r']
  else if c == '\t' then ['\\', 't']
  else if c.toNat < 0x20 then
    ['\\', 'u', '0', '0'] ++ Nat.toDigits 16 (c.toNat / 16) ++ Nat.toDigits 16 (c.toNat % 16)
  else [c]

/-- A text between quotes. -/
def quote (text : String) : String :=
  String.ofList ('"' :: text.toList.flatMap escapeChar ++ ['"'])

/-- The start of a line at a level. -/
def newline (level : Nat) : String := String.ofList ('\n' :: List.replicate (2 * level) ' ')

mutual

/-- A value whose lines after the first one are indented for a level. -/
def renderAt (level : Nat) : JsonValue → String
  | null => "null"
  | bool value => if value then "true" else "false"
  | number value => toString value
  | string value => quote value
  | array [] => "[]"
  | array items => "[" ++ ",".intercalate (renderItems (level + 1) items) ++ newline level ++ "]"
  | object [] => "\x7b\x7d"
  | object members =>
    "\x7b" ++ ",".intercalate (renderMembers (level + 1) members) ++ newline level ++ "\x7d"

/-- The items of a list, each on a new line. -/
def renderItems (level : Nat) : List JsonValue → List String
  | [] => []
  | item :: rest => (newline level ++ renderAt level item) :: renderItems level rest

/-- The members of an object, each on a new line. -/
def renderMembers (level : Nat) : List (String × JsonValue) → List String
  | [] => []
  | (name, value) :: rest =>
    (newline level ++ quote name ++ ": " ++ renderAt level value) :: renderMembers level rest

end

/-- The indented form of a value. -/
def render (value : JsonValue) : String := renderAt 0 value

/-- The member for a value that may be missing, if it is not. -/
def optionalMember (name : String) : Option JsonValue → List (String × JsonValue)
  | some value => [(name, value)]
  | none => []

/-- A list of texts. -/
def strings (texts : List String) : JsonValue := array (texts.map string)

end JsonValue

end Linkage
