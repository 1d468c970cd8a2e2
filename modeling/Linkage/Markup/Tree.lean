import Linkage.Text.Blank
import Linkage.Markup.Token

/-!
XML documents as trees of elements, with namespaces resolved.

An element belongs to the namespace that its abbreviation is declared for, or to the default
namespace if it has none. Neighbouring texts are one text, and comments stay as places between
texts.
-/

set_option autoImplicit false

namespace Linkage.Markup

/-- Where the name of an attribute belongs. -/
inductive AttributeSpace where
  /-- A name without an abbreviation belongs nowhere else. -/
  | plain
  /-- The names with the abbreviation `xml`, which needs no declaration. -/
  | reserved
  | declared (uri : String)
  deriving DecidableEq, Repr

/-- An attribute with its namespace. -/
structure Attribute where
  space : AttributeSpace
  name : String
  value : String
  deriving DecidableEq, Repr

/-- What an element can hold. -/
inductive Content where
  | element (uri : Option String) (name : String) (attributes : List Attribute)
    (children : List Content)
  | text (text : String)
  /-- The place of a comment or a processing instruction. -/
  | remark

/-- An element of a document. -/
structure Element where
  uri : Option String
  name : String
  attributes : List Attribute
  children : List Content

namespace Element

/-- The elements directly inside an element. -/
def elements (element : Element) : List Element :=
  element.children.filterMap fun
    | .element uri name attributes children => some ⟨uri, name, attributes, children⟩
    | _ => none

/-- The text at the front of an element. -/
def text? (element : Element) : Option String :=
  match element.children with
  | .text text :: _ => some text
  | _ => none

/-- The value of an attribute without a namespace. -/
def attribute? (element : Element) (name : String) : Option String :=
  (element.attributes.find? fun candidate =>
    candidate.space == .plain && candidate.name == name).map (·.value)

/-- The first element with a name directly inside an element. -/
def child? (element : Element) (name : String) : Option Element :=
  element.elements.find? (·.name == name)

/-- The trimmed text of the first element with a name, unless it is blank. -/
def childText? (element : Element) (name : String) : Option String :=
  ((element.child? name).bind (·.text?)).bind fun text =>
    let trimmed := Text.trim text
    if trimmed.isEmpty then none else some trimmed

end Element

/-- A namespace with its abbreviation; the default namespace has none. -/
structure Declaration where
  qualifier : Option String
  uri : String

/-- The namespaces that an element declares, and its other attributes. -/
structure Declared where
  declarations : List Declaration
  attributes : List RawAttribute

/-- The namespace that is always declared as `xml`. -/
def xmlUri : String := "http://www.w3.org/XML/1998/namespace"

/-- The namespace of the declarations themselves. -/
def xmlnsUri : String := "http://www.w3.org/2000/xmlns/"

/-- Sorts one attribute of a tag. No abbreviation is declared twice. The abbreviation `xml` stands
for its own namespace alone, and that namespace has no other abbreviation; the namespace of the
declarations has none. Declaring `xml` as what it is changes nothing. -/
def Declared.add? (declared : Declared) (raw : RawAttribute) : Option Declared :=
  let value := raw.value
  if raw.name.qualifier = "xmlns" then
    let name := raw.name.name
    if value = xmlnsUri || (name = "xml") != (value = xmlUri) ||
        declared.declarations.any (·.qualifier == some name) then none
    else if name = "xml" then some declared
    else some { declared with declarations := declared.declarations ++ [⟨some name, value⟩] }
  else if raw.name.name = "xmlns" then
    if value = xmlUri || value = xmlnsUri then none
    else some { declared with declarations := declared.declarations ++ [⟨none, value⟩] }
  else some { declared with attributes := declared.attributes ++ [raw] }

/-- Sorts the attributes of a tag. -/
def Declared.ofAttributes? (attributes : List RawAttribute) : Option Declared :=
  attributes.foldlM Declared.add? ⟨[], []⟩

/-- The namespace of an abbreviation, where the nearest declaration counts. -/
def uriOf? (scope : List Declaration) (qualifier : Option String) : Option String :=
  (scope.find? (·.qualifier == qualifier)).map (·.uri)

/-- Resolves an attribute. Without an abbreviation it belongs to no namespace. -/
def Attribute.resolve? (scope : List Declaration) (raw : RawAttribute) : Option Attribute :=
  let qualifier := raw.name.qualifier
  if qualifier = "" then some ⟨.plain, raw.name.name, raw.value⟩
  else if qualifier = "xml" then some ⟨.reserved, raw.name.name, raw.value⟩
  else (uriOf? scope (some qualifier)).map fun uri => ⟨.declared uri, raw.name.name, raw.value⟩

/-- Resolves attributes, of which no two are the same. -/
def Attribute.resolveAll? (scope : List Declaration) (raws : List RawAttribute) :
    Option (List Attribute) :=
  raws.foldlM (fun done raw => do
    let new ← Attribute.resolve? scope raw
    if done.any fun old => old.space == new.space && old.name == new.name then none
    else some (done ++ [new])) []

/-- An element whose end has not been read yet. -/
structure OpenElement where
  tag : QualifiedName
  uri : Option String
  attributes : List Attribute
  /-- The declarations that hold inside the element, nearest first. -/
  scope : List Declaration
  children : List Content

namespace OpenElement

/-- The element of a start tag below elements with some declarations in scope. -/
def ofTag? (outer : List Declaration) (tag : QualifiedName) (raws : List RawAttribute) :
    Option OpenElement := do
  if tag.qualifier = "xmlns" then none
  else
    let declared ← Declared.ofAttributes? raws
    let scope := declared.declarations ++ outer
    let attributes ← Attribute.resolveAll? scope declared.attributes
    if tag.qualifier = "" then pure ⟨tag, uriOf? scope none, attributes, scope, []⟩
    else
      let uri ← uriOf? scope (some tag.qualifier)
      pure ⟨tag, some uri, attributes, scope, []⟩

/-- Adds content; a text behind a text continues it. -/
def add (element : OpenElement) (content : Content) : OpenElement :=
  let children :=
    match element.children.getLast?, content with
    | some (.text before), .text after =>
      element.children.dropLast ++ [.text (before ++ after)]
    | _, content => element.children ++ [content]
  { element with children := children }

def close (element : OpenElement) : Content :=
  .element element.uri element.tag.name element.attributes element.children

end OpenElement

/-- A document that is being read: the open elements, innermost first, and the root once its end
has been read. -/
structure Builder where
  opened : List OpenElement
  root : Option Element

namespace Builder

/-- Adds finished content to the innermost open element, or makes it the root. -/
def finish? (content : Content) (outer : List OpenElement) : Option Builder :=
  match outer, content with
  | parent :: rest, content => some ⟨parent.add content :: rest, none⟩
  | [], .element uri name attributes children =>
    some ⟨[], some ⟨uri, name, attributes, children⟩⟩
  | [], _ => none

/-- Adds character data, which stands only inside the root. -/
def addText? (builder : Builder) (text : String) : Option Builder :=
  match builder.opened with
  | [] => none
  | element :: rest => some { builder with opened := element.add (.text text) :: rest }

/-- Takes the next token. -/
def next? (builder : Builder) : Token → Option Builder
  | .start tag attributes ended =>
    if builder.root.isSome then none
    else do
      let scope := (builder.opened.head?.map (·.scope)).getD []
      let element ← OpenElement.ofTag? scope tag attributes
      if ended then finish? element.close builder.opened
      else pure { builder with opened := element :: builder.opened }
  | .finish tag =>
    match builder.opened with
    | [] => none
    | element :: outer => if element.tag = tag then finish? element.close outer else none
  | .text raw =>
    if builder.opened.isEmpty then if raw.all isSpace then some builder else none
    else (text? raw).bind builder.addText?
  | .verbatim raw => builder.addText? (verbatimText raw)
  | .remark =>
    match builder.opened with
    | [] => some builder
    | element :: rest => some { builder with opened := element.add .remark :: rest }

end Builder

/-- The root element of a document, if the document is well-formed. -/
def parse? (document : String) : Option Element := do
  let tokens ← documentTokens? document
  let builder ← tokens.foldlM Builder.next? ⟨[], none⟩
  builder.root

end Linkage.Markup
