import Linkage.Text.Affix
import Linkage.Text.Split
import Linkage.Markup.CharacterData

/-!
The tokens of an XML document: tags, texts, and what plays no part.

Each scanner takes the characters that remain and gives a value with the characters behind it, or
nothing if they are malformed. Document type declarations are not accepted.
-/

set_option autoImplicit false

namespace Linkage.Markup

/-- A name with a namespace abbreviation in front, which may be empty. -/
structure QualifiedName where
  qualifier : String
  name : String
  deriving DecidableEq, Repr

/-- An attribute with its value expanded. -/
structure RawAttribute where
  name : QualifiedName
  value : String
  deriving DecidableEq, Repr

/-- A piece of a document. -/
inductive Token where
  /-- A start tag; a tag may end its element at once. -/
  | start (name : QualifiedName) (attributes : List RawAttribute) (ended : Bool)
  | finish (name : QualifiedName)
  /-- White space, or other character data that is not expanded yet. -/
  | text (raw : List Char)
  /-- A section in which nothing is markup. -/
  | verbatim (raw : List Char)
  /-- A comment or a processing instruction. -/
  | remark
  deriving DecidableEq, Repr

/-- Passes over the given characters. -/
def expect? (expected : String) (cs : List Char) : Option (List Char) :=
  Text.afterStart? cs expected.toList

/-- What stands before and after the first occurrence of `marker`. -/
def upTo? (marker cs : List Char) : Option (List Char × List Char) :=
  match Text.afterStart? cs marker with
  | some after => some ([], after)
  | none =>
    match cs with
    | [] => none
    | c :: rest => (upTo? marker rest).map fun (before, after) => (c :: before, after)

/-- A name with at most one colon, where neither part starts with what cannot start a name. -/
def qualifiedName? (cs : List Char) : Option (QualifiedName × List Char) :=
  let rest := cs.dropWhile isNameChar
  match Text.split (· == ':') (cs.takeWhile isNameChar) with
  | [name] => if startsName name then some (⟨"", String.ofList name⟩, rest) else none
  | [qualifier, name] =>
    if (qualifier.isEmpty || startsName qualifier) && startsName name then
      some (⟨String.ofList qualifier, String.ofList name⟩, rest)
    else none
  | _ => none

/-- What stands between quotes, without a less-than sign. -/
def quoted? : List Char → Option (List Char × List Char)
  | [] => none
  | quote :: cs =>
    if quote == '"' || quote == '\'' then
      let isInside := fun c => c != quote && c != '<'
      let content := cs.takeWhile isInside
      match cs.dropWhile isInside with
      | closing :: rest =>
        if closing == quote && content.all isDocumentChar then some (content, rest) else none
      | [] => none
    else none

/-- A name, an equals sign and what stands between quotes. -/
def assignment? (cs : List Char) : Option ((QualifiedName × List Char) × List Char) := do
  let (name, rest) ← qualifiedName? cs
  let rest ← expect? "=" (skipSpaces rest)
  let (content, rest) ← quoted? (skipSpaces rest)
  pure ((name, content), rest)

/-- An assignment whose value can be expanded. -/
def attribute? (cs : List Char) : Option (RawAttribute × List Char) := do
  let ((name, content), rest) ← assignment? cs
  let value ← attributeValue? content
  pure (⟨name, value⟩, rest)

/-- The attributes up to the end of a tag, and whether the tag ends its element. White space must
stand before each attribute. -/
def attributes? (cs : List Char) : Option (List RawAttribute × Bool × List Char) :=
  match skipSpaces cs with
  | '>' :: rest => some ([], false, rest)
  | '/' :: '>' :: rest => some ([], true, rest)
  | inner =>
    if cs.head?.any isSpace then
      match attribute? inner with
      | none => none
      | some (first, rest) =>
        if rest.length < cs.length then
          (attributes? rest).map fun (attributes, ended, rest) =>
            (first :: attributes, ended, rest)
        else none
    else none
termination_by cs.length

/-- A start tag behind its first character. -/
def startTag? (cs : List Char) : Option (Token × List Char) := do
  let (name, rest) ← qualifiedName? cs
  let (attributes, ended, rest) ← attributes? rest
  pure (.start name attributes ended, rest)

/-- An end tag behind its first two characters. -/
def endTag? (cs : List Char) : Option (Token × List Char) := do
  let (name, rest) ← qualifiedName? cs
  let rest ← expect? ">" (skipSpaces rest)
  pure (.finish name, rest)

/-- A comment behind its opening. There are no two hyphens in it, and none at its end. -/
def comment? (cs : List Char) : Option (Token × List Char) := do
  let (content, rest) ← upTo? "-->".toList cs
  if content.all isDocumentChar && !Text.containsPart ['-', '-'] content &&
      content.getLast? != some '-' then pure (.remark, rest)
  else none

/-- A processing instruction behind its opening. A second declaration of the document is none. -/
def instruction? (cs : List Char) : Option (Token × List Char) :=
  if "xml ".toList.isPrefixOf cs || !startsName cs then none
  else do
    let (content, rest) ← upTo? "?>".toList (skipSpaces (cs.dropWhile isNameChar))
    if content.all isDocumentChar then pure (.remark, rest) else none

/-- A section without markup behind its opening. -/
def verbatim? (cs : List Char) : Option (Token × List Char) := do
  let (content, rest) ← upTo? "]]>".toList cs
  if content.all isDocumentChar then pure (.verbatim content, rest) else none

/-- Character data up to the next tag. The end of a section does not stand in it. -/
def characters? (cs : List Char) : Option (Token × List Char) :=
  let content := cs.takeWhile (· != '<')
  if content.all isDocumentChar && !Text.containsPart "]]>".toList content then
    some (.text content, cs.dropWhile (· != '<'))
  else none

/-- The token at the front. -/
def token? (cs : List Char) : Option (Token × List Char) :=
  match cs with
  | '<' :: '/' :: rest => endTag? rest
  | '<' :: '?' :: rest => instruction? rest
  | '<' :: '!' :: rest =>
    match expect? "--" rest, expect? "[CDATA[" rest with
    | some rest, _ => comment? rest
    | none, some rest => verbatim? rest
    | none, none => none
  | '<' :: rest => startTag? rest
  | _ => characters? cs

/-- All tokens of some characters. -/
def tokens? (cs : List Char) : Option (List Token) :=
  if cs.isEmpty then some []
  else
    match token? cs with
    | none => none
    | some (token, rest) =>
      if rest.length < cs.length then (tokens? rest).map (token :: ·) else none
termination_by cs.length

/-- Passes over white space, which may be missing only at the end of the declaration. -/
def gap? (cs : List Char) : Option (List Char) :=
  if cs.head?.any isSpace then some (skipSpaces cs)
  else if "?>".toList.isPrefixOf cs then some cs
  else none

/-- Passes over an assignment if the characters begin with a name. What it assigns is not looked
at. -/
def skipAssignment? (name : String) (cs : List Char) : Option (List Char) :=
  if name.toList.isPrefixOf cs then (assignment? cs).map (·.2) else none

/-- Passes over the declaration of the document behind its opening. -/
def declaration? (cs : List Char) : Option (List Char) := do
  let rest ← gap? (← skipAssignment? "version" (skipSpaces cs))
  let rest ←
    match skipAssignment? "encoding" rest with
    | some rest => gap? rest
    | none => if "encoding".toList.isPrefixOf rest then none else some rest
  let rest ←
    match skipAssignment? "standalone" rest with
    | some rest => some rest
    | none => if "standalone".toList.isPrefixOf rest then none else some rest
  expect? "?>" (skipSpaces rest)

/-- The tokens of a document. A byte order mark and then a declaration may stand in front. -/
def documentTokens? (document : String) : Option (List Token) :=
  let cs :=
    match document.toList with
    | '\ufeff' :: rest => rest
    | cs => cs
  match expect? "<?xml " cs with
  | some rest => (declaration? rest).bind tokens?
  | none => tokens? cs

end Linkage.Markup
