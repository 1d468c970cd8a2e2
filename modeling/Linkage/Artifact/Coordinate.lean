import Linkage.Text.Blank
import Linkage.Text.Split

/-!
Coordinates name artifacts.

A coordinate has a group, an artifact name, a version and perhaps a classifier. Without version and
classifier it is a key, the unit among whose versions one is chosen. Both have a written form;
reading either one fails with the text that was not one.
-/

set_option autoImplicit false

namespace Linkage

/-- A coordinate without its version. -/
structure Key where
  group : String
  artifact : String
  deriving DecidableEq, Repr

/-- Identifies one version of an artifact. -/
structure Coordinate where
  group : String
  artifact : String
  version : String
  classifier : Option String
  deriving DecidableEq, Repr

/-- A text that is neither a coordinate nor a key. -/
structure InvalidCoordinate where
  text : String
  deriving DecidableEq, Repr

namespace InvalidCoordinate

def message (error : InvalidCoordinate) : String :=
  "invalid coordinate `" ++ error.text ++ "`; expected groupId:artifactId[:classifier]:version"

end InvalidCoordinate

namespace Key

/-- Keys are ordered by group, then by artifact. -/
def order (a b : Key) : Ordering :=
  (compare a.group b.group).then (compare a.artifact b.artifact)

instance : Ord Key := ⟨order⟩

/-- The written form `group:artifact`. -/
def text (key : Key) : String := key.group ++ ":" ++ key.artifact

/-- Reads `group:artifact` between white space. Neither part is empty or holds a colon. -/
def parse (text : String) : Except InvalidCoordinate Key :=
  match Text.splitAt ':' (Text.trim text) with
  | [group, artifact] =>
    if group.isEmpty || artifact.isEmpty then .error ⟨text⟩ else .ok ⟨group, artifact⟩
  | _ => .error ⟨text⟩

end Key

namespace Coordinate

/-- Coordinates are ordered by group, artifact, version and classifier; no classifier comes
first. -/
def order (a b : Coordinate) : Ordering :=
  (compare a.group b.group).then <| (compare a.artifact b.artifact).then <|
    (compare a.version b.version).then (compare a.classifier b.classifier)

instance : Ord Coordinate := ⟨order⟩

/-- A coordinate without a classifier. -/
def plain (group artifact version : String) : Coordinate := ⟨group, artifact, version, none⟩

/-- The unit among whose versions one is chosen. -/
def key (c : Coordinate) : Key := ⟨c.group, c.artifact⟩

/-- The same coordinate at another version. -/
def withVersion (c : Coordinate) (version : String) : Coordinate := { c with version := version }

/-- The written form. A classifier stands behind the type, which is always `jar`. -/
def text (c : Coordinate) : String :=
  match c.classifier with
  | some classifier =>
    c.group ++ ":" ++ c.artifact ++ ":jar:" ++ classifier ++ ":" ++ c.version
  | none => c.group ++ ":" ++ c.artifact ++ ":" ++ c.version

/-- Reads `group:artifact:version`, `group:artifact:type:version` or
`group:artifact:type:classifier:version` between white space. No part is empty, and the type is
not kept. -/
def parse (text : String) : Except InvalidCoordinate Coordinate :=
  let parts := Text.splitAt ':' (Text.trim text)
  if parts.any String.isEmpty then .error ⟨text⟩
  else
    match parts with
    | [group, artifact, version] => .ok (plain group artifact version)
    | [group, artifact, _, version] => .ok (plain group artifact version)
    | [group, artifact, _, classifier, version] =>
      .ok ⟨group, artifact, version, some classifier⟩
    | _ => .error ⟨text⟩

end Coordinate

end Linkage
