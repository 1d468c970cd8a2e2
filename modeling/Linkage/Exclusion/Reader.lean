import Linkage.Exclusion.Rule
import Linkage.Markup.Tree

/-!
Reading exclusion rules from XML.

The root holds one element for each rule, with at most one `Source` and one `Target` of at least one
matcher each, and reasons, of which the last one counts. All elements are in the namespace of
exclusion files or in none.
-/

set_option autoImplicit false

namespace Linkage

/-- The namespace of exclusion files. -/
def exclusionNamespace : String :=
  "https://www.github.com/GoogleCloudPlatform/cloud-opensource-java/linkage-checker-exclusion"

namespace ExclusionReader

open Markup (Element)

/-- Checks the namespace of an element, then that its name is one of those allowed here. -/
def checkElement (allowed : List String) (element : Element) : Except ExclusionError Unit :=
  if element.uri.any (· != exclusionNamespace) then
    .error (.unexpectedNamespace (element.uri.getD "") element.name)
  else if allowed.contains element.name then .ok ()
  else .error (.unexpectedElement element.name allowed)

/-- The value that an element must have for an attribute. -/
def attributeOf (element : Element) (name : String) : Except ExclusionError String :=
  match element.attribute? name with
  | some value => .ok value
  | none => .error (.missingAttribute element.name name)

/-- A matcher from its element. -/
def matcher (allowed : List String) (element : Element) : Except ExclusionError Matcher := do
  checkElement allowed element
  match element.name with
  | "Package" => return .package (← attributeOf element "name")
  | "Class" => return .class (← attributeOf element "name")
  | "Method" =>
    let owner ← attributeOf element "className"
    return .method owner (← attributeOf element "name")
  | _ =>
    let owner ← attributeOf element "className"
    return .field owner (← attributeOf element "name")

/-- The matchers of a source or a target. -/
def matchers (allowed : List String) (element : Element) :
    Except ExclusionError (List Matcher) := do
  let matchers ← element.elements.mapM (matcher allowed)
  if matchers.isEmpty then .error (.noMatchers element.name) else pure matchers

/-- Adds one part of a rule. -/
def addPart (rule : ExclusionRule) (element : Element) : Except ExclusionError ExclusionRule := do
  checkElement ["Source", "Target", "Reason"] element
  match element.name with
  | "Source" =>
    if rule.source.isSome then .error (.duplicateSection "Source")
    else return { rule with source := some (← matchers ["Package", "Class"] element) }
  | "Target" =>
    if rule.target.isSome then .error (.duplicateSection "Target")
    else
      return { rule with
        target := some (← matchers ["Package", "Class", "Method", "Field"] element) }
  | _ => return { rule with reason := element.text?.map Text.trim }

/-- A rule from its element. -/
def rule (element : Element) : Except ExclusionError ExclusionRule := do
  checkElement ["LinkageError"] element
  element.elements.foldlM addPart (.of none none)

/-- The rules of a document. -/
def parse (document : String) : Except ExclusionError (List ExclusionRule) :=
  match Markup.parse? document with
  | none => .error .malformed
  | some root => do
    checkElement ["LinkageCheckerFilter"] root
    root.elements.mapM rule

/-- The rules of a file. -/
def load (fs : FileSystem) (path : Path) : Except CheckerError (List ExclusionRule) := do
  let document ← (fs.readText path).mapError (.io path)
  (parse document).mapError (.invalidExclusions path)

end ExclusionReader

end Linkage
