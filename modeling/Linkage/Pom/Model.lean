import Linkage.Error
import Linkage.Ordered
import Linkage.Artifact.Dependency
import Linkage.Markup.Tree
import Linkage.Pom.Placeholder

/-!
Project descriptions as they are written.

Only the parts that decide about dependencies are kept. Texts are trimmed, and blank ones count as
missing. Of several elements with one name the first counts, except among the properties, where the
last one does.
-/

set_option autoImplicit false

namespace Linkage

/-- A dependency as a project declares or manages it. -/
structure PomDependency where
  group : String
  artifact : String
  version : Option String
  scope : Option String
  classifier : Option String
  type : Option String
  optional : Bool
  exclusions : List Key
  deriving DecidableEq, Repr

namespace PomDependency

def key (d : PomDependency) : Key := ⟨d.group, d.artifact⟩

/-- The declaration with its placeholders replaced. -/
def expand (properties : Properties) (d : PomDependency) : PomDependency :=
  let expand := Placeholder.expand properties
  { d with
    group := expand d.group
    artifact := expand d.artifact
    version := d.version.map expand
    scope := d.scope.map expand
    classifier := d.classifier.map expand
    type := d.type.map expand }

/-- Whether the declaration stands for the managed dependencies of another project. -/
def isImport (d : PomDependency) : Bool := d.scope == some "import" && d.type == some "pom"

/-- Whether the dependency brings classes. -/
def isJar (d : PomDependency) : Bool :=
  d.type == none || d.type == some "jar" || d.type == some "bundle"

/-- The artifact, if its version is known. -/
def coordinate? (d : PomDependency) : Option Coordinate :=
  d.version.bind fun version =>
    if Placeholder.isPending version then none
    else some ⟨d.group, d.artifact, version, d.classifier⟩

/-- The declaration with what it leaves open taken from a managed one. -/
def fillFrom (d managed : PomDependency) : PomDependency :=
  { d with
    version := d.version.or managed.version
    scope := d.scope.or managed.scope
    exclusions := if d.exclusions.isEmpty then managed.exclusions else d.exclusions }

/-- The dependency that the declaration stands for, if it brings classes of a known version. -/
def dependency? (d : PomDependency) : Option Dependency :=
  if d.isJar then
    d.coordinate?.map fun coordinate =>
      ⟨coordinate, (d.scope.map Scope.parse).getD .compile, d.optional, d.exclusions⟩
  else none

end PomDependency

/-- The project that another one inherits from. -/
structure PomParent where
  group : String
  artifact : String
  version : String
  deriving DecidableEq, Repr

/-- A project description as it is written. -/
structure Pom where
  group : Option String
  artifact : Option String
  version : Option String
  parent : Option PomParent
  properties : Properties
  dependencies : List PomDependency
  management : List PomDependency
  deriving DecidableEq, Repr

namespace Pom

open Markup (Element)

/-- An exclusion, if it names both group and artifact. -/
def exclusion? (element : Element) : Option Key := do
  pure ⟨← element.childText? "groupId", ← element.childText? "artifactId"⟩

/-- The exclusions of a dependency. -/
def exclusions (element : Element) : List Key :=
  match element.child? "exclusions" with
  | none => []
  | some list => (list.elements.filter (·.name == "exclusion")).filterMap exclusion?

/-- A dependency, if it names both group and artifact. -/
def dependency? (element : Element) : Option PomDependency := do
  let group ← element.childText? "groupId"
  let artifact ← element.childText? "artifactId"
  pure {
    group := group
    artifact := artifact
    version := element.childText? "version"
    scope := element.childText? "scope"
    classifier := element.childText? "classifier"
    type := element.childText? "type"
    optional := element.childText? "optional" == some "true"
    exclusions := exclusions element }

/-- The dependencies in the list of an element. -/
def dependenciesOf (element : Element) : List PomDependency :=
  match element.child? "dependencies" with
  | none => []
  | some list => (list.elements.filter (·.name == "dependency")).filterMap dependency?

/-- The parent, if it is named completely. -/
def parent? (project : Element) : Option PomParent := do
  let parent ← project.child? "parent"
  pure ⟨← parent.childText? "groupId", ← parent.childText? "artifactId",
    ← parent.childText? "version"⟩

/-- The properties of a project; one without a text is empty. -/
def propertiesOf (project : Element) : Properties :=
  match project.child? "properties" with
  | none => []
  | some list =>
    list.elements.foldl (fun properties element =>
      Ordered.put element.name (Text.trim (element.text?.getD "")) properties) []

/-- The description in a project element. -/
def ofElement (project : Element) : Pom where
  group := project.childText? "groupId"
  artifact := project.childText? "artifactId"
  version := project.childText? "version"
  parent := parent? project
  properties := propertiesOf project
  dependencies := dependenciesOf project
  management := ((project.child? "dependencyManagement").map dependenciesOf).getD []

/-- The description in a document. -/
def parse (document : String) : Except PomError Pom :=
  match Markup.parse? document with
  | none => .error .malformed
  | some root =>
    if root.name = "project" then .ok (ofElement root) else .error (.unexpectedRoot root.name)

/-- The description in a file. -/
def load (fs : FileSystem) (path : Path) : Except CheckerError Pom := do
  let document ← (fs.readText path).mapError (.io path)
  (parse document).mapError (.invalidPom path)

end Pom

end Linkage
