import Linkage.Artifact.Coordinate
import Linkage.File.System

/-!
Where local repositories keep the files of artifacts.

The group, with a directory for each of its parts, the artifact and the version lead to a file that
is named for artifact, version and classifier. Of several repositories the first one that has a file
counts.
-/

set_option autoImplicit false

namespace Linkage

/-- The repositories to look in, in order. -/
structure LocalRepositories where
  roots : List Path

namespace LocalRepositories

/-- The repository in a home directory, if there is one. -/
def ofHome (home : Option Path) : LocalRepositories :=
  ⟨home.toList.map (·.join ⟨".m2/repository"⟩)⟩

/-- The name of the file of an artifact. -/
def fileName (c : Coordinate) (ending : String) (classifier : Option String) : String :=
  c.artifact ++ "-" ++ c.version ++ ((classifier.map ("-" ++ ·)).getD "") ++ "." ++ ending

/-- The path of the file of an artifact below a repository. -/
def relativePath (c : Coordinate) (ending : String) (classifier : Option String) : Path :=
  (((Path.mk (Text.replaceChar '.' '/' c.group)).join ⟨c.artifact⟩).join ⟨c.version⟩).join
    ⟨fileName c ending classifier⟩

/-- The first file at a path below a repository. If the parts of a coordinate make the path
absolute, then it leads to a file outside of the repositories. -/
def locate (repositories : LocalRepositories) (fs : FileSystem) (relative : Path) : Option Path :=
  (repositories.roots.map (·.join relative)).find? fs.isFile

/-- The file with the classes of an artifact. -/
def jarPath (repositories : LocalRepositories) (fs : FileSystem) (c : Coordinate) : Option Path :=
  repositories.locate fs (relativePath c "jar" c.classifier)

/-- The description of an artifact, which is the same for every classifier. -/
def pomPath (repositories : LocalRepositories) (fs : FileSystem) (c : Coordinate) : Option Path :=
  repositories.locate fs (relativePath c "pom" none)

end LocalRepositories

end Linkage
