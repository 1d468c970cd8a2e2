import Linkage.Artifact.Coordinate
import Linkage.ClassFile.FormatError
import Linkage.File.System

/-!
What stops a check.

Problems of the checked classes are findings and not errors. An error says that the input cannot
be read: each one is a cause with its data, and `message` words it.
-/

set_option autoImplicit false

namespace Linkage

/-- Why a text is not a list of exclusion rules. -/
inductive ExclusionError where
  /-- The text is not well-formed markup. -/
  | malformed
  | unexpectedNamespace (uri element : String)
  | unexpectedElement (element : String) (allowed : List String)
  | missingAttribute (element name : String)
  | noMatchers (part : String)
  | duplicateSection (part : String)
  deriving DecidableEq, Repr

namespace ExclusionError

def message : ExclusionError → String
  | malformed => "not well-formed"
  | unexpectedNamespace uri element => "unexpected namespace " ++ uri ++ " on <" ++ element ++ ">"
  | unexpectedElement element allowed =>
    "unexpected element <" ++ element ++ ">; expected one of " ++ ", ".intercalate allowed
  | missingAttribute element name =>
    "<" ++ element ++ "> requires a " ++ name ++ " attribute"
  | noMatchers part => "<" ++ part ++ "> has no matchers"
  | duplicateSection part => "duplicate <" ++ part ++ "> in <LinkageError>"

end ExclusionError

/-- Why a project description is not one. -/
inductive PomError where
  /-- The text is not well-formed markup. -/
  | malformed
  | unexpectedRoot (element : String)
  | parentChainTooDeep
  deriving DecidableEq, Repr

namespace PomError

def message : PomError → String
  | malformed => "not well-formed"
  | unexpectedRoot element => "unexpected root element <" ++ element ++ ">"
  | parentChainTooDeep => "parent chain is too deep"

end PomError

/-- What stops a check. -/
inductive CheckerError where
  | emptyClasspath
  | io (path : Path) (cause : IoError)
  /-- A file that is not an archive, or an archive without a member that it should have. -/
  | archive (path : Path)
  | classFormat (className location : String) (cause : FormatError)
  | invalidCoordinate (cause : InvalidCoordinate)
  | invalidExclusions (path : Path) (cause : ExclusionError)
  | invalidPom (path : Path) (cause : PomError)
  | artifactNotFound (artifact : String)
  deriving DecidableEq, Repr

namespace CheckerError

/-- The text of an unreadable archive's cause. -/
def archiveCause : String := "invalid Zip archive"

def message : CheckerError → String
  | emptyClasspath => "the linkage classpath is empty; supply one or more jar files"
  | io path cause => "failed to read " ++ path.text ++ ": " ++ cause.message
  | archive path => "failed to open archive " ++ path.text ++ ": " ++ archiveCause
  | classFormat className location cause =>
    "malformed class " ++ className ++ " in " ++ location ++ ": " ++ cause.message
  | invalidCoordinate cause => cause.message
  | invalidExclusions path cause =>
    "invalid exclusion file " ++ path.text ++ ": " ++ cause.message
  | invalidPom path cause => "invalid POM " ++ path.text ++ ": " ++ cause.message
  | artifactNotFound artifact => artifact ++ " was not found in any local repository"

/-- The text of the error that this one was raised for, if it is a separate error. -/
def causeMessage? : CheckerError → Option String
  | io _ cause => some cause.message
  | archive _ => some archiveCause
  | classFormat _ _ cause => some cause.message
  | _ => none

end CheckerError

end Linkage
