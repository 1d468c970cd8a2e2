import Linkage.Error

/-!
Failures of a whole run: an error together with what was being done, or trouble with one of the
files that the run itself uses.
-/

set_option autoImplicit false

namespace Linkage

/-- What was being done when an error arose. -/
inductive Activity where
  | readingPlatformKey (key : String)
  | readingBom (bom : Coordinate)
  | checking (roots : List Coordinate)
  deriving DecidableEq, Repr

namespace Activity

/-- What is said of an activity that failed. -/
def message : Activity → String
  | readingPlatformKey key => "Invalid enforced platform key `" ++ key ++ "`"
  | readingBom bom => "Failed to read BOM " ++ bom.text
  | checking roots => "Failed to check " ++ " + ".intercalate (roots.map (·.text))

end Activity

/-- Why a run failed. -/
inductive Failure where
  | checker (activity : Option Activity) (error : CheckerError)
  | unreadableConfig (path : Path) (cause : IoError)
  | malformedConfig (path : Path)
  | unwritableExclusions (path : Path) (cause : IoError)
  deriving DecidableEq, Repr

namespace Failure

/-- A checker error on its own. -/
def ofError (error : CheckerError) : Failure := checker none error

/-- A checker error that arose during an activity. -/
def during (activity : Activity) (error : CheckerError) : Failure := checker (some activity) error

/-- The messages of a failure and of what it was caused by, outermost first. -/
def messages : Failure → List String
  | checker activity error =>
    (activity.map (·.message)).toList ++ error.message :: error.causeMessage?.toList
  | unreadableConfig path cause => ["Failed to read config: " ++ path.text, cause.message]
  | malformedConfig path => ["Failed to parse config: " ++ path.text, "malformed JSON"]
  | unwritableExclusions path cause =>
    ["Failed to write exclusion file: " ++ path.text, cause.message]

/-- The outermost message. -/
def message (failure : Failure) : String := failure.messages.headD ""

/-- All messages in one line. -/
def text (failure : Failure) : String := ": ".intercalate failure.messages

/-- A word for the kind of a failure. -/
def code : Failure → String
  | checker _ error =>
    match error with
    | .emptyClasspath => "empty_classpath"
    | .io _ _ => "io"
    | .archive _ => "io"
    | .classFormat _ _ _ => "class_format"
    | .invalidCoordinate _ => "invalid_coordinate"
    | .invalidExclusions _ _ => "invalid_exclusion_file"
    | .invalidPom _ _ => "invalid_pom"
    | .artifactNotFound _ => "artifact_not_found"
  | _ => "error"

end Failure

end Linkage
