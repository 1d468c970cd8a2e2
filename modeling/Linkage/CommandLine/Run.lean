import Linkage.CommandLine.Arguments
import Linkage.Diagnosis
import Linkage.Exclusion.Writer
import Linkage.Pairs
import Linkage.Report
import Linkage.Resolution.Origin

/-!
Running the command line on a file system.

Reports go to the standard output, failures to the standard error. The exit code is zero if no
problem was found, one if some were, and two if the run failed.
-/

set_option autoImplicit false

namespace Linkage.CommandLine

/-- What a run found out. -/
inductive Finding where
  | checked (problems : List Problem) (resolved : ResolvedClasspath)
  | compared (results : List PairResult)

namespace Finding

/-- The line for a pair. -/
def pairText (result : PairResult) : String :=
  "  " ++ result.first ++ " + " ++ result.second ++ ": " ++ toString result.problemCount ++
    " new problem" ++ (if result.problemCount = 1 then "" else "s") ++ "\n"

/-- The finding in words. -/
def text : Finding → String
  | checked problems resolved =>
    "Checked " ++ toString resolved.classpath.size ++ " classpath entries\n" ++
      Report.text problems resolved
  | compared results =>
    "Checked " ++ toString results.length ++ " pairs:\n" ++ String.join (results.map pairText)

/-- The finding as JSON. -/
def toJson : Finding → JsonValue
  | checked problems resolved =>
    .object [("type", .string "Check"), ("classpath_size", .number resolved.classpath.size),
      ("report", Report.toJson problems resolved.artifactProblems)]
  | compared results =>
    .object [("type", .string "Pairs"), ("results", .array (results.map (·.toJson)))]

/-- The number of problems that make a run unsuccessful. Problems of pairs do not. -/
def problemCount : Finding → Nat
  | checked problems _ => problems.length
  | compared _ => 0

end Finding

/-- Coordinates from their texts. -/
def coordinates (texts : List String) : Except Failure (List Coordinate) :=
  texts.mapM fun text => (Coordinate.parse text).mapError fun cause =>
    .ofError (.invalidCoordinate cause)

/-- What a class path is built from, according to the subject of a check. -/
def Subject.origin : Subject → Except Failure Origin
  | archives paths => .ok (.archives paths)
  | artifacts texts => (coordinates texts).map .artifacts
  | bom text =>
    (Coordinate.parse text).map .bom |>.mapError fun cause => .ofError (.invalidCoordinate cause)

/-- Whether the subject has artifacts, which causes are found in. -/
def Subject.hasArtifacts : Subject → Bool
  | archives _ => false
  | _ => true

/-- The configuration of a run, where `config` are the defaults. -/
def CommonOptions.configure (common : CommonOptions) (fs : FileSystem) (config : CheckerConfig) :
    Except Failure CheckerConfig := do
  let config ← match common.config with
    | some path => config.load fs path
    | none => pure config
  if common.repositories.isEmpty then pure config
  else pure { config with repositories := common.repositories }

/-- The configuration of a check. -/
def CheckOptions.configure (options : CheckOptions) (config : CheckerConfig) : CheckerConfig :=
  { config with
    onlyReachable := config.onlyReachable || options.onlyReachable
    exclusionFile := options.exclusionFile.or config.exclusionFile
    strategy := options.strategy.getD config.strategy }

/-- Writes rules for problems if a file is named for them. -/
def CheckOptions.writeExclusions (options : CheckOptions) (fs : FileSystem)
    (problems : List Problem) : Except Failure FileSystem :=
  match options.writtenExclusions with
  | none => .ok fs
  | some path =>
    (fs.write path (Utf8.encodeString (ExclusionWriter.render problems))).mapError
      (.unwritableExclusions path)

/-- Checks a class path. The files afterwards include the rules that were written. -/
def check (options : CheckOptions) (config : CheckerConfig) (fs : FileSystem) :
    Except Failure (Finding × FileSystem) := do
  let config := options.configure config
  let builder ← config.builder
  let origin ← options.subject.origin
  let (resolved, memory) := builder.build fs [] origin
  let resolved ← resolved
  let rules ← (config.rules fs).mapError .ofError
  let checker ← (Checker.create fs resolved config rules).mapError .ofError
  let problems ← (checker.selectedProblems fs config.onlyReachable).mapError .ofError
  let fs ← options.writeExclusions fs problems
  if options.subject.hasArtifacts then
    let annotated :=
      Diagnoser.annotate ⟨builder, config, fs⟩ resolved.classpath problems ⟨memory, []⟩
    pure (.checked annotated.1 resolved, fs)
  else pure (.checked problems resolved, fs)

/-- Checks the pairs of some artifacts. -/
def comparePairs (artifacts : List String) (config : CheckerConfig) (fs : FileSystem) :
    Except Failure Finding := do
  let artifacts ← coordinates artifacts
  let builder ← config.builder
  let results ← checkPairs fs builder config artifacts
  pure (.compared results)

/-- Does what a command asks for. -/
def execute (invocation : Invocation) (config : CheckerConfig) (fs : FileSystem) :
    Except Failure (Finding × FileSystem) := do
  let config ← invocation.common.configure fs config
  match invocation.command with
  | .check options => check options config fs
  | .pairs artifacts _ => (comparePairs artifacts config fs).map fun finding => (finding, fs)

/-- What a run leaves behind. -/
structure Outcome where
  exitCode : Nat
  output : String
  errors : String
  fs : FileSystem

/-- The text for something that went wrong. -/
def errorText (json : Bool) (code message : String) : String :=
  if json then
    (JsonValue.object [("ok", .bool false), ("error", .object [
      ("code", .string code), ("message", .string message)])]).render ++ "\n"
  else "Error: " ++ message ++ "\n"

/-- The outcome of a finding. -/
def Finding.outcome (finding : Finding) (json : Bool) (fs : FileSystem) : Outcome :=
  let output := if json then finding.toJson.render ++ "\n" else finding.text
  if finding.problemCount = 0 then ⟨0, output, "", fs⟩
  else
    ⟨1, output, errorText json "linkage_problems" (problemsFound finding.problemCount), fs⟩

/-- Runs a command, where `config` are the defaults. A failure leaves the files as they were. -/
def run (invocation : Invocation) (config : CheckerConfig) (fs : FileSystem) : Outcome :=
  let json := invocation.common.json
  match execute invocation config fs with
  | .ok (finding, fs) => finding.outcome json fs
  | .error failure => ⟨2, "", errorText json failure.code failure.text, fs⟩

/-- The line that tells the version. -/
def versionText : String := "linkage-checker 0.1.0\n"

/-- What arguments lead to, where `config` are the defaults; nothing if they make no sense. -/
def outcome? (arguments : List String) (config : CheckerConfig) (fs : FileSystem) :
    Option Outcome :=
  match request arguments with
  | .usage => none
  | .version => some ⟨0, versionText, "", fs⟩
  | .run invocation => some (run invocation config fs)

end Linkage.CommandLine
