import Linkage.Archive.Zip
import Linkage.CommandLine.Run
import Linkage.Resolution.Mention

/-!
The command line program.

The files that a run can ask for are read first: those that the arguments name, and the files of all
artifacts that the given ones lead to. Then the run itself works on these files alone.
-/

set_option autoImplicit false

namespace Linkage.Main

open CommandLine

/-- Adds the file at a path, if there is one. -/
def addFile (fs : FileSystem) (path : Path) : IO FileSystem := do
  try
    let bytes ← IO.FS.readBinFile path.text
    pure (fs.install path (Zip.nodeOf bytes))
  catch _ => pure fs

/-- Adds the files of artifacts and of those that they lead to. -/
partial def addArtifacts (repositories : LocalRepositories) (fs : FileSystem)
    (known pending : List Coordinate) : IO FileSystem := do
  match pending.filter (!known.contains ·) with
  | [] =>
    let found := (known.flatMap (repositories.mentions fs)).filter (!known.contains ·)
    if found.isEmpty then pure fs else addArtifacts repositories fs known found
  | new =>
    let fs ← (new.flatMap repositories.candidates).foldlM addFile fs
    addArtifacts repositories fs (known ++ new.eraseDups) (new.flatMap (repositories.mentions fs))

/-- The artifacts that a command names, as far as their texts make sense. -/
def artifactsOf : Command → List Coordinate
  | .pairs texts _ => texts.filterMap fun text => (Coordinate.parse text).toOption
  | .check options =>
    match options.subject with
    | .bom text => [text].filterMap fun text => (Coordinate.parse text).toOption
    | .artifacts texts => texts.filterMap fun text => (Coordinate.parse text).toOption
    | .archives _ => []

/-- The files that a command names, apart from those of artifacts. -/
def filesOf (config : CheckerConfig) : Command → List Path
  | .pairs _ _ => config.exclusionFile.toList ++ config.bootstrap
  | .check options =>
    (options.exclusionFile.or config.exclusionFile).toList ++ config.bootstrap ++
      match options.subject with
      | .archives paths => paths
      | _ => []

/-- The file that a command writes. -/
def writtenFile? : Command → Option Path
  | .check options => options.writtenExclusions
  | .pairs _ _ => none

/-- Reads the files that a command can ask for. -/
def load (invocation : Invocation) (defaults : CheckerConfig) : IO FileSystem := do
  let fs ← invocation.common.config.toList.foldlM addFile .empty
  match invocation.common.configure fs defaults with
  | .error _ => pure fs
  | .ok config =>
    let fs ← (filesOf config invocation.command).foldlM addFile fs
    let fs ← addArtifacts ⟨config.repositories⟩ fs [] (artifactsOf invocation.command)
    match writtenFile? invocation.command with
    | none => pure fs
    | some path =>
      pure (fs.makeDirectories (Location.passed path))

/-- Writes the file of a command that did not fail. -/
def save (invocation : Invocation) (outcome : Outcome) : IO Unit := do
  if outcome.exitCode < 2 then
    match writtenFile? invocation.command with
    | none => pure ()
    | some path =>
      match outcome.fs.read path with
      | .ok bytes => IO.FS.writeBinFile path.text ⟨bytes.toArray⟩
      | .error _ => pure ()

/-- Shows an outcome. -/
def display (outcome : Outcome) : IO UInt32 := do
  IO.print outcome.output
  IO.eprint outcome.errors
  pure outcome.exitCode.toUInt32

/-- What is said when arguments make no sense. -/
def usageText : String :=
  "Usage: linkage-checker [-r PATH] [--config PATH] [--json] check|pairs OPTIONS\n"

/-- Does what the arguments ask for, and gives the exit code. -/
def runArguments (arguments : List String) (home : Option String) : IO UInt32 := do
  let defaults := CheckerConfig.default (home.map Path.mk)
  match request arguments with
  | .usage =>
    IO.eprint usageText
    pure 2
  | .version => display ⟨0, versionText, "", .empty⟩
  | .run invocation =>
    let fs ← load invocation defaults
    let outcome := run invocation defaults fs
    try
      save invocation outcome
      display outcome
    catch _ =>
      let path := (writtenFile? invocation.command).getD ⟨""⟩
      let failure := Failure.unwritableExclusions path .notFound
      display ⟨2, "", errorText invocation.common.json failure.code failure.text, fs⟩

end Linkage.Main

def main (arguments : List String) : IO UInt32 := do
  Linkage.Main.runArguments arguments (← IO.getEnv "HOME")
