import Linkage.File.Path
import Linkage.Resolution.Mediation
import Linkage.Text.Split

/-!
The arguments of the command line.

Options have a name behind two hyphens, and some also a letter behind one. A value follows its
option as the next argument or behind an equals sign. An argument that starts with a hyphen is a
value only behind an equals sign or if it is a hyphen alone. Options without a list of values occur
at most once at each level, that is, in front of the command or behind it.
-/

set_option autoImplicit false

namespace Linkage.CommandLine

/-- An option as it can be given. -/
structure OptionSpec where
  name : String
  letter : Option Char
  takesValue : Bool

/-- An option as it was given; the value of a flag is empty. -/
structure Occurrence where
  name : String
  value : String
  deriving DecidableEq, Repr

/-- What follows the options. -/
inductive Ending where
  | finished
  /-- A first argument that is no option, and all that follows. -/
  | word (text : String) (rest : List String)
  | malformed
  deriving DecidableEq, Repr

/-- What one argument is. -/
inductive Reading where
  | word
  /-- The mark behind which nothing is an option. -/
  | separator
  | complete (occurrence : Occurrence)
  /-- An option whose value is to follow. -/
  | awaiting (name : String)
  | malformed

/-- Reads an option, perhaps with a value attached to it. -/
def readNamed (spec : OptionSpec) (attached : Option String) : Reading :=
  match spec.takesValue, attached with
  | true, some value => .complete ⟨spec.name, value⟩
  | true, none => .awaiting spec.name
  | false, none => .complete ⟨spec.name, ""⟩
  | false, some _ => .malformed

/-- Reads what stands behind two hyphens. -/
def readLong (specs : List OptionSpec) (body : List Char) : Reading :=
  let (name, attached) :=
    match Text.splitOnce (· == '=') body with
    | some (name, value) => (String.ofList name, some (String.ofList value))
    | none => (String.ofList body, none)
  match specs.find? (·.name == name) with
  | some spec => readNamed spec attached
  | none => .malformed

/-- Reads what stands behind one hyphen. Behind the letter of a flag nothing matters, because such a
flag ends the reading. -/
def readShort (specs : List OptionSpec) (letter : Char) (body : List Char) : Reading :=
  match specs.find? (·.letter == some letter) with
  | none => .malformed
  | some spec =>
    if spec.takesValue then
      match body with
      | [] => .awaiting spec.name
      | '=' :: value => .complete ⟨spec.name, String.ofList value⟩
      | value => .complete ⟨spec.name, String.ofList value⟩
    else .complete ⟨spec.name, ""⟩

/-- Reads one argument. -/
def readArgument (specs : List OptionSpec) (argument : String) : Reading :=
  match argument.toList with
  | ['-', '-'] => .separator
  | '-' :: '-' :: body => readLong specs body
  | '-' :: letter :: body => readShort specs letter body
  | _ => .word

/-- Whether an argument can be the value of the option in front of it. -/
def isValue (argument : String) : Bool :=
  match argument.toList with
  | '-' :: _ :: _ => false
  | _ => true

/-- Reads options up to the first argument that is none. -/
def scan (specs : List OptionSpec) : List String → List Occurrence × Ending
  | [] => ([], .finished)
  | argument :: rest =>
    match readArgument specs argument with
    | .word => ([], .word argument rest)
    | .separator => ([], if rest.isEmpty then .finished else .malformed)
    | .malformed => ([], .malformed)
    | .complete occurrence =>
      let (occurrences, ending) := scan specs rest
      (occurrence :: occurrences, ending)
    | .awaiting name =>
      match rest with
      | [] => ([], .malformed)
      | value :: rest =>
        if isValue value then
          let (occurrences, ending) := scan specs rest
          (⟨name, value⟩ :: occurrences, ending)
        else ([], .malformed)

/-- The values of an option. -/
def values (occurrences : List Occurrence) (name : String) : List String :=
  (occurrences.filter (·.name == name)).map (·.value)

/-- The value of an option that occurs at most once. -/
def single? (occurrences : List Occurrence) (name : String) : Option (Option String) :=
  match values occurrences name with
  | [] => some none
  | [value] => some (some value)
  | _ => none

/-- Whether a flag that occurs at most once is given. -/
def flag? (occurrences : List Occurrence) (name : String) : Option Bool :=
  (single? occurrences name).map (·.isSome)

/-- A path, which must not be empty. -/
def path? (text : String) : Option Path := if text.isEmpty then none else some ⟨text⟩

/-- The path of an option that occurs at most once. -/
def singlePath? (occurrences : List Occurrence) (name : String) : Option (Option Path) := do
  (← single? occurrences name).mapM path?

/-- The values of an option that may hold several between commas. -/
def listValues (occurrences : List Occurrence) (name : String) : List String :=
  (values occurrences name).flatMap fun value =>
    (Text.split (· == ',') value.toList).map String.ofList

/-- A number of at most 64 bits, perhaps with a plus sign. -/
def count? (text : String) : Option Nat :=
  let digits := match text.toList with
    | '+' :: rest => rest
    | rest => rest
  if digits.isEmpty || !digits.all Char.isDigit then none
  else
    let value := digits.foldl (fun n c => 10 * n + (c.toNat - '0'.toNat)) 0
    if value < UInt64.size then some value else none

/-- Options that may stand in front of the command as well as behind it. -/
structure CommonOptions where
  repositories : List Path
  config : Option Path
  json : Bool
  deriving DecidableEq, Repr

namespace CommonOptions

def specs : List OptionSpec := [
  ⟨"repository", some 'r', true⟩, ⟨"config", none, true⟩, ⟨"json", none, false⟩]

def ofOccurrences? (occurrences : List Occurrence) : Option CommonOptions := do
  let repositories ← (values occurrences "repository").mapM path?
  let config ← singlePath? occurrences "config"
  let json ← flag? occurrences "json"
  pure ⟨repositories, config, json⟩

/-- The options of both places. What stands behind the command counts if both places give a
value. -/
def merge (outer inner : CommonOptions) : CommonOptions where
  repositories := if inner.repositories.isEmpty then outer.repositories else inner.repositories
  config := inner.config.or outer.config
  json := outer.json || inner.json

end CommonOptions

/-- What is to be checked, as it was given. -/
inductive Subject where
  | bom (text : String)
  | artifacts (texts : List String)
  | archives (paths : List Path)
  deriving DecidableEq, Repr

/-- The options of a check. -/
structure CheckOptions where
  subject : Subject
  onlyReachable : Bool
  exclusionFile : Option Path
  /-- Where rules for the problems that were found are written. -/
  writtenExclusions : Option Path
  strategy : Option MediationStrategy
  deriving DecidableEq, Repr

/-- What is to be done. -/
inductive Command where
  | check (options : CheckOptions)
  /-- The number says how many checks may be under way at a time. No result depends on it. -/
  | pairs (artifacts : List String) (concurrency : Nat)
  deriving DecidableEq, Repr

/-- A command with its options. -/
structure Invocation where
  common : CommonOptions
  command : Command
  deriving DecidableEq, Repr

/-- What arguments ask for. -/
inductive Request where
  | run (invocation : Invocation)
  | version
  /-- Arguments that make no sense. -/
  | usage
  deriving DecidableEq, Repr

def checkSpecs : List OptionSpec := CommonOptions.specs ++ [
  ⟨"bom", none, true⟩, ⟨"artifacts", none, true⟩, ⟨"jars", none, true⟩,
  ⟨"reachable-only", none, false⟩, ⟨"exclusion-file", none, true⟩,
  ⟨"write-exclusion-file", none, true⟩, ⟨"mediation", none, true⟩]

def pairsSpecs : List OptionSpec := CommonOptions.specs ++ [
  ⟨"artifacts", none, true⟩, ⟨"concurrency", none, true⟩]

def outerSpecs : List OptionSpec := CommonOptions.specs ++ [⟨"version", some 'V', false⟩]

/-- The subject of a check. Exactly one kind of subject is given. -/
def subject? (occurrences : List Occurrence) : Option Subject := do
  let bom ← single? occurrences "bom"
  let artifacts := listValues occurrences "artifacts"
  let archives ← (listValues occurrences "jars").mapM path?
  match bom, artifacts, archives with
  | some bom, [], [] => pure (.bom bom)
  | none, _ :: _, [] => pure (.artifacts artifacts)
  | none, [], _ :: _ => pure (.archives archives)
  | _, _, _ => none

/-- A strategy by its name. -/
def strategy? (text : String) : Option MediationStrategy := (MediationStrategy.parse text).toOption

def check? (occurrences : List Occurrence) : Option Command := do
  let subject ← subject? occurrences
  let onlyReachable ← flag? occurrences "reachable-only"
  let exclusionFile ← singlePath? occurrences "exclusion-file"
  let writtenExclusions ← singlePath? occurrences "write-exclusion-file"
  let strategy ← (← single? occurrences "mediation").mapM strategy?
  pure (.check ⟨subject, onlyReachable, exclusionFile, writtenExclusions, strategy⟩)

def pairs? (occurrences : List Occurrence) : Option Command := do
  let concurrency ← ((← single? occurrences "concurrency").getD "4" |> count?)
  match listValues occurrences "artifacts" with
  | [] => none
  | artifacts => pure (.pairs artifacts concurrency)

/-- Reads what follows the name of a command. -/
def command? (outer : CommonOptions) (specs : List OptionSpec)
    (read : List Occurrence → Option Command) (rest : List String) : Option Invocation :=
  match scan specs rest with
  | (occurrences, .finished) => do
    let inner ← CommonOptions.ofOccurrences? occurrences
    pure ⟨outer.merge inner, ← read occurrences⟩
  | _ => none

/-- Reads the name of a command and what follows. -/
def invocation? (outer : CommonOptions) (name : String) (rest : List String) :
    Option Invocation :=
  match name with
  | "check" => command? outer checkSpecs check? rest
  | "pairs" => command? outer pairsSpecs pairs? rest
  | _ => none

/-- Reads arguments. The request for the version counts as soon as it is met, so only what stands in
front of it must make sense. -/
def request (arguments : List String) : Request :=
  let (occurrences, ending) := scan outerSpecs arguments
  let before := occurrences.takeWhile (·.name != "version")
  match CommonOptions.ofOccurrences? before with
  | none => .usage
  | some outer =>
    if before.length < occurrences.length then .version
    else
      match ending with
      | .word name rest =>
        match invocation? outer name rest with
        | some invocation => .run invocation
        | none => .usage
      | _ => .usage

end Linkage.CommandLine
