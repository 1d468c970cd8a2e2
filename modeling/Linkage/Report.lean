import Linkage.Classpath.Annotated
import Linkage.Json.Value
import Linkage.Text.Split

/-!
Reports on the problems of a class path.

Problems that read the same without their sources form one group, which lists the sources.
-/

set_option autoImplicit false

namespace Linkage

/-- Problems that read the same, in the order in which they were given. -/
structure ProblemGroup where
  message : String
  members : List Problem

namespace ProblemGroup

/-- Adds a problem to its group, or a group for it behind the others. -/
def add (groups : List ProblemGroup) (problem : Problem) : List ProblemGroup :=
  if groups.any (·.message == problem.text) then
    groups.map fun group =>
      if group.message == problem.text then { group with members := group.members ++ [problem] }
      else group
  else groups ++ [⟨problem.text, [problem]⟩]

/-- The groups of some problems, in the order of their first members. -/
def ofProblems (problems : List Problem) : List ProblemGroup := problems.foldl add []

/-- The line for a source class, and the cause of its problem below it. -/
def memberText (problem : Problem) : String :=
  "    " ++ problem.source.text ++ "\n" ++
    match problem.cause with
    | none => ""
    | some cause =>
      "      Cause:\n" ++
        String.join ((Text.lines cause.text).map fun line => "        " ++ line ++ "\n")

def text (group : ProblemGroup) : String :=
  group.message ++ ";\n  referenced by " ++ toString group.members.length ++ " class file" ++
    (if group.members.length = 1 then "" else "s") ++ "\n" ++
    String.join (group.members.map memberText)

/-- The cause of a problem as JSON. -/
def causeJson (cause : Cause) : JsonValue :=
  .object [("kind", .string cause.name), ("message", .string cause.text)]

/-- A source class as JSON. -/
def memberJson (problem : Problem) : JsonValue :=
  .object ([("class_name", .string problem.source.className),
    ("location", .string problem.source.entry.text)] ++
    JsonValue.optionalMember "cause" (problem.cause.map causeJson))

/-- A group as JSON. Its kind, symbol and target are those of its first member. -/
def toJson? (group : ProblemGroup) : Option JsonValue :=
  group.members.head?.map fun first =>
    .object ([("kind", .string first.kind.name), ("symbol", .string first.symbol.text),
      ("message", .string group.message)] ++
      JsonValue.optionalMember "target"
        (first.target.map fun target => .string target.entry.text) ++
      [("references", .array (group.members.map memberJson))])

end ProblemGroup

namespace Report

/-- The report as JSON. -/
def toJson (problems : List Problem) (artifactProblems : List ArtifactProblem) : JsonValue :=
  .object [("problem_count", .number problems.length),
    ("groups", .array ((ProblemGroup.ofProblems problems).filterMap (·.toJson?))),
    ("artifact_problems", JsonValue.strings (artifactProblems.map (·.text)))]

/-- The groups of some problems in words. -/
def problemsText (problems : List Problem) : String :=
  String.join ((ProblemGroup.ofProblems problems).map (·.text))

/-- The first of the entries with the same path. -/
def distinctPaths (entries : List ClasspathEntry) : List ClasspathEntry :=
  entries.foldl (fun kept entry =>
    if kept.any fun other => other.path.same entry.path then kept else kept ++ [entry]) []

/-- The artifacts whose classes have problems. -/
def problematicEntries (problems : List Problem) : List ClasspathEntry :=
  distinctPaths ((problems.map (·.source.entry)).filter (·.coordinate.isSome))

/-- The whole report: problems, artifacts without a file, and where the artifacts with problems
are in the dependency tree. -/
def text (problems : List Problem) (resolved : ResolvedClasspath) : String :=
  let found :=
    if problems.isEmpty then "No linkage problems found.\n" else problemsText problems
  let unresolved :=
    if resolved.artifactProblems.isEmpty then ""
    else "\n" ++ String.join (resolved.artifactProblems.map fun problem => problem.text ++ "\n")
  let entries := problematicEntries problems
  let located :=
    if entries.isEmpty then ""
    else
      "\nProblematic artifacts in the dependency tree:\n" ++
        resolved.classpath.describeAll entries
  found ++ unresolved ++ located

end Report

end Linkage
