import Linkage.Problem

/-!
Class paths with the dependency paths that led to their entries.

Entries stand in class path order. An entry is there once, and so is each of its dependency paths.
-/

set_option autoImplicit false

namespace Linkage

/-- The entries of a class path in order, each with its dependency paths. -/
structure Classpath where
  annotated : List (ClasspathEntry × List DependencyPath)
  deriving Repr

namespace Classpath

def empty : Classpath := ⟨[]⟩

def entries (classpath : Classpath) : List ClasspathEntry := classpath.annotated.map (·.1)

def size (classpath : Classpath) : Nat := classpath.annotated.length

def contains (classpath : Classpath) (entry : ClasspathEntry) : Bool :=
  classpath.entries.any entry.same

/-- Appends an entry unless it is there. -/
def insertEntry (classpath : Classpath) (entry : ClasspathEntry) : Classpath :=
  if classpath.contains entry then classpath else ⟨classpath.annotated ++ [(entry, [])]⟩

/-- Appends a path unless it is there. -/
def addPath (paths : List DependencyPath) (path : DependencyPath) : List DependencyPath :=
  if paths.contains path then paths else paths ++ [path]

/-- Records a dependency path for an entry, which is appended unless it is there. -/
def insert (classpath : Classpath) (entry : ClasspathEntry) (path : DependencyPath) : Classpath :=
  ⟨(classpath.insertEntry entry).annotated.map fun (other, paths) =>
    if entry.same other then (other, addPath paths path) else (other, paths)⟩

/-- The dependency paths of an entry. -/
def paths (classpath : Classpath) (entry : ClasspathEntry) : List DependencyPath :=
  ((classpath.annotated.find? fun (other, _) => entry.same other).map (·.2)).getD []

/-- The entry that was selected for a key. -/
def entryForKey? (classpath : Classpath) (key : Key) : Option ClasspathEntry :=
  classpath.entries.find? fun entry => entry.coordinate.any (·.key == key)

/-- The entry of an artifact. -/
def entryFor? (classpath : Classpath) (coordinate : Coordinate) : Option ClasspathEntry :=
  classpath.entries.find? (·.coordinate == some coordinate)

/-- Where an entry is in the dependency tree, in words. -/
def describe (classpath : Classpath) (entry : ClasspathEntry) : String :=
  match classpath.paths entry with
  | [] => entry.text ++ " is not in any dependency path.\n"
  | first :: rest =>
    entry.text ++ " is at:\n  " ++ first.text ++ "\n" ++
      if rest.isEmpty then ""
      else
        "  and " ++ toString rest.length ++ " dependency path" ++
          (if rest.length = 1 then "" else "s") ++ ".\n"

/-- Where entries are in the dependency tree, one after another. -/
def describeAll (classpath : Classpath) (entries : List ClasspathEntry) : String :=
  String.join (entries.map classpath.describe)

end Classpath

/-- A class path together with how it came about. -/
structure ResolvedClasspath where
  classpath : Classpath
  /-- The entries whose classes are used from outside. -/
  entryPoints : List ClasspathEntry
  artifactProblems : List ArtifactProblem
  deriving Repr

namespace ResolvedClasspath

def empty : ResolvedClasspath := ⟨.empty, [], []⟩

def entries (resolved : ResolvedClasspath) : List ClasspathEntry := resolved.classpath.entries

/-- A class path of archives as they are, all of which are used from outside. -/
def ofPaths (paths : List Path) : ResolvedClasspath :=
  let entries := paths.map ClasspathEntry.ofPath
  ⟨entries.foldl (fun classpath entry => classpath.insert entry .empty) .empty, entries, []⟩

/-- The class path with only those entries used from outside that have one of some paths. -/
def restrict (resolved : ResolvedClasspath) (paths : List Path) : ResolvedClasspath :=
  { resolved with
    entryPoints := resolved.entryPoints.filter fun entry => paths.any entry.path.same }

end ResolvedClasspath

end Linkage
