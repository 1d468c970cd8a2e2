import Linkage.Error
import Linkage.Ordered

/-!
Entries of a class path: archives and directories of class files.

An entry defines the classes whose files it holds. The name of a class follows from the name of
its file; a class is read back from the file that its name leads to.
-/

set_option autoImplicit false

namespace Linkage

/-- The end of the names of class files. -/
def classFileEnding : String := ".class"

/-- The class that a file with a relative name defines. Files for other releases and the
descriptions of modules and packages define none. -/
def classOfFile? (fileName : String) : Option String :=
  match Text.beforeEnd? fileName.toList classFileEnding.toList with
  | none => none
  | some stem =>
    if "META-INF/".toList.isPrefixOf stem || "module-info".toList.isSuffixOf stem ||
        "package-info".toList.isSuffixOf stem then none
    else some (Text.replaceChar '/' '.' (String.ofList (stem.dropWhile (· == '/'))))

/-- The relative name of the file of a class. -/
def fileOfClass (className : String) : String :=
  Text.replaceChar '.' '/' className ++ classFileEnding

/-- One archive or directory, perhaps known as an artifact. -/
structure ClasspathEntry where
  path : Path
  coordinate : Option Coordinate
  deriving DecidableEq, Repr

namespace ClasspathEntry

/-- An entry that is not known as an artifact. -/
def ofPath (path : Path) : ClasspathEntry := ⟨path, none⟩

/-- Entries are ordered by path, then by artifact. -/
def order (a b : ClasspathEntry) : Ordering :=
  (compare a.path b.path).then (compare a.coordinate b.coordinate)

instance : Ord ClasspathEntry := ⟨order⟩

/-- Whether two entries have the same path and artifact. -/
def same (a b : ClasspathEntry) : Bool := a.order b == .eq

/-- The artifact of the entry, or else its path. -/
def text (entry : ClasspathEntry) : String :=
  match entry.coordinate with
  | some coordinate => coordinate.text
  | none => entry.path.text

/-- The members of an entry that is an archive. -/
def members (entry : ClasspathEntry) (fs : FileSystem) : Except CheckerError (List Member) :=
  match fs.find entry.path with
  | .error cause => .error (.io entry.path cause)
  | .ok (.archive members) => .ok members
  | .ok _ => .error (.archive entry.path)

/-- The names of the files of an entry, relative to it. A reverse slash counts as a slash in
directories. -/
def fileNames (entry : ClasspathEntry) (fs : FileSystem) : Except CheckerError (List String) :=
  if fs.isDirectory entry.path then
    match fs.locate entry.path with
    | .error cause => .error (.io entry.path cause)
    | .ok location =>
      .ok ((fs.filesBelow location).map fun names =>
        Text.replaceChar '\\' '/' ("/".intercalate names))
  else (entry.members fs).map fun members => members.map (·.name)

/-- The classes that an entry defines, in order. -/
def classNames (entry : ClasspathEntry) (fs : FileSystem) : Except CheckerError (List String) :=
  (entry.fileNames fs).map fun names => Ordered.ofList (names.filterMap classOfFile?)

/-- The file of a class in an entry that is a directory. -/
def readFile (entry : ClasspathEntry) (fs : FileSystem) (className : String) :
    Except CheckerError Bytes :=
  let path := entry.path.join ⟨fileOfClass className⟩
  (fs.read path).mapError (.io path)

/-- The member of an archive with the file of a class. -/
def readMember (entry : ClasspathEntry) (fs : FileSystem) (className : String) :
    Except CheckerError Bytes := do
  match (← entry.members fs).find? (·.name == fileOfClass className) with
  | some member => pure member.bytes
  | none => .error (.archive entry.path)

/-- The bytes of a class, when `names` are the classes that the entry was found to define. -/
def readListed (entry : ClasspathEntry) (fs : FileSystem) (className : String)
    (names : List String) : Except CheckerError (Option Bytes) :=
  if names.contains className then
    if fs.isDirectory entry.path then (entry.readFile fs className).map some
    else (entry.readMember fs className).map some
  else .ok none

/-- The bytes of every class, when `names` are the classes that the entry was found to define.
A directory gives them by name, and an archive in the order of its members. -/
def readAllListed (entry : ClasspathEntry) (fs : FileSystem) (names : List String) :
    Except CheckerError (List (String × Bytes)) :=
  if fs.isDirectory entry.path then
    names.mapM fun name => (entry.readFile fs name).map fun bytes => (name, bytes)
  else
    (entry.members fs).map fun members => members.filterMap fun member =>
      (classOfFile? member.name).map fun name => (name, member.bytes)

/-- Whether an entry defines a class. -/
def defines (entry : ClasspathEntry) (fs : FileSystem) (className : String) :
    Except CheckerError Bool :=
  (entry.classNames fs).map (·.contains className)

/-- The bytes of a class, if the entry defines it. -/
def readClass (entry : ClasspathEntry) (fs : FileSystem) (className : String) :
    Except CheckerError (Option Bytes) := do
  entry.readListed fs className (← entry.classNames fs)

/-- The bytes of every class that the entry defines. -/
def readAll (entry : ClasspathEntry) (fs : FileSystem) :
    Except CheckerError (List (String × Bytes)) := do
  entry.readAllListed fs (← entry.classNames fs)

end ClasspathEntry

/-- An entry in use, which remembers the classes that it was first found to define. -/
structure OpenEntry where
  entry : ClasspathEntry
  listed : Option (List String)

namespace OpenEntry

/-- An entry that has not been used yet. -/
def ofEntry (entry : ClasspathEntry) : OpenEntry := ⟨entry, none⟩

/-- Uses the classes that the entry defines. They are remembered even if the use fails, but not a
failure to list them. -/
def withNames {α : Type} (opened : OpenEntry) (fs : FileSystem)
    (use : List String → Except CheckerError α) : Except CheckerError α × OpenEntry :=
  match opened.listed with
  | some names => (use names, opened)
  | none =>
    match opened.entry.classNames fs with
    | .ok names => (use names, { opened with listed := some names })
    | .error error => (.error error, opened)

def classNames (opened : OpenEntry) (fs : FileSystem) :
    Except CheckerError (List String) × OpenEntry :=
  opened.withNames fs .ok

def defines (opened : OpenEntry) (fs : FileSystem) (className : String) :
    Except CheckerError Bool × OpenEntry :=
  opened.withNames fs fun names => .ok (names.contains className)

def readClass (opened : OpenEntry) (fs : FileSystem) (className : String) :
    Except CheckerError (Option Bytes) × OpenEntry :=
  opened.withNames fs (opened.entry.readListed fs className)

def readAll (opened : OpenEntry) (fs : FileSystem) :
    Except CheckerError (List (String × Bytes)) × OpenEntry :=
  opened.withNames fs (opened.entry.readAllListed fs)

end OpenEntry

end Linkage
