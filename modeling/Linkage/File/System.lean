import Linkage.Text.Utf8
import Linkage.File.Path

/-!
The file system as a value.

Files, archives and directories stand at locations: the names on the way from the working
directory, or from the root for absolute paths. A path is followed part by part; every part but the
last must name a directory, and a slash at the end asks for one. The two starting points are always
directories, and nothing is known above the working directory.

Paths and names can have a greatest length. A longer path then names nothing, so that only finitely
many paths name something.
-/

set_option autoImplicit false

namespace Linkage

/-- Why a file cannot be read or written. -/
inductive IoError where
  | notFound
  | notADirectory
  | isADirectory
  | nameTooLong
  | nullInName
  /-- The contents are not a text. -/
  | notUtf8
  deriving DecidableEq, Repr

namespace IoError

def message : IoError → String
  | notFound => "No such file or directory (os error 2)"
  | notADirectory => "Not a directory (os error 20)"
  | isADirectory => "Is a directory (os error 21)"
  | nameTooLong => "File name too long (os error 36)"
  | nullInName => "file name contained an unexpected NUL byte"
  | notUtf8 => "stream did not contain valid UTF-8"

end IoError

/-- A member of an archive. -/
structure Member where
  name : String
  bytes : Bytes
  deriving DecidableEq, Repr

/-- What stands at a location. -/
inductive Node where
  | file (bytes : Bytes)
  /-- A file that is an archive, known by its members. -/
  | archive (members : List Member)
  | directory
  deriving DecidableEq, Repr

namespace Node

/-- The archive with some members. A later member of the same name takes the place of an earlier
one. -/
def ofMembers (members : List Member) : Node :=
  .archive (members.foldl (fun kept new =>
    if kept.any (·.name == new.name) then
      kept.map fun old => if old.name == new.name then new else old
    else kept ++ [new]) [])

def isDirectory : Node → Bool
  | directory => true
  | _ => false

/-- The first bytes of an archive: the signature of its first record. -/
def archiveSignature (members : List Member) : Bytes :=
  if members.isEmpty then [0x50, 0x4B, 0x05, 0x06] else [0x50, 0x4B, 0x03, 0x04]

/-- The contents of a file. Of an archive only the signature is known. -/
def read : Node → Except IoError Bytes
  | file bytes => .ok bytes
  | archive members => .ok (archiveSignature members)
  | directory => .error .isADirectory

/-- The contents of a file as a text. The records of an archive are no text, except for the one
at its end. -/
def readText : Node → Except IoError String
  | file bytes =>
    match Utf8.decodeString bytes with
    | some text => .ok text
    | none => .error .notUtf8
  | archive [] => .ok (String.ofList (['P', 'K', '\x05', '\x06'] ++ List.replicate 18 '\x00'))
  | archive _ => .error .notUtf8
  | directory => .error .isADirectory

end Node

/-- A place for a node. -/
structure Location where
  /-- Whether the names lead from the root and not from the working directory. -/
  fromRoot : Bool
  names : List String
  deriving DecidableEq, Repr

namespace Location

def child (location : Location) (name : String) : Location :=
  { location with names := location.names ++ [name] }

/-- The directory around a location. The root is its own parent. -/
def parent? (location : Location) : Option Location :=
  if location.names.isEmpty then
    if location.fromRoot then some location else none
  else some { location with names := location.names.dropLast }

/-- Where a path starts. -/
def start (path : Path) : Location := ⟨path.isAbsolute, []⟩

/-- The location one part of a path further, whether or not something stands there. -/
def step (location : Location) (part : String) : Location :=
  if part = "" || part = "." then location
  else if part = ".." then location.parent?.getD location
  else location.child part

/-- The location that a path means, whether or not something stands there. -/
def ofPath (path : Path) : Location := path.parts.foldl step (start path)

/-- The locations that a path passes through before its last part, also those that it leaves
again. -/
def passed (path : Path) : List Location :=
  (List.range path.parts.length).map fun count =>
    (path.parts.take count).foldl step (start path)

/-- Whether a location is another one or lies below it. -/
def isWithin (location directory : Location) : Bool :=
  location.fromRoot == directory.fromRoot && directory.names.isPrefixOf location.names

end Location

/-- Everything that stands at some location, and how long paths can be. -/
structure FileSystem where
  nodes : List (Location × Node)
  /-- The number of bytes that a path must stay below, if there is such a limit. -/
  maxPathBytes : Option Nat
  /-- The most bytes that a name can have, if there is such a limit. -/
  maxNameBytes : Option Nat

namespace FileSystem

/-- A file system in which paths and names can have any length. -/
def ofNodes (nodes : List (Location × Node)) : FileSystem := ⟨nodes, none, none⟩

/-- The file system without a file, in which paths and names have the usual limits. -/
def empty : FileSystem := ⟨[], some 4096, some 255⟩

/-- The node at a location. -/
def node? (fs : FileSystem) (location : Location) : Option Node :=
  if location.names.isEmpty then some .directory else fs.nodes.lookup location

/-- Follows one part of a path. -/
def enter (fs : FileSystem) (location : Location) (part : String) : Except IoError Location :=
  match fs.node? location with
  | some .directory =>
    if part = "" || part = "." then .ok location
    else if part = ".." then
      match location.parent? with
      | some parent => .ok parent
      | none => .error .notFound
    else if fs.maxNameBytes.any (· < part.utf8ByteSize) then .error .nameTooLong
    else
      match fs.node? (location.child part) with
      | some _ => .ok (location.child part)
      | none => .error .notFound
  | some _ => .error .notADirectory
  | none => .error .notFound

/-- Whether a text can be a path at all. -/
def checkText (fs : FileSystem) (text : String) : Except IoError Unit :=
  if text.toList.contains '\x00' then .error .nullInName
  else if text.isEmpty then .error .notFound
  else if fs.maxPathBytes.any (· ≤ text.utf8ByteSize) then .error .nameTooLong
  else .ok ()

/-- The location that a path leads to. -/
def locate (fs : FileSystem) (path : Path) : Except IoError Location := do
  fs.checkText path.text
  path.parts.foldlM fs.enter (.start path)

/-- The node that a path leads to. -/
def find (fs : FileSystem) (path : Path) : Except IoError Node := do
  match fs.node? (← fs.locate path) with
  | some node => pure node
  | none => .error .notFound

def isDirectory (fs : FileSystem) (path : Path) : Bool :=
  match fs.find path with
  | .ok node => node.isDirectory
  | .error _ => false

def isFile (fs : FileSystem) (path : Path) : Bool :=
  match fs.find path with
  | .ok node => !node.isDirectory
  | .error _ => false

/-- The contents of the file at a path. -/
def read (fs : FileSystem) (path : Path) : Except IoError Bytes := do (← fs.find path).read

/-- The contents of the file at a path as a text. -/
def readText (fs : FileSystem) (path : Path) : Except IoError String := do
  (← fs.find path).readText

/-- The files below a location, by the names that lead to them from there. -/
def filesBelow (fs : FileSystem) (directory : Location) : List (List String) :=
  fs.nodes.filterMap fun (location, node) =>
    if location.isWithin directory && !node.isDirectory then
      some (location.names.drop directory.names.length)
    else none

/-- The file system with a node in the place of what stood at its location. -/
def put (fs : FileSystem) (location : Location) (node : Node) : FileSystem :=
  { fs with nodes := (location, node) :: fs.nodes.filter fun (other, _) => other != location }

/-- The file system without what stands at a location or below it. -/
def remove (fs : FileSystem) (location : Location) : FileSystem :=
  { fs with nodes := fs.nodes.filter fun (other, _) => !other.isWithin location }

/-- Writes a file. Its directory must exist, and it must not be a directory itself. A slash at the
end asks for a directory, whatever stands there. -/
def write (fs : FileSystem) (path : Path) (bytes : Bytes) : Except IoError FileSystem := do
  fs.checkText path.text
  let slashes := path.parts.reverse.takeWhile (· = "")
  match path.parts.reverse.dropWhile (· = "") with
  | [] => .error .isADirectory
  | name :: before =>
    let directory ← before.reverse.foldlM fs.enter (.start path)
    match fs.node? directory with
    | some .directory =>
      if !slashes.isEmpty || name = "." || name = ".." then .error .isADirectory
      else if fs.maxNameBytes.any (· < name.utf8ByteSize) then .error .nameTooLong
      else
        match fs.node? (directory.child name) with
        | some .directory => .error .isADirectory
        | _ => .ok (fs.put (directory.child name) (.file bytes))
    | _ => .error .notADirectory

/-- Makes directories at those locations where nothing stands. -/
def makeDirectories (fs : FileSystem) (locations : List Location) : FileSystem :=
  locations.foldl (fun fs location =>
    match fs.node? location with
    | some _ => fs
    | none => fs.put location .directory) fs

/-- Puts a node where a path leads, and directories on the way there. -/
def install (fs : FileSystem) (path : Path) (node : Node) : FileSystem :=
  let location := Location.ofPath path
  let withParents := fs.makeDirectories (Location.passed path)
  if node.isDirectory && (withParents.node? location).isSome then withParents
  else withParents.put location node

/-- Removes the file or directory at a path, with all that lies below it. -/
def delete (fs : FileSystem) (path : Path) : FileSystem := fs.remove (Location.ofPath path)

end FileSystem

end Linkage
