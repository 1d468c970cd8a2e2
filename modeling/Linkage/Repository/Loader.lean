import Linkage.Problem
import Linkage.ClassFile.Platform
import Linkage.ClassFile.Reader

/-!
Looking classes up on a class path.

Classes whose names begin like those of the platform are looked for in its own entries, then among
the few that are described here; otherwise nothing is known of them. All other classes come from
the class path, where the first entry that defines a class counts.
-/

set_option autoImplicit false

namespace Linkage

/-- A class and where it was found. -/
structure LoadedClass where
  info : ClassInfo
  location : ClassLocation
  deriving DecidableEq, Repr

/-- What is known of a class. -/
inductive ClassLookup where
  | found (loaded : LoadedClass)
  /-- The class comes with the platform, and nothing more is known. -/
  | system
  | notFound
  deriving DecidableEq, Repr

/-- The class in a class file of an entry. -/
def ClasspathEntry.decode (entry : ClasspathEntry) (className : String) (bytes : Bytes) :
    Except CheckerError ClassInfo :=
  (ClassInfo.decode bytes).mapError (.classFormat className entry.text)

/-- The class in a class file of an entry, together with its location. -/
def ClasspathEntry.decodeLoaded (entry : ClasspathEntry) (className : String) (bytes : Bytes) :
    Except CheckerError LoadedClass :=
  (entry.decode className bytes).map fun info => ⟨info, ⟨entry, className⟩⟩

/-- Where the described classes of the platform are said to be. -/
def platformEntry : ClasspathEntry := .ofPath ⟨"jrt:/java.base"⟩

/-- Whether a class comes with the platform. -/
def isSystemClass (systemPackages : List String) (className : String) : Bool :=
  systemPackages.any (Text.startsWith className)

/-- What is known of a class of the platform that is in none of its entries. -/
def describedLookup (className : String) : ClassLookup :=
  match Platform.find? className with
  | some info => .found ⟨info, ⟨platformEntry, className⟩⟩
  | none => .system

/-- Where classes are looked for. -/
structure Loader where
  classpath : List ClasspathEntry
  bootstrap : List ClasspathEntry
  systemPackages : List String

namespace Loader

def isSystem (loader : Loader) (className : String) : Bool :=
  isSystemClass loader.systemPackages className

/-- The class from the first of some entries that defines it. -/
def loadFrom (fs : FileSystem) (className : String) :
    List ClasspathEntry → Except CheckerError (Option LoadedClass)
  | [] => .ok none
  | entry :: rest => do
    match ← entry.readClass fs className with
    | some bytes => (entry.decodeLoaded className bytes).map some
    | none => loadFrom fs className rest

/-- What is known of a class. -/
def load (loader : Loader) (fs : FileSystem) (className : String) :
    Except CheckerError ClassLookup := do
  if loader.isSystem className then
    match ← loadFrom fs className loader.bootstrap with
    | some loaded => pure (.found loaded)
    | none => pure (describedLookup className)
  else
    match ← loadFrom fs className loader.classpath with
    | some loaded => pure (.found loaded)
    | none => pure .notFound

/-- The names of the classes that can be found. -/
def classNames (loader : Loader) (fs : FileSystem) : List String :=
  (loader.classpath ++ loader.bootstrap).flatMap (fun entry =>
    match entry.classNames fs with
    | .ok names => names
    | .error _ => []) ++ Platform.names

end Loader

end Linkage
