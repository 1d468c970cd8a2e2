import Linkage.Repository.Loader
import Linkage.Repository.Lru

/-!
Class lookups that remember what has been read.

A repository remembers which classes its entries define, and the last lookups if it has a cache.
Errors are not remembered. As long as the files stay the same, it answers as the loader does.
-/

set_option autoImplicit false

namespace Linkage

/-- A loader in use. -/
structure Repository where
  classpath : List OpenEntry
  bootstrap : List OpenEntry
  systemPackages : List String
  cache : Option (Lru String ClassLookup)

namespace Repository

/-- A repository that has not been used. -/
def ofLoader (loader : Loader) (cache : Option (Lru String ClassLookup)) : Repository :=
  ⟨loader.classpath.map .ofEntry, loader.bootstrap.map .ofEntry, loader.systemPackages, cache⟩

/-- A repository that remembers a number of lookups; zero means none at all. -/
def ofCapacity (loader : Loader) (capacity : Nat) : Repository :=
  ofLoader loader (if capacity = 0 then none else some (.ofCapacity capacity))

def isSystem (repository : Repository) (className : String) : Bool :=
  isSystemClass repository.systemPackages className

/-- The class from the first of some entries that defines it. -/
def loadFrom (fs : FileSystem) (className : String) :
    List OpenEntry → Except CheckerError (Option LoadedClass) × List OpenEntry
  | [] => (.ok none, [])
  | opened :: rest =>
    match opened.readClass fs className with
    | (.error error, opened) => (.error error, opened :: rest)
    | (.ok (some bytes), opened) =>
      ((opened.entry.decodeLoaded className bytes).map some, opened :: rest)
    | (.ok none, opened) =>
      let (loaded, rest) := loadFrom fs className rest
      (loaded, opened :: rest)

/-- Looks a class up in the entries. -/
def load (repository : Repository) (fs : FileSystem) (className : String) :
    Except CheckerError ClassLookup × Repository :=
  if repository.isSystem className then
    let (loaded, bootstrap) := loadFrom fs className repository.bootstrap
    (loaded.map fun
      | some loaded => .found loaded
      | none => describedLookup className, { repository with bootstrap := bootstrap })
  else
    let (loaded, classpath) := loadFrom fs className repository.classpath
    (loaded.map fun
      | some loaded => .found loaded
      | none => .notFound, { repository with classpath := classpath })

/-- Remembers a lookup. -/
def remember (repository : Repository) (className : String) (lookup : ClassLookup) : Repository :=
  { repository with cache := repository.cache.map (·.insert className lookup) }

/-- The lookup of a class that is remembered. -/
def remembered? (repository : Repository) (className : String) :
    Option (ClassLookup × Repository) :=
  repository.cache.bind fun cache =>
    (cache.get? className).map fun (lookup, cache) =>
      (lookup, { repository with cache := some cache })

/-- Looks a class up. -/
def find (repository : Repository) (fs : FileSystem) (className : String) :
    Except CheckerError ClassLookup × Repository :=
  match repository.remembered? className with
  | some (lookup, repository) => (.ok lookup, repository)
  | none =>
    match repository.load fs className with
    | (.ok lookup, repository) => (.ok lookup, repository.remember className lookup)
    | (.error error, repository) => (.error error, repository)

end Repository

end Linkage
