import Linkage.Graph
import Linkage.References
import Linkage.Repository.Loader

/-! The symbols that the classes of a class path refer to. -/

set_option autoImplicit false

namespace Linkage

/-- Classes with the symbols that they refer to, both in order. -/
structure SymbolReferences where
  table : List (ClassLocation × List Symbol)

namespace SymbolReferences

def empty : SymbolReferences := ⟨[]⟩

/-- Adds symbols to those of a class. -/
def insertAll (references : SymbolReferences) (source : ClassLocation) (symbols : List Symbol) :
    SymbolReferences :=
  ⟨Ordered.update source []
    (fun known => symbols.foldl (fun set symbol => Ordered.insert symbol set) known)
    references.table⟩

/-- Adds a symbol to those of a class. -/
def insert (references : SymbolReferences) (source : ClassLocation) (symbol : Symbol) :
    SymbolReferences :=
  references.insertAll source [symbol]

/-- Adds the symbols of a class file. -/
def addClass (entry : ClasspathEntry) (references : SymbolReferences)
    (file : String × Bytes) : Except CheckerError SymbolReferences := do
  let info ← entry.decode file.1 file.2
  pure (references.insertAll ⟨entry, file.1⟩ info.symbols)

/-- Adds the symbols of all classes of an entry. -/
def addEntry (fs : FileSystem) (references : SymbolReferences) (entry : ClasspathEntry) :
    Except CheckerError SymbolReferences := do
  (← entry.readAll fs).foldlM (addClass entry) references

/-- The symbols of all classes of some entries. -/
def extract (fs : FileSystem) (entries : List ClasspathEntry) :
    Except CheckerError SymbolReferences :=
  entries.foldlM (addEntry fs) empty

/-- The symbols of a class. -/
def get? (references : SymbolReferences) (source : ClassLocation) : Option (List Symbol) :=
  Ordered.get? references.table source

/-- The classes that refer to something. -/
def sources (references : SymbolReferences) : List ClassLocation := references.table.map (·.1)

def size (references : SymbolReferences) : Nat := references.table.length

/-- The number of symbols, where each class counts its own. -/
def symbolCount (references : SymbolReferences) : Nat :=
  references.table.foldl (fun count (_, symbols) => count + symbols.length) 0

/-- The symbols of the classes of all other entries. -/
def withoutEntry (references : SymbolReferences) (entry : ClasspathEntry) : SymbolReferences :=
  ⟨references.table.filter fun (source, _) => !source.entry.same entry⟩

/-- The pairs of a class and a class that it refers to. -/
def edges (references : SymbolReferences) : List (String × String) :=
  references.table.flatMap fun (source, symbols) =>
    symbols.map fun symbol => (source.className, symbol.className)

/-- The classes that some entries define, entry by entry. -/
def seeds (fs : FileSystem) (entryPoints : List ClasspathEntry) :
    Except CheckerError (List String) := do
  let names ← entryPoints.mapM (·.classNames fs)
  pure names.flatten

/-- The graph of the references, and what is reachable from the classes of some entries. -/
def graph (references : SymbolReferences) (fs : FileSystem) (entryPoints : List ClasspathEntry) :
    Except CheckerError ReferenceGraph := do
  pure (.ofEdges references.edges (← seeds fs entryPoints))

end SymbolReferences

end Linkage
