import Linkage.Check.Reference
import Linkage.Proofs.SamePath
import Linkage.Proofs.Supertypes

/-!
Which classes are checked, and with which symbols.

The symbols of all class files of a class path are collected by location. A class is then loaded
once more. For both steps locations count as one if they compare equal, so that a class file is
found again only up to that.
-/

set_option autoImplicit false

namespace Linkage

theorem ClasspathEntry.same_symm {a b : ClasspathEntry} (same : a.same b = true) :
    b.same a = true := by
  obtain ⟨components, coordinate⟩ := same_iff.1 same
  exact same_iff.2 ⟨components.symm, coordinate.symm⟩

theorem ClasspathEntry.same_trans {a b c : ClasspathEntry} (left : a.same b = true)
    (right : b.same c = true) : a.same c = true := by
  obtain ⟨components, coordinate⟩ := same_iff.1 left
  obtain ⟨components', coordinate'⟩ := same_iff.1 right
  exact same_iff.2 ⟨components.trans components', coordinate.trans coordinate'⟩

/-- Whether an entry holds a class file under the name of a class. -/
def ClasspathEntry.Holds (entry : ClasspathEntry) (fs : FileSystem) (name : String)
    (bytes : Bytes) : Prop :=
  ∃ files, entry.readAll fs = .ok files ∧ (name, bytes) ∈ files

theorem ClasspathEntry.Holds.mem_classNames {entry : ClasspathEntry} {fs : FileSystem}
    {name : String} {bytes : Bytes} (holds : entry.Holds fs name bytes) :
    ∃ names, entry.classNames fs = .ok names ∧ name ∈ names := by
  obtain ⟨files, read, member⟩ := holds
  obtain ⟨names, listed, read⟩ := bind_ok read
  refine ⟨names, listed, ?_⟩
  unfold readAllListed at read
  split at read
  · obtain ⟨other, included, given⟩ := (mapM_ok read).2 _ member
    obtain ⟨_, _, same⟩ := map_ok given
    cases same
    exact included
  · next isArchive =>
    obtain ⟨members, opened, same⟩ := map_ok read
    cases same
    obtain ⟨stored, included, named⟩ := List.mem_filterMap.1 member
    obtain ⟨_, ofFile, same⟩ := Option.map_eq_some_iff.1 named
    cases same
    simp only [ClasspathEntry.classNames, fileNames, if_neg isArchive, opened, Except.map] at listed
    cases listed
    exact Ordered.mem_ofList_iff.2
      (List.mem_filterMap.2 ⟨stored.name, List.mem_map.2 ⟨stored, included, rfl⟩, ofFile⟩)

namespace SymbolReferences

/-- Whether all of some symbols are listed for a class. -/
def Covers (references : SymbolReferences) (source : ClassLocation) (symbols : List Symbol) :
    Prop :=
  ∃ location listed, (location, listed) ∈ references.table ∧ source.same location = true ∧
    symbols ⊆ listed

variable {references : SymbolReferences} {source : ClassLocation} {symbols : List Symbol}

private theorem insertAll_covers : (references.insertAll source symbols).Covers source symbols := by
  obtain ⟨location, old, member, same⟩ := Ordered.exists_mem_update source []
    (fun known => symbols.foldl (fun set symbol => Ordered.insert symbol set) known)
    references.table
  refine ⟨location, _, member, beq_iff_eq.2 same, ?_⟩
  exact fun symbol new => Ordered.mem_foldl_insert_iff.2 (.inr new)

theorem Covers.insertAll {other : ClassLocation} {more : List Symbol}
    (covers : references.Covers source symbols) :
    (references.insertAll other more).Covers source symbols := by
  obtain ⟨location, listed, member, same, contained⟩ := covers
  rcases Ordered.mem_update_of_mem member with kept | changed
  · exact ⟨location, listed, kept, same, contained⟩
  · refine ⟨location, _, changed, same, ?_⟩
    exact fun symbol old => Ordered.mem_foldl_insert_iff.2 (.inl (contained old))

private theorem mem_insertAll {location : ClassLocation} {listed : List Symbol}
    (member : (location, listed) ∈ (references.insertAll source symbols).table) :
    location = source ∨ ∃ old, (location, old) ∈ references.table := by
  rcases Ordered.mem_update member with kept | ⟨same, _⟩ | ⟨_, old, kept, _⟩
  · exact .inr ⟨listed, kept⟩
  · exact .inl same
  · exact .inr ⟨old, kept⟩

section Extract

variable {fs : FileSystem} {entries : List ClasspathEntry} {entry : ClasspathEntry}
  {next : SymbolReferences}

theorem addClass_ok {file : String × Bytes} (added : addClass entry references file = .ok next) :
    ∃ info, ClassInfo.decode file.2 = .ok info ∧
      next = references.insertAll ⟨entry, file.1⟩ info.symbols := by
  obtain ⟨info, decoded, same⟩ := bind_ok added
  exact ⟨info, mapError_ok decoded, (Except.ok.inj same).symm⟩

theorem Covers.addClass {file : String × Bytes} (covers : references.Covers source symbols)
    (added : SymbolReferences.addClass entry references file = .ok next) :
    next.Covers source symbols := by
  obtain ⟨_, _, same⟩ := addClass_ok added
  rw [same]
  exact covers.insertAll

theorem Covers.addEntry (covers : references.Covers source symbols)
    (added : SymbolReferences.addEntry fs references entry = .ok next) :
    next.Covers source symbols := by
  obtain ⟨files, _, added⟩ := bind_ok added
  exact foldlM_keeps (fun references => references.Covers source symbols) added covers
    fun _ _ _ _ step covers => covers.addClass step

/-- The class file has been decoded, and its symbols are listed. -/
def Lists (references : SymbolReferences) (entry : ClasspathEntry) (file : String × Bytes) : Prop :=
  ∃ info, ClassInfo.decode file.2 = .ok info ∧ references.Covers ⟨entry, file.1⟩ info.symbols

private theorem addEntry_lists (added : addEntry fs references entry = .ok next) :
    ∃ files, entry.readAll fs = .ok files ∧ ∀ file ∈ files, next.Lists entry file := by
  obtain ⟨files, read, added⟩ := bind_ok added
  refine ⟨files, read, fun file member =>
    foldlM_reaches (fun references => references.Lists entry file) added member ?_ ?_⟩
  · intro _ _ step
    obtain ⟨info, decoded, same⟩ := addClass_ok step
    rw [same]
    exact ⟨info, decoded, insertAll_covers⟩
  · rintro _ _ _ step ⟨info, decoded, covers⟩
    exact ⟨info, decoded, covers.addClass step⟩

theorem extract_lists (extracted : extract fs entries = .ok references) (member : entry ∈ entries) :
    ∃ files, entry.readAll fs = .ok files ∧ ∀ file ∈ files, references.Lists entry file := by
  refine foldlM_reaches (fun references => ∃ files, entry.readAll fs = .ok files ∧
    ∀ file ∈ files, references.Lists entry file) extracted member
    (fun _ _ step => addEntry_lists step) ?_
  rintro _ _ _ step ⟨files, read, lists⟩
  refine ⟨files, read, fun file member => ?_⟩
  obtain ⟨info, decoded, covers⟩ := lists file member
  exact ⟨info, decoded, covers.addEntry step⟩

/-- Only classes that some entries hold are listed. -/
def ListsHeld (fs : FileSystem) (entries : List ClasspathEntry) (references : SymbolReferences) :
    Prop :=
  ∀ row ∈ references.table, row.1.entry ∈ entries ∧
    ∃ bytes, row.1.entry.Holds fs row.1.className bytes

theorem extract_listsHeld (extracted : extract fs entries = .ok references) :
    references.ListsHeld fs entries := by
  refine foldlM_keeps (ListsHeld fs entries) extracted (fun row member => by cases member) ?_
  intro state next entry isEntry added before
  obtain ⟨files, read, added⟩ := bind_ok added
  refine foldlM_keeps (ListsHeld fs entries) added before ?_
  rintro state next ⟨name, bytes⟩ isFile added before ⟨location, listed⟩ member
  obtain ⟨info, _, rfl⟩ := addClass_ok added
  rcases mem_insertAll member with rfl | ⟨old, there⟩
  · exact ⟨isEntry, bytes, files, read, isFile⟩
  · exact before (location, old) there

end Extract

end SymbolReferences

/-- Whether a class is read from an entry that compares equal to that of a location. -/
def ClassLocation.Reads (location : ClassLocation) (fs : FileSystem) (info : ClassInfo) : Prop :=
  ∃ (entry : ClasspathEntry) (bytes : Bytes), entry.same location.entry = true ∧
    entry.readClass fs location.className = .ok (some bytes) ∧ ClassInfo.decode bytes = .ok info

namespace CheckContext

variable {context : CheckContext} {loader : Loader} {location : ClassLocation} {info : ClassInfo}

/-- What the entry of a location says of the class there. -/
theorem readSource_ok {look : Look} {found : Option ClassInfo}
    (answered : (loadSource.readSource context location).answer look = .ok found) :
    (∀ info, found = some info → location.Reads context.fs info) ∧
      (found = none → location.entry.readClass context.fs location.className = .ok none) := by
  obtain ⟨bytes, read, answered⟩ := bind_ok answered
  cases bytes with
  | none =>
    cases answered
    exact ⟨nofun, fun _ => read⟩
  | some bytes =>
    obtain ⟨info, decoded, same⟩ := map_ok answered
    cases same
    refine ⟨?_, nofun⟩
    rintro _ ⟨⟩
    exact ⟨location.entry, bytes, location.entry.same_refl, read, mapError_ok decoded⟩

variable {fs : FileSystem}

/-- A class is loaded from an entry that compares equal, unless it is taken for one that is
described as part of the platform. -/
theorem loadSource_ok (files : context.fs = fs) {found : Option ClassInfo}
    (answered : (context.loadSource location).answer (loader.load fs) = .ok found) :
    (∀ info, found = some info →
        location.Reads fs info ∨ location.entry.same platformEntry = true) ∧
      (found = none → location.entry.readClass fs location.className = .ok none) := by
  subst files
  have ofOwn : (loadSource.readSource context location).answer (loader.load context.fs) =
      .ok found → (∀ info, found = some info →
        location.Reads context.fs info ∨ location.entry.same platformEntry = true) ∧
      (found = none → location.entry.readClass context.fs location.className = .ok none) := by
    intro answered
    obtain ⟨reads, none⟩ := readSource_ok answered
    exact ⟨fun info same => .inl (reads info same), none⟩
  obtain ⟨lookup, known, answered⟩ := Inquiry.answer_find_bind_ok answered
  cases lookup with
  | system => exact ofOwn answered
  | notFound => exact ofOwn answered
  | found loaded =>
    dsimp only at answered
    split at answered
    · next same =>
      cases answered
      refine ⟨?_, nofun⟩
      rintro _ ⟨⟩
      have sameEntry := (ClassLocation.same_iff.1 same).2
      rcases Loader.load_found known with ⟨_, read⟩ | ⟨_, read⟩ | ⟨_, _, at_⟩
      · obtain ⟨entry, _, bytes, read, decoded, at_⟩ := read
        rw [at_] at sameEntry
        exact .inl ⟨entry, bytes, sameEntry, read, decoded⟩
      · obtain ⟨entry, _, bytes, read, decoded, at_⟩ := read
        rw [at_] at sameEntry
        exact .inl ⟨entry, bytes, sameEntry, read, decoded⟩
      · rw [at_] at sameEntry
        exact .inr (ClasspathEntry.same_symm sameEntry)
    · exact ofOwn answered

/-- A class that is loaded from a location is the one that an entry holds there, if all classes can
be read from the entry and it is not taken for the platform. -/
theorem loadSource_reads (files : context.fs = fs) {entry : ClasspathEntry}
    {held : List (String × Bytes)}
    (answered : (context.loadSource location).answer (loader.load fs) = .ok (some info))
    (same : entry.same location.entry = true) (all : entry.readAll fs = .ok held)
    (notPlatform : entry.same platformEntry = false) :
    ∃ bytes, entry.readClass fs location.className = .ok (some bytes) ∧
      ClassInfo.decode bytes = .ok info := by
  rcases (loadSource_ok files answered).1 info rfl with
    ⟨other, bytes, otherSame, read, decoded⟩ | platform
  · have sameEntry := ClasspathEntry.same_trans otherSame (ClasspathEntry.same_symm same)
    exact ⟨bytes, ClasspathEntry.readClass_of_same sameEntry read all, decoded⟩
  · rw [ClasspathEntry.same_trans same platform] at notPlatform
    cases notPlatform

end CheckContext

end Linkage
