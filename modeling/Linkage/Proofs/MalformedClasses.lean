import Linkage.Proofs.CompleteRuns
import Linkage.Proofs.StoredClasses

/-!
What stops a check.

If the archives and directories of a class path can be read and their class files have regular
names, only a class file that cannot be decoded stops a check. It is named by the error, and it is
the first such file of the class path. Without one there is a checker, and its run gives the
problems.
-/

set_option autoImplicit false

namespace Linkage

/-- A reverse slash in the name of a file does not make a class file of it. -/
theorem classOfFile?_of_replaced {fileName className : String}
    (named : classOfFile? (Text.replaceChar '\\' '/' fileName) = some className) :
    ∃ other, classOfFile? fileName = some other := by
  obtain ⟨stem, whole, defines, _⟩ := classOfFile?_eq_some_iff.1 named
  rw [Text.replaceChar, String.toList_ofList, List.map_eq_append_iff] at whole
  obtain ⟨front, ending, whole, rfl, same⟩ := whole
  -- The ending and the excepted names have no reverse slash, so they stay as they are.
  have unchanged : ending = classFileEnding.toList := by
    rw [← same]
    refine ((Text.map_replace_eq_self_iff (by decide)).2 fun member => ?_).symm
    have slash : '/' ∈ classFileEnding.toList := by
      rw [← same]
      exact List.mem_map.2 ⟨'\\', member, rfl⟩
    exact absurd slash (by decide)
  rw [unchanged] at whole
  refine ⟨_, classOfFile?_eq_some_iff.2 ⟨front, whole, ?_, String.toList_ofList⟩⟩
  rw [Bool.eq_false_iff] at defines ⊢
  intro definesNone
  apply defines
  simp only [Linkage.definesNone, Bool.or_eq_true, List.isPrefixOf_iff_prefix,
    List.isSuffixOf_iff_suffix] at definesNone ⊢
  have kept : ∀ text : List Char, '\\' ∉ text →
      (text.map fun c => if c == '\\' then '/' else c) = text :=
    fun _ => (Text.map_replace_eq_self_iff (by decide)).2
  rcases definesNone with (starts | ends) | ends
  · refine .inl (.inl ?_)
    rw [← kept "META-INF/".toList (by decide)]
    exact starts.map _
  · refine .inl (.inr ?_)
    rw [← kept "module-info".toList (by decide)]
    exact ends.map _
  · refine .inr ?_
    rw [← kept "package-info".toList (by decide)]
    exact ends.map _

private theorem replaceChar_of_not_mem {old new : Char} {text : String} (different : new ≠ old)
    (absent : old ∉ text.toList) : Text.replaceChar old new text = text := by
  rw [Text.replaceChar, (Text.map_replace_eq_self_iff different).2 absent, String.ofList_toList]

namespace ClasspathEntry

/-- The class files of an entry with the names of their classes: all of an archive in their order,
or all that lie below a directory by name. -/
inductive Stores (fs : FileSystem) (entry : ClasspathEntry) : List (String × Bytes) → Prop
  | archive {members : List Member} (found : fs.find entry.path = .ok (.archive members)) :
    Stores fs entry (members.filterMap fun member =>
      (classOfFile? member.name).map fun name => (name, member.bytes))
  | directory {location : Location} {files : List (String × Bytes)}
      (found : fs.find entry.path = .ok .directory) (located : fs.locate entry.path = .ok location)
      (sorted : Ordered.Sorted (files.map (·.1)))
      (stored : ∀ name bytes, (name, bytes) ∈ files ↔ ∃ names ∈ fs.filesBelow location,
        classOfFile? ("/".intercalate names) = some name ∧
          fs.read (entry.path.join ⟨"/".intercalate names⟩) = .ok bytes) :
    Stores fs entry files

/-- Whether an entry can be read and its class files have regular names. In a directory they can be
read one by one, and their names have no reverse slash. -/
inductive WellStored (fs : FileSystem) (entry : ClasspathEntry) : Prop
  | archive {members : List Member} (found : fs.find entry.path = .ok (.archive members))
      (regular : ∀ member ∈ members, ∀ name, classOfFile? member.name = some name →
        RegularName member.name)
  | directory {location : Location} (found : fs.find entry.path = .ok .directory)
      (located : fs.locate entry.path = .ok location)
      (regular : ∀ names ∈ fs.filesBelow location, ∀ name,
        classOfFile? ("/".intercalate names) = some name →
          RegularName ("/".intercalate names) ∧ '\\' ∉ ("/".intercalate names).toList ∧
            ∃ bytes, fs.read (entry.path.join ⟨"/".intercalate names⟩) = .ok bytes)

variable {fs : FileSystem} {entry : ClasspathEntry} {className : String}

theorem Stores.of_archive {members : List Member} {files : List (String × Bytes)}
    (stores : Stores fs entry files) (found : fs.find entry.path = .ok (.archive members)) :
    files = members.filterMap fun member =>
      (classOfFile? member.name).map fun name => (name, member.bytes) := by
  cases stores with
  | archive found' =>
    cases found.symm.trans found'
    rfl
  | directory found' => cases found.symm.trans found'

private theorem Stores.mem_of_directory {location : Location} {files : List (String × Bytes)}
    (stores : Stores fs entry files) (found : fs.find entry.path = .ok .directory)
    (located : fs.locate entry.path = .ok location) {name : String} {bytes : Bytes} :
    (name, bytes) ∈ files ↔ ∃ names ∈ fs.filesBelow location,
      classOfFile? ("/".intercalate names) = some name ∧
        fs.read (entry.path.join ⟨"/".intercalate names⟩) = .ok bytes := by
  cases stores with
  | archive found' => cases found.symm.trans found'
  | directory found' located' _ stored =>
    cases located.symm.trans located'
    exact stored name bytes

/-- Whether the classes of an entry can be read alone as they are read all together. -/
def ReadsEach (fs : FileSystem) (entry : ClasspathEntry) (files : List (String × Bytes)) : Prop :=
  entry.readAll fs = .ok files ∧ ∀ className, entry.readClass fs className = .ok none ∨
    ∃ bytes, (className, bytes) ∈ files ∧ entry.readClass fs className = .ok (some bytes)

private theorem readsEach_of_archive {members : List Member}
    (found : fs.find entry.path = .ok (.archive members))
    (regular : ∀ member ∈ members, ∀ name, classOfFile? member.name = some name →
      RegularName member.name) :
    ReadsEach fs entry (members.filterMap fun member =>
      (classOfFile? member.name).map fun name => (name, member.bytes)) := by
  refine ⟨readAll_of_archive found, fun className => ?_⟩
  by_cases listed : className ∈ (members.map (·.name)).filterMap classOfFile?
  · obtain ⟨_, isName, named⟩ := List.mem_filterMap.1 listed
    obtain ⟨member, included, rfl⟩ := List.mem_map.1 isName
    have back := (fileOfClass_eq_iff named).2 (regular member included className named)
    rw [readClass_of_archive found listed, back]
    cases at_ : members.find? (·.name == member.name) with
    | none => simpa using List.find?_eq_none.1 at_ member included
    | some first =>
      have same : first.name = member.name := by simpa using List.find?_some at_
      refine .inr ⟨first.bytes, mem_readAll_iff.2 ?_, rfl⟩
      exact ⟨first, List.mem_of_find?_eq_some at_, same ▸ named, rfl⟩
  · refine .inl (readClass_none_iff.2 ⟨_, classNames_of_archive found, fun member => listed ?_⟩)
    exact Ordered.mem_ofList_iff.1 member

/-- The classes that are listed for a directory. -/
def listedBelow (fs : FileSystem) (location : Location) : List String :=
  Ordered.ofList (((fs.filesBelow location).map fun names =>
    Text.replaceChar '\\' '/' ("/".intercalate names)).filterMap classOfFile?)

section Directory

variable {location : Location} (found : fs.find entry.path = .ok .directory)
  (located : fs.locate entry.path = .ok location)
  (regular : ∀ names ∈ fs.filesBelow location, ∀ name,
    classOfFile? ("/".intercalate names) = some name →
      RegularName ("/".intercalate names) ∧ '\\' ∉ ("/".intercalate names).toList ∧
        ∃ bytes, fs.read (entry.path.join ⟨"/".intercalate names⟩) = .ok bytes)

include regular in
theorem mem_listedBelow_iff : className ∈ listedBelow fs location ↔
    ∃ names ∈ fs.filesBelow location,
      classOfFile? ("/".intercalate names) = some className := by
  rw [listedBelow, Ordered.mem_ofList_iff, List.mem_filterMap]
  constructor
  · rintro ⟨_, isName, named⟩
    obtain ⟨names, below, rfl⟩ := List.mem_map.1 isName
    obtain ⟨other, stored⟩ := classOfFile?_of_replaced named
    obtain ⟨_, clear, _⟩ := regular names below other stored
    rw [replaceChar_of_not_mem (by decide) clear] at named
    exact ⟨names, below, named⟩
  · rintro ⟨names, below, named⟩
    obtain ⟨_, clear, _⟩ := regular names below className named
    refine ⟨_, List.mem_map_of_mem below, ?_⟩
    rw [replaceChar_of_not_mem (by decide) clear, named]

include found

theorem isDirectory_of_directory : fs.isDirectory entry.path = true := by
  simp [FileSystem.isDirectory, found, Node.isDirectory]

include located

theorem classNames_of_directory : entry.classNames fs = .ok (listedBelow fs location) := by
  simp [classNames, fileNames, isDirectory_of_directory found, located, Except.map, listedBelow]

include regular

private theorem exists_read_of_directory {names : List String} (below : names ∈ fs.filesBelow location)
    (named : classOfFile? ("/".intercalate names) = some className) :
    ∃ bytes, fs.read (entry.path.join ⟨"/".intercalate names⟩) = .ok bytes ∧
      entry.readFile fs className = .ok bytes ∧
      entry.readClass fs className = .ok (some bytes) := by
  obtain ⟨isRegular, _, bytes, read⟩ := regular names below className named
  have back := (fileOfClass_eq_iff named).2 isRegular
  have alone : entry.readFile fs className = .ok bytes := by
    rw [readFile, back, read]
    rfl
  refine ⟨bytes, read, alone, ?_⟩
  rw [readClass, classNames_of_directory found located]
  change entry.readListed fs className (listedBelow fs location) = _
  have listed := (mem_listedBelow_iff regular).2 ⟨names, below, named⟩
  rw [readListed, if_pos (List.contains_iff_mem.2 listed),
    if_pos (isDirectory_of_directory found), alone]
  rfl

/-- The classes of a directory with their bytes, by name. -/
theorem exists_readAll_of_directory :
    ∃ files, entry.readAll fs = .ok files ∧ Ordered.Sorted (files.map (·.1)) ∧
      ∀ name bytes, (name, bytes) ∈ files ↔ ∃ names ∈ fs.filesBelow location,
        classOfFile? ("/".intercalate names) = some name ∧
          fs.read (entry.path.join ⟨"/".intercalate names⟩) = .ok bytes := by
  -- A class leads back to the path of its file, so its bytes depend on its name alone.
  let bytesOf := fun name => (entry.readFile fs name).toOption.getD []
  have reads : ∀ names ∈ fs.filesBelow location, ∀ name,
      classOfFile? ("/".intercalate names) = some name →
        fs.read (entry.path.join ⟨"/".intercalate names⟩) = .ok (bytesOf name) ∧
          entry.readFile fs name = .ok (bytesOf name) := by
    intro names below name named
    obtain ⟨bytes, read, alone, _⟩ := exists_read_of_directory found located regular below named
    have same : bytesOf name = bytes := by simp [bytesOf, alone, Except.toOption]
    rw [same]
    exact ⟨read, alone⟩
  refine ⟨(listedBelow fs location).map fun name => (name, bytesOf name), ?_, ?_, ?_⟩
  · rw [readAll, classNames_of_directory found located]
    change entry.readAllListed fs (listedBelow fs location) = _
    rw [readAllListed, if_pos (isDirectory_of_directory found)]
    refine mapM_eq_map fun name member => ?_
    obtain ⟨names, below, named⟩ := (mem_listedBelow_iff regular).1 member
    rw [(reads names below name named).2]
    rfl
  · rw [List.map_map]
    change Ordered.Sorted ((listedBelow fs location).map id)
    rw [List.map_id]
    exact Ordered.sorted_ofList _
  · intro name bytes
    simp only [List.mem_map, Prod.mk.injEq]
    constructor
    · rintro ⟨_, member, rfl, rfl⟩
      obtain ⟨names, below, named⟩ := (mem_listedBelow_iff regular).1 member
      exact ⟨names, below, named, (reads names below _ named).1⟩
    · rintro ⟨names, below, named, read⟩
      refine ⟨name, (mem_listedBelow_iff regular).2 ⟨names, below, named⟩, rfl, ?_⟩
      exact Except.ok.inj ((reads names below name named).1.symm.trans read)

private theorem exists_stores_of_directory :
    ∃ files, Stores fs entry files ∧ ReadsEach fs entry files := by
  obtain ⟨files, read, sorted, stored⟩ := exists_readAll_of_directory found located regular
  refine ⟨files, .directory found located sorted stored, read, fun className => ?_⟩
  by_cases listed : ∃ names ∈ fs.filesBelow location,
      classOfFile? ("/".intercalate names) = some className
  · obtain ⟨names, below, named⟩ := listed
    obtain ⟨bytes, atPath, _, alone⟩ := exists_read_of_directory found located regular below named
    exact .inr ⟨bytes, (stored className bytes).2 ⟨names, below, named, atPath⟩, alone⟩
  · refine .inl (readClass_none_iff.2 ⟨_, classNames_of_directory found located, fun member => ?_⟩)
    exact listed ((mem_listedBelow_iff regular).1 member)

end Directory

private theorem WellStored.exists_stores (well : WellStored fs entry) :
    ∃ files, Stores fs entry files ∧ ReadsEach fs entry files := by
  cases well with
  | archive found regular => exact ⟨_, .archive found, readsEach_of_archive found regular⟩
  | directory found located regular => exact exists_stores_of_directory found located regular

theorem ReadsEach.decodes {files : List (String × Bytes)} (reads : ReadsEach fs entry files)
    (sound : ∀ file ∈ files, ∃ info, ClassInfo.decode file.2 = .ok info) : entry.Decodes fs := by
  intro className
  rcases reads.2 className with none | ⟨bytes, member, read⟩
  · exact .inl none
  · obtain ⟨info, decoded⟩ := sound _ member
    exact .inr ⟨bytes, info, read, decoded⟩

end ClasspathEntry

/-- The class files of a class path, entry by entry. -/
inductive StoresAll (fs : FileSystem) : List ClasspathEntry → List (ClassLocation × Bytes) → Prop
  | nil : StoresAll fs [] []
  | cons {entry : ClasspathEntry} {files : List (String × Bytes)} {entries : List ClasspathEntry}
      {others : List (ClassLocation × Bytes)} (first : entry.Stores fs files)
      (rest : StoresAll fs entries others) :
    StoresAll fs (entry :: entries) (files.map (fun file => (⟨entry, file.1⟩, file.2)) ++ others)

/-- The error that names the first of some class files that cannot be decoded. -/
def FirstMalformed (files : List (ClassLocation × Bytes)) (error : CheckerError) : Prop :=
  ∃ file cause, FirstOf (fun earlier => ∃ info, ClassInfo.decode earlier.2 = .ok info)
      (fun file => ClassInfo.decode file.2 = .error cause) files file ∧
    error = .classFormat file.1.className file.1.entry.text cause

namespace SymbolReferences

variable {fs : FileSystem} {entries : List ClasspathEntry}

/-- The class in a class file at a location with its symbols. -/
def rowAt (file : ClassLocation × Bytes) : Except CheckerError (ClassLocation × List Symbol) :=
  rowOf file.1.entry (file.1.className, file.2)

private theorem rowAt_ok_iff {file : ClassLocation × Bytes} :
    (∃ row, rowAt file = .ok row) ↔ ∃ info, ClassInfo.decode file.2 = .ok info := by
  unfold rowAt rowOf ClasspathEntry.decode
  cases ClassInfo.decode file.2 with
  | error cause => simp [Except.map, Except.mapError]
  | ok info => simp [Except.map, Except.mapError]

private theorem rowAt_error_iff {file : ClassLocation × Bytes} {error : CheckerError} :
    rowAt file = .error error ↔ ∃ cause, ClassInfo.decode file.2 = .error cause ∧
      error = .classFormat file.1.className file.1.entry.text cause := by
  unfold rowAt rowOf ClasspathEntry.decode
  cases ClassInfo.decode file.2 with
  | error cause => simp [Except.map, Except.mapError, eq_comm]
  | ok info => simp [Except.map, Except.mapError]

private theorem mapM_rowAt_error_iff {files : List (ClassLocation × Bytes)} {error : CheckerError} :
    files.mapM rowAt = .error error ↔ FirstMalformed files error := by
  simp only [mapM_error_iff, FirstMalformed, FirstOf, rowAt_ok_iff, rowAt_error_iff]
  constructor
  · rintro ⟨file, before, after, whole, sound, cause, rejected, named⟩
    exact ⟨file, cause, ⟨before, after, whole, sound, rejected⟩, named⟩
  · rintro ⟨file, cause, ⟨before, after, whole, sound, rejected⟩, named⟩
    exact ⟨file, before, after, whole, sound, cause, rejected, named⟩

/-- The class files of a class path are decoded in their order. -/
theorem exists_storesAll (well : ∀ entry ∈ entries, entry.WellStored fs) :
    ∃ files, StoresAll fs entries files ∧
      (entries.mapM (rowsOf fs)).map List.flatten = files.mapM rowAt ∧
      ((∀ file ∈ files, ∃ info, ClassInfo.decode file.2 = .ok info) →
        ∀ entry ∈ entries, entry.Decodes fs) := by
  induction entries with
  | nil => exact ⟨[], .nil, rfl, by simp⟩
  | cons entry rest ih =>
    obtain ⟨stored, stores, reads⟩ := (well entry List.mem_cons_self).exists_stores
    obtain ⟨others, storesAll, extracted, sound⟩ :=
      ih fun other member => well other (List.mem_cons_of_mem _ member)
    have ofEntry : rowsOf fs entry =
        (stored.map fun file => ((⟨entry, file.1⟩ : ClassLocation), file.2)).mapM rowAt := by
      rw [rowsOf, reads.1, List.mapM_map]
      rfl
    refine ⟨_, .cons stores storesAll, ?_, fun decodes => List.forall_mem_cons.2 ⟨?_, ?_⟩⟩
    · rw [List.mapM_cons, List.mapM_append, ofEntry, ← extracted]
      cases (stored.map fun file => ((⟨entry, file.1⟩ : ClassLocation), file.2)).mapM rowAt with
      | error error => rfl
      | ok rows =>
        cases rest.mapM (rowsOf fs) with
        | error error => rfl
        | ok more => rfl
    · refine reads.decodes fun file member => ?_
      exact decodes (⟨entry, file.1⟩, file.2)
        (List.mem_append_left _ (List.mem_map.2 ⟨file, member, rfl⟩))
    · exact sound fun file member => decodes file (List.mem_append_right _ member)

end SymbolReferences

namespace Checker

variable {fs : FileSystem} {resolved : ResolvedClasspath} {config : CheckerConfig}
  {rules : List ExclusionRule}

private theorem create_error_iff (filled : resolved.entries ≠ []) {seeds : List String}
    (listed : SymbolReferences.seeds fs resolved.entryPoints = .ok seeds) {error : CheckerError} :
    create fs resolved config rules = .error error ↔
      SymbolReferences.extract fs resolved.entries = .error error := by
  unfold create SymbolReferences.graph
  rw [if_neg (by simpa using filled), listed]
  cases SymbolReferences.extract fs resolved.entries with
  | error cause => simp [bind, Except.bind]
  | ok references => simp [bind, Except.bind, pure, Except.pure]

/-- A class path is refused exactly if some class file cannot be decoded, and the error names the
first one. If there is none, the checks of all classes succeed. -/
theorem malformed_class_fatal (filled : resolved.entries ≠ [])
    (well : ∀ entry ∈ resolved.entries ++ resolved.entryPoints, entry.WellStored fs)
    (noBootstrap : config.bootstrap = []) :
    ∃ files, StoresAll fs resolved.entries files ∧
      (∀ error, create fs resolved config rules = .error error ↔ FirstMalformed files error) ∧
      ((∀ file ∈ files, ∃ info, ClassInfo.decode file.2 = .ok info) →
        ∃ checker problems, create fs resolved config rules = .ok checker ∧
          checker.problems fs = .ok problems) := by
  obtain ⟨files, storesAll, extracted, sound⟩ := SymbolReferences.exists_storesAll
    fun entry member => well entry (List.mem_append_left _ member)
  have lists : ∃ lists, resolved.entryPoints.mapM (·.classNames fs) = .ok lists := by
    refine mapM_of_ok fun point member => ?_
    obtain ⟨_, _, reads⟩ := (well point (List.mem_append_right _ member)).exists_stores
    obtain ⟨names, given, _⟩ := bind_ok reads.1
    exact ⟨names, given⟩
  obtain ⟨lists, listed⟩ := lists
  have seeded : SymbolReferences.seeds fs resolved.entryPoints = .ok lists.flatten := by
    rw [SymbolReferences.seeds, listed]
    rfl
  have refused_iff : ∀ error, create fs resolved config rules = .error error ↔
      FirstMalformed files error := by
    intro error
    rw [create_error_iff filled seeded, SymbolReferences.extract_eq,
      ← SymbolReferences.mapM_rowAt_error_iff, ← extracted]
    cases resolved.entries.mapM (SymbolReferences.rowsOf fs) with
    | error cause => simp [Except.map]
    | ok rows => simp [Except.map]
  refine ⟨files, storesAll, refused_iff, fun decodes => ?_⟩
  cases created : create fs resolved config rules with
  | error error =>
    obtain ⟨file, cause, isFirst, _⟩ := (refused_iff error).1 created
    obtain ⟨info, decoded⟩ := decodes file isFirst.mem
    obtain ⟨_, _, _, _, rejected⟩ := isFirst
    cases decoded.symm.trans rejected
  | ok checker =>
    obtain ⟨_, references, _, extracted, _, rfl⟩ := create_iff.1 created
    refine ⟨_, (problems_of_decodes ?_ ?_).imp fun _ ran => ⟨rfl, ran⟩⟩
    · intro entry member
      rw [noBootstrap, List.map_nil, List.append_nil] at member
      exact sound decodes entry member
    · exact fun row member => (SymbolReferences.extract_listsHeld extracted row member).1

end Checker

namespace MalformedSample

def cyclic : Bytes := ((ClassDraft.ofClass "a.S").declare (.superClass "a.T")).build

def cyclic' : Bytes :=
  ((ClassDraft.ofClass "a.T").declareAll [.superClass "a.S", .referencesClass "x.G"]).build

def plain : Bytes := (ClassDraft.ofClass "java.b.D").build

/-- Two classes of `s.jar` extend each other, a directory has a class that is named like those of
the platform, and two class files of `t.jar` cannot be decoded. -/
def files : FileSystem := .ofNodes [
  (⟨false, ["s.jar"]⟩, .archive [⟨"a/S.class", cyclic⟩, ⟨"a/T.class", cyclic'⟩]),
  (⟨false, ["t.jar"]⟩, .archive [⟨"c/V.class", [0xCA]⟩, ⟨"c/W.class", []⟩]),
  (⟨false, ["d"]⟩, .directory), (⟨false, ["d", "java"]⟩, .directory),
  (⟨false, ["d", "java", "b"]⟩, .directory), (⟨false, ["d", "java", "b", "D.class"]⟩, .file plain)]

def config : CheckerConfig := { CheckerConfig.default none with systemPackages := ["java."] }

theorem decode_classes : ∀ bytes ∈ [cyclic, cyclic', plain],
    ∃ info, ClassInfo.decode bytes = .ok info := by
  intro bytes member
  have decoded : ∀ bytes ∈ [cyclic, cyclic', plain],
      (ClassInfo.decode bytes).toOption.isSome = true := by decide +kernel
  obtain ⟨info, same⟩ := Option.isSome_iff_exists.1 (decoded bytes member)
  exact ⟨info, toOption_eq_some_iff.1 same⟩

private theorem archive_wellStored {path : Path} {members : List Member}
    (found : files.find path = .ok (.archive members))
    (regular : ∀ member ∈ members, RegularName member.name) :
    (ClasspathEntry.ofPath path).WellStored files :=
  .archive found fun member included _ _ => regular member included

private theorem directory_wellStored : (ClasspathEntry.ofPath ⟨"d"⟩).WellStored files := by
  have located : files.locate ⟨"d"⟩ = .ok ⟨false, ["d"]⟩ := by rfl
  refine .directory rfl located fun names below _ _ => ?_
  cases List.mem_singleton.1 below
  exact ⟨by decide, by decide, plain, rfl⟩

def cyclicPath : ResolvedClasspath := .ofPaths [⟨"s.jar"⟩, ⟨"d"⟩]

def malformedPath : ResolvedClasspath := .ofPaths [⟨"s.jar"⟩, ⟨"t.jar"⟩]

/-- The check of classes that extend each other succeeds. The first of two class files that cannot
be decoded is named. -/
theorem malformed_class_named_first :
    (∃ checker problems, Checker.create files cyclicPath config [] = .ok checker ∧
      checker.problems files = .ok problems) ∧
    ∃ cause, Checker.create files malformedPath config [] =
      .error (.classFormat "c.V" "t.jar" cause) := by
  have archive : (ClasspathEntry.ofPath ⟨"s.jar"⟩).WellStored files :=
    archive_wellStored rfl (by decide)
  have archive' : (ClasspathEntry.ofPath ⟨"t.jar"⟩).WellStored files :=
    archive_wellStored rfl (by decide)
  have ofCyclic : ∀ entry ∈ cyclicPath.entries ++ cyclicPath.entryPoints,
      entry.WellStored files :=
    List.forall_mem_cons.2 ⟨archive, List.forall_mem_cons.2 ⟨directory_wellStored,
      List.forall_mem_cons.2 ⟨archive, List.forall_mem_cons.2 ⟨directory_wellStored, by simp⟩⟩⟩⟩
  have ofMalformed : ∀ entry ∈ malformedPath.entries ++ malformedPath.entryPoints,
      entry.WellStored files :=
    List.forall_mem_cons.2 ⟨archive, List.forall_mem_cons.2 ⟨archive',
      List.forall_mem_cons.2 ⟨archive, List.forall_mem_cons.2 ⟨archive', by simp⟩⟩⟩⟩
  constructor
  · obtain ⟨stored, storesAll, _, succeeds⟩ :=
      @Checker.malformed_class_fatal files cyclicPath config [] (by decide) ofCyclic rfl
    change StoresAll files [.ofPath ⟨"s.jar"⟩, .ofPath ⟨"d"⟩] stored at storesAll
    cases storesAll with
    | cons first rest =>
      cases rest with
      | cons second rest =>
        cases rest
        cases first.of_archive rfl
        refine succeeds fun file member => decode_classes file.2 ?_
        rcases List.mem_append.1 member with ofArchive | ofDirectory
        · rcases List.mem_cons.1 ofArchive with rfl | ofArchive
          · exact List.mem_cons_self
          · cases List.mem_singleton.1 ofArchive
            exact List.mem_cons_of_mem _ List.mem_cons_self
        · rw [List.append_nil] at ofDirectory
          obtain ⟨⟨name, bytes⟩, stored, rfl⟩ := List.mem_map.1 ofDirectory
          have located : files.locate ⟨"d"⟩ = .ok ⟨false, ["d"]⟩ := by rfl
          obtain ⟨names, below, _, read⟩ := (second.mem_of_directory rfl located).1 stored
          cases List.mem_singleton.1 below
          have same : plain = bytes := Except.ok.inj read
          simp [← same]
  · obtain ⟨stored, storesAll, refused, _⟩ :=
      @Checker.malformed_class_fatal files malformedPath config [] (by decide) ofMalformed rfl
    change StoresAll files [.ofPath ⟨"s.jar"⟩, .ofPath ⟨"t.jar"⟩] stored at storesAll
    cases storesAll with
    | cons first rest =>
      cases rest with
      | cons second rest =>
        cases rest
        cases first.of_archive rfl
        cases second.of_archive rfl
        refine ⟨_, (refused _).2 ⟨(⟨.ofPath ⟨"t.jar"⟩, "c.V"⟩, [0xCA]), _,
          ⟨[(⟨.ofPath ⟨"s.jar"⟩, "a.S"⟩, cyclic), (⟨.ofPath ⟨"s.jar"⟩, "a.T"⟩, cyclic')],
            [(⟨.ofPath ⟨"t.jar"⟩, "c.W"⟩, [])], rfl, ?_, rfl⟩, rfl⟩⟩
        exact List.forall_mem_cons.2 ⟨decode_classes _ (by simp),
          List.forall_mem_cons.2 ⟨decode_classes _ (by simp), by simp⟩⟩

/-- A file whose name has a reverse slash, which is no separator here. -/
def reversed : FileSystem := .ofNodes [
  (⟨false, ["d"]⟩, .directory), (⟨false, ["d", "a\\B.class"]⟩, .file plain)]

/-- The file can be read and decoded and its name is regular, but the class that is listed for it is
looked for in another file. -/
theorem reverse_slash_fatal :
    RegularName "a\\B.class" ∧ reversed.read ⟨"d/a\\B.class"⟩ = .ok plain ∧
      (∃ info, ClassInfo.decode plain = .ok info) ∧
      Checker.create reversed (.ofPaths [⟨"d"⟩]) config [] =
        .error (.io ⟨"d/a/B.class"⟩ .notFound) :=
  ⟨by decide, rfl, decode_classes plain (by simp), rfl⟩

end MalformedSample

end Linkage
