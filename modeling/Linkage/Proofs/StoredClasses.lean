import Linkage.Proofs.Sources
import Mathlib.Data.List.TakeWhile

/-!
Files and the classes that they define.

A class is named for its file, and it is read back from the file that its name leads to. This is
the file that it was named for exactly if the name of the file is regular. So an archive gives each
class alone as it gives all of them together if its class files have regular names. A class with
another name is listed, but what its name leads to is another member, or none.
-/

set_option autoImplicit false

namespace Linkage

namespace Text

variable {α : Type} [BEq α] [LawfulBEq α] {items start tail front rest : List α}

private theorem afterStart?_eq_some_iff : afterStart? items start = some rest ↔ items = start ++ rest := by
  induction start generalizing items with
  | nil => cases items <;> simp [afterStart?]
  | cons expected start ih =>
    cases items with
    | nil => simp [afterStart?]
    | cons item items =>
      by_cases same : item = expected
      · simp [afterStart?, same, ih]
      · simp [afterStart?, same]

theorem beforeEnd?_eq_some_iff : beforeEnd? items tail = some front ↔ items = front ++ tail := by
  simp only [beforeEnd?, Option.map_eq_some_iff, afterStart?_eq_some_iff]
  constructor
  · rintro ⟨reversed, same, rfl⟩
    rw [← List.reverse_reverse items, same, List.reverse_append, List.reverse_reverse]
  · rintro rfl
    exact ⟨front.reverse, List.reverse_append, List.reverse_reverse front⟩

theorem map_replace_eq_self_iff {old new : Char} (different : new ≠ old) {text : List Char} :
    (text.map fun c => if c == old then new else c) = text ↔ old ∉ text := by
  constructor
  · intro same member
    have kept := List.map_inj_left.1 (same.trans (List.map_id text).symm) old member
    simp only [beq_self_eq_true, if_true, id_eq] at kept
    exact different kept
  · intro absent
    refine (List.map_congr_left fun c member => ?_).trans (List.map_id text)
    have other : c ≠ old := fun same => absent (same ▸ member)
    simp [other]

end Text

/-- Whether the name of a file does not start with a slash and, if it is that of a class file, has
no full stop before its ending. -/
structure RegularName (fileName : String) : Prop where
  relative : fileName.toList.head? ≠ some '/'
  clear : ∀ stem, fileName.toList = stem ++ classFileEnding.toList → '.' ∉ stem

instance (fileName : String) : Decidable (RegularName fileName) :=
  decidable_of_iff (fileName.toList.head? ≠ some '/' ∧
      ∀ stem ∈ Text.beforeEnd? fileName.toList classFileEnding.toList, '.' ∉ stem)
    ⟨fun both => ⟨both.1, fun stem whole => both.2 stem (Text.beforeEnd?_eq_some_iff.2 whole)⟩,
      fun regular =>
        ⟨regular.relative, fun stem ended =>
          regular.clear stem (Text.beforeEnd?_eq_some_iff.1 ended)⟩⟩

section Names

variable {fileName className : String}

/-- The files that define no class although their names end like those of class files. -/
def definesNone (stem : List Char) : Bool :=
  "META-INF/".toList.isPrefixOf stem || "module-info".toList.isSuffixOf stem ||
    "package-info".toList.isSuffixOf stem

theorem classOfFile?_eq_some_iff : classOfFile? fileName = some className ↔
    ∃ stem, fileName.toList = stem ++ classFileEnding.toList ∧ definesNone stem = false ∧
      className.toList =
        (stem.dropWhile (· == '/')).map fun c => if c == '/' then '.' else c := by
  unfold classOfFile?
  cases ended : Text.beforeEnd? fileName.toList classFileEnding.toList with
  | none =>
    constructor
    · intro named
      cases named
    · rintro ⟨stem, whole, _⟩
      rw [Text.beforeEnd?_eq_some_iff.2 whole] at ended
      cases ended
  | some stem =>
    have whole := Text.beforeEnd?_eq_some_iff.1 ended
    have only : ∀ other, fileName.toList = other ++ classFileEnding.toList → other = stem :=
      fun other same => List.append_cancel_right (same.symm.trans whole)
    change (if definesNone stem then none else _) = some className ↔ _
    constructor
    · intro named
      split at named
      · cases named
      · next defines =>
        refine ⟨stem, whole, Bool.not_eq_true _ ▸ defines, ?_⟩
        rw [← Option.some.inj named, Text.replaceChar, String.toList_ofList, String.toList_ofList]
    · rintro ⟨other, same, defines, named⟩
      cases only other same
      rw [if_neg (by rw [defines]; exact Bool.false_ne_true), Text.replaceChar,
        String.toList_ofList, ← named, String.ofList_toList]

private theorem toList_fileOfClass (className : String) : (fileOfClass className).toList =
    (className.toList.map fun c => if c == '.' then '/' else c) ++ classFileEnding.toList := by
  rw [fileOfClass, String.toList_append, Text.replaceChar, String.toList_ofList]

/-- A class is read back from the file that it is named for exactly if that has a regular name. -/
theorem fileOfClass_eq_iff (named : classOfFile? fileName = some className) :
    fileOfClass className = fileName ↔ RegularName fileName := by
  obtain ⟨stem, whole, _, named⟩ := classOfFile?_eq_some_iff.1 named
  -- On the way there and back a full stop becomes a slash, and nothing else changes.
  have back : className.toList.map (fun c => if c == '.' then '/' else c) =
      (stem.dropWhile (· == '/')).map fun c => if c == '.' then '/' else c := by
    rw [named, List.map_map]
    refine List.map_congr_left fun c _ => ?_
    by_cases slash : c = '/'
    · subst slash
      rfl
    · simp [slash]
  have kept_iff : stem.dropWhile (· == '/') = stem ↔ fileName.toList.head? ≠ some '/' := by
    rw [List.dropWhile_eq_self_iff, whole]
    cases stem with
    | nil => exact iff_of_true (by simp) (by decide)
    | cons first others => simp
  have clear_iff : (∀ other, fileName.toList = other ++ classFileEnding.toList → '.' ∉ other) ↔
      '.' ∉ stem := by
    simp [whole]
  rw [← String.toList_inj, toList_fileOfClass, whole, List.append_cancel_right_eq, back]
  constructor
  · intro same
    have kept : stem.dropWhile (· == '/') = stem :=
      (List.dropWhile_suffix (l := stem) (· == '/')).eq_of_length
        (by simpa using congrArg List.length same)
    rw [kept] at same
    exact ⟨kept_iff.1 kept, clear_iff.2 ((Text.map_replace_eq_self_iff (by decide)).1 same)⟩
  · rintro ⟨relative, clear⟩
    rw [kept_iff.2 relative]
    exact (Text.map_replace_eq_self_iff (by decide)).2 (clear_iff.1 clear)

end Names

namespace Node

/-- The members of an archive have different names, whatever it is made of. -/
theorem exists_members (contents : List Member) :
    ∃ members, ofMembers contents = .archive members ∧ (members.map (·.name)).Nodup := by
  refine ⟨_, rfl, ?_⟩
  suffices kept : ∀ members : List Member, (members.map (·.name)).Nodup →
      ((contents.foldl (fun kept new =>
        if kept.any (·.name == new.name) then
          kept.map fun old => if old.name == new.name then new else old
        else kept ++ [new]) members).map (·.name)).Nodup from kept [] List.nodup_nil
  induction contents with
  | nil => exact fun _ distinct => distinct
  | cons new rest ih =>
    intro members distinct
    rw [List.foldl_cons]
    apply ih
    split
    · have names : (members.map fun old => if old.name == new.name then new else old).map (·.name) =
          members.map (·.name) := by
        rw [List.map_map]
        refine List.map_congr_left fun old _ => ?_
        by_cases same : old.name = new.name <;> simp [same]
      rwa [names]
    · next unknown =>
      have absent : new.name ∉ members.map (·.name) := by
        simpa using unknown
      rw [List.map_append, List.nodup_append]
      refine ⟨distinct, List.nodup_cons.2 ⟨List.not_mem_nil, List.nodup_nil⟩, ?_⟩
      rintro name member _ last rfl
      cases List.mem_singleton.1 last
      exact absent member

end Node

namespace ClasspathEntry

variable {entry : ClasspathEntry} {fs : FileSystem} {members : List Member} {className : String}

private theorem find?_of_mem {member : Member} (distinct : (members.map (·.name)).Nodup)
    (included : member ∈ members) : members.find? (·.name == member.name) = some member := by
  induction members with
  | nil => cases included
  | cons first rest ih =>
    obtain ⟨new, distinct⟩ := List.nodup_cons.1 distinct
    rcases List.mem_cons.1 included with rfl | later
    · simp
    · have other : first.name ≠ member.name :=
        fun same => new (List.mem_map.2 ⟨member, later, same.symm⟩)
      rw [List.find?_cons_of_neg (by simpa using other)]
      exact ih distinct later

section Archive

variable (found : fs.find entry.path = .ok (.archive members))

include found

theorem isDirectory_of_archive : fs.isDirectory entry.path = false := by
  simp [FileSystem.isDirectory, found, Node.isDirectory]

theorem members_of_archive : entry.members fs = .ok members := by
  simp [ClasspathEntry.members, found]

theorem classNames_of_archive : entry.classNames fs =
    .ok (Ordered.ofList ((members.map (·.name)).filterMap classOfFile?)) := by
  simp [classNames, fileNames, isDirectory_of_archive found, members_of_archive found, Except.map]

theorem readAll_of_archive : entry.readAll fs = .ok (members.filterMap fun member =>
    (classOfFile? member.name).map fun name => (name, member.bytes)) := by
  simp only [readAll, classNames_of_archive found, bind, Except.bind, readAllListed,
    isDirectory_of_archive found, Bool.false_eq_true, if_false, members_of_archive found,
    Except.map]

/-- A class that an archive lists is read from the first member that its name leads to. -/
theorem readClass_of_archive
    (listed : className ∈ (members.map (·.name)).filterMap classOfFile?) :
    entry.readClass fs className =
      match members.find? (·.name == fileOfClass className) with
      | some member => .ok (some member.bytes)
      | none => .error (.archive entry.path) := by
  have contained : (Ordered.ofList ((members.map (·.name)).filterMap classOfFile?)).contains
      className = true :=
    List.contains_iff_mem.2 (Ordered.mem_ofList_iff.2 listed)
  simp only [readClass, classNames_of_archive found, bind, Except.bind, readListed, contained,
    isDirectory_of_archive found, if_true, Bool.false_eq_true, if_false, readMember,
    members_of_archive found]
  cases members.find? (·.name == fileOfClass className) <;> rfl

private theorem readClass_eq_ok_iff {bytes : Bytes} (distinct : (members.map (·.name)).Nodup)
    (listed : className ∈ (members.map (·.name)).filterMap classOfFile?) :
    entry.readClass fs className = .ok (some bytes) ↔ ⟨fileOfClass className, bytes⟩ ∈ members := by
  rw [readClass_of_archive found listed]
  constructor
  · intro read
    cases stored : members.find? (·.name == fileOfClass className) with
    | none =>
      rw [stored] at read
      cases read
    | some member =>
      rw [stored] at read
      cases read
      have here : member.name = fileOfClass className := by simpa using List.find?_some stored
      rw [← here]
      exact List.mem_of_find?_eq_some stored
  · intro included
    rw [find?_of_mem distinct included]

private theorem readClass_eq_error_iff
    (listed : className ∈ (members.map (·.name)).filterMap classOfFile?) :
    entry.readClass fs className = .error (.archive entry.path) ↔
      ∀ member ∈ members, member.name ≠ fileOfClass className := by
  have missing_iff : members.find? (·.name == fileOfClass className) = none ↔
      ∀ member ∈ members, member.name ≠ fileOfClass className := by simp
  rw [readClass_of_archive found listed, ← missing_iff]
  cases members.find? (·.name == fileOfClass className) <;> simp

end Archive

theorem mem_readAll_iff {name : String} {bytes : Bytes} :
    (name, bytes) ∈ members.filterMap (fun member =>
      (classOfFile? member.name).map fun name => (name, member.bytes)) ↔
      ∃ member ∈ members, classOfFile? member.name = some name ∧ member.bytes = bytes := by
  simp only [List.mem_filterMap, Option.map_eq_some_iff, Prod.mk.injEq]
  constructor
  · rintro ⟨member, included, _, named, rfl, same⟩
    exact ⟨member, included, named, same⟩
  · rintro ⟨member, included, named, same⟩
    exact ⟨member, included, name, named, rfl, same⟩

theorem listed_iff {name : String} : name ∈ (members.map (·.name)).filterMap classOfFile? ↔
    ∃ bytes, (name, bytes) ∈ members.filterMap fun member =>
      (classOfFile? member.name).map fun name => (name, member.bytes) := by
  simp only [mem_readAll_iff]
  rw [List.mem_filterMap]
  constructor
  · rintro ⟨_, isName, named⟩
    obtain ⟨member, included, rfl⟩ := List.mem_map.1 isName
    exact ⟨member.bytes, member, included, named, rfl⟩
  · rintro ⟨_, member, included, named, _⟩
    exact ⟨member.name, List.mem_map_of_mem included, named⟩

/-- The ways to read an archive agree on which classes it defines. They agree on a class if the
member that its name leads to has the bytes that it was listed with, and that is so for all classes
whose files have regular names. If its name leads to no member, the class cannot be read alone. -/
theorem archive_access {contents : List Member}
    (found : fs.find entry.path = .ok (.ofMembers contents)) :
    ∃ members names classes, Node.ofMembers contents = .archive members ∧
      entry.classNames fs = .ok names ∧ entry.readAll fs = .ok classes ∧
      (∀ name, name ∈ names ↔ ∃ bytes, (name, bytes) ∈ classes) ∧
      (∀ name bytes, (name, bytes) ∈ classes →
        (entry.readClass fs name = .ok (some bytes) ↔ ⟨fileOfClass name, bytes⟩ ∈ members) ∧
        (entry.readClass fs name = .error (.archive entry.path) ↔
          ∀ member ∈ members, member.name ≠ fileOfClass name)) ∧
      ∀ member ∈ members, ∀ name, classOfFile? member.name = some name →
        RegularName member.name → entry.readClass fs name = .ok (some member.bytes) := by
  obtain ⟨members, stored, distinct⟩ := Node.exists_members contents
  rw [stored] at found
  refine ⟨members, _, _, stored, classNames_of_archive found, readAll_of_archive found, ?_, ?_, ?_⟩
  · intro name
    exact Ordered.mem_ofList_iff.trans listed_iff
  · intro name bytes read
    have listed := listed_iff.2 ⟨bytes, read⟩
    exact ⟨readClass_eq_ok_iff found distinct listed, readClass_eq_error_iff found listed⟩
  · intro member included name named regular
    have listed := listed_iff.2 ⟨member.bytes, mem_readAll_iff.2 ⟨member, included, named, rfl⟩⟩
    rw [readClass_eq_ok_iff found distinct listed, (fileOfClass_eq_iff named).2 regular]
    exact included

end ClasspathEntry

namespace ArchiveSample

def archive : ClasspathEntry := .ofPath ⟨"a.jar"⟩

def filesOf (contents : List Member) : FileSystem :=
  .ofNodes [(⟨false, ["a.jar"]⟩, .ofMembers contents)]

/-- A class file is written a second time, and another one has a nested class. -/
def regular : List Member :=
  [⟨"a/B.class", [1]⟩, ⟨"a/C$D.class", [2]⟩, ⟨"a/notes.txt", [3]⟩, ⟨"a/B.class", [4]⟩]

theorem archive_access_by_regular_names :
    (filesOf regular).find archive.path = .ok (.ofMembers regular) ∧
      archive.readAll (filesOf regular) = .ok [("a.B", [4]), ("a.C$D", [2])] ∧
      archive.readClass (filesOf regular) "a.B" = .ok (some [4]) := by
  have found : (filesOf regular).find archive.path = .ok (.ofMembers regular) := by rfl
  obtain ⟨members, _, _, stored, _, _, _, _, agrees⟩ := ClasspathEntry.archive_access found
  cases stored
  exact ⟨found, rfl, agrees ⟨"a/B.class", [4]⟩ (by decide) "a.B" rfl (by decide)⟩

/-- Two class files start with a slash and one is in a directory with a full stop. -/
def irregular : List Member :=
  [⟨"/a/B.class", [1]⟩, ⟨"a.b/C.class", [2]⟩, ⟨"/d/E.class", [3]⟩, ⟨"d/E.class", [4]⟩]

/-- Classes that are listed with their bytes cannot be read alone, or with other bytes. -/
theorem archive_access_differs_for_irregular_names :
    archive.readAll (filesOf irregular) =
        .ok [("a.B", [1]), ("a.b.C", [2]), ("d.E", [3]), ("d.E", [4])] ∧
      archive.readClass (filesOf irregular) "a.B" = .error (.archive archive.path) ∧
      archive.readClass (filesOf irregular) "a.b.C" = .error (.archive archive.path) ∧
      archive.readClass (filesOf irregular) "d.E" = .ok (some [4]) :=
  ⟨rfl, rfl, rfl, rfl⟩

end ArchiveSample

end Linkage
