import Linkage.Proofs.Lookup
import Linkage.Proofs.Ordered

/-!
Paths that compare equal lead to the same place.

A path can fail where another one with the same components does not, because its text is too long or
asks for a directory. But if both lead somewhere they lead to the same node, and so do the paths of
something below them. So entries that compare equal hold the same classes, as far as both can be
read.
-/

set_option autoImplicit false

namespace Linkage

private theorem Text.split_ne_nil {α : Type} (isSeparator : α → Bool) (items : List α) :
    split isSeparator items ≠ [] := by
  cases items with
  | nil => simp [split]
  | cons item rest =>
    unfold split
    split
    · simp
    · split <;> simp

/-- Cutting around a separator cuts both sides. -/
theorem Text.split_append {α : Type} {isSeparator : α → Bool} {separator : α}
    (separates : isSeparator separator = true) (left right : List α) :
    split isSeparator (left ++ separator :: right) =
      split isSeparator left ++ split isSeparator right := by
  induction left with
  | nil => simp [split, separates]
  | cons item rest ih =>
    simp only [List.cons_append, split]
    split
    · rw [ih, List.cons_append]
    · obtain ⟨piece, pieces, first⟩ := List.exists_cons_of_ne_nil (split_ne_nil isSeparator rest)
      rw [ih, first]
      rfl

namespace Path

/-- The components that are followed. -/
def named (path : Path) : List Component := path.parts.filterMap Component.ofPart?

/-- Whether two paths start at the same place and are followed in the same way. -/
def Alike (a b : Path) : Prop := a.isAbsolute = b.isAbsolute ∧ a.named = b.named

/-- Neither the root nor the directory where a path starts is followed. -/
def Component.isFollowed : Component → Bool
  | root => false
  | current => false
  | _ => true

private theorem Component.isFollowed_of_part {part : String} {component : Component}
    (counts : ofPart? part = some component) : component.isFollowed = true := by
  unfold ofPart? at counts
  split at counts
  · cases counts
  · split at counts <;> cases counts <;> rfl

private theorem isFollowed_of_named {path : Path} {component : Component}
    (member : component ∈ path.named) : component.isFollowed = true := by
  obtain ⟨part, _, counts⟩ := List.mem_filterMap.1 member
  exact Component.isFollowed_of_part counts

private theorem components_eq (path : Path) : path.components =
    if path.isAbsolute then .root :: path.named
    else if path.parts.head? == some "." then .current :: path.named else path.named :=
  rfl

private theorem named_eq_filter (path : Path) :
    path.named = path.components.filter Component.isFollowed := by
  have all : path.named.filter Component.isFollowed = path.named :=
    List.filter_eq_self.2 fun component => isFollowed_of_named
  rw [components_eq]
  split
  · rw [List.filter_cons_of_neg (by decide), all]
  · split
    · rw [List.filter_cons_of_neg (by decide), all]
    · exact all.symm

private theorem isAbsolute_iff (path : Path) : path.isAbsolute = true ↔ .root ∈ path.components := by
  have noRoot : .root ∉ path.named := fun member => absurd (isFollowed_of_named member) (by decide)
  rw [components_eq]
  split
  · next absolute => simp [absolute]
  · next relative => split <;> simp [relative, noRoot]

private theorem alike_of_components {a b : Path} (same : a.components = b.components) : a.Alike b := by
  constructor
  · rw [Bool.eq_iff_iff, isAbsolute_iff, isAbsolute_iff, same]
  · rw [named_eq_filter, named_eq_filter, same]

/-- What is joined to a path is followed after it. -/
theorem named_join {base child : Path} (relative : child.isAbsolute = false) :
    (base.join child).named = base.named ++ child.named := by
  have pieces : ∀ front : List Char, ∀ text : String,
      text.toList = front ++ '/' :: child.text.toList →
      (Path.mk text).named = (Path.mk (String.ofList front)).named ++ child.named := by
    intro front text same
    simp only [named, parts, Text.splitAt, same, String.toList_ofList]
    rw [Text.split_append (by decide), List.map_append, List.filterMap_append]
  simp only [join, relative, Bool.false_eq_true, if_false]
  split
  · next ends =>
    rcases Bool.or_eq_true_iff.1 ends with empty | slash
    · have none : base.text = "" := by simpa using empty
      simp [named, parts, Text.splitAt, Text.split, none, Component.ofPart?]
    · obtain ⟨front, same⟩ := List.isSuffixOf_iff_suffix.1 slash
      have ends : base.named = (Path.mk (String.ofList front)).named := by
        simp only [named, parts, Text.splitAt, ← same, String.toList_ofList]
        rw [show "/".toList = ['/'] from rfl, Text.split_append (by decide)]
        simp [Text.split, Component.ofPart?]
      rw [ends]
      exact pieces front _ (by simp [String.toList_append, ← same])
  · have whole := pieces base.text.toList (base.text ++ "/" ++ child.text) (by simp)
    rw [String.ofList_toList] at whole
    exact whole

private theorem isAbsolute_join {base child : Path} (relative : child.isAbsolute = false)
    (nonempty : base.text ≠ "") : (base.join child).isAbsolute = base.isAbsolute := by
  obtain ⟨first, rest, text⟩ := List.exists_cons_of_ne_nil
    (fun none => nonempty (String.toList_eq_nil_iff.1 none))
  simp only [join, relative, Bool.false_eq_true, if_false]
  split <;> simp [isAbsolute, Text.startsWith, String.toList_append, text, List.isPrefixOf]

theorem Alike.join {a b : Path} (alike : a.Alike b) (nonempty : a.text ≠ "")
    (nonempty' : b.text ≠ "") (child : Path) : (a.join child).Alike (b.join child) := by
  cases absolute : child.isAbsolute with
  | true =>
    simp only [Path.join, absolute, if_true]
    exact ⟨rfl, rfl⟩
  | false =>
    refine ⟨?_, ?_⟩
    · rw [isAbsolute_join absolute nonempty, isAbsolute_join absolute nonempty', alike.1]
    · rw [named_join absolute, named_join absolute, alike.2]

/-- The part between slashes that a followed component comes from. -/
def Component.part : Component → String
  | parent => ".."
  | name text => text
  | _ => ""

private theorem Component.part_ofPart? {part : String} {component : Component}
    (counts : ofPart? part = some component) : component.part = part := by
  unfold ofPart? at counts
  split at counts
  · cases counts
  · split at counts
    · next up =>
      cases counts
      exact up.symm
    · cases counts
      rfl

end Path

namespace FileSystem

variable {fs : FileSystem}

/-- Parts that do not count lead nowhere. -/
theorem enter_of_ofPart?_none {location next : Location} {part : String}
    (skipped : Path.Component.ofPart? part = none) (entered : fs.enter location part = .ok next) :
    next = location := by
  have blank : (decide (part = "") || decide (part = ".")) = true := by
    unfold Path.Component.ofPart? at skipped
    split at skipped
    · assumption
    · split at skipped <;> cases skipped
  unfold enter at entered
  split at entered
  · rw [if_pos blank] at entered
    exact (Except.ok.inj entered).symm
  · cases entered
  · cases entered

private theorem foldlM_enter_named {parts : List String} {location last : Location}
    (entered : parts.foldlM fs.enter location = .ok last) :
    (parts.filterMap Path.Component.ofPart?).foldlM
      (fun location component => fs.enter location component.part) location = .ok last := by
  induction parts generalizing location with
  | nil => exact entered
  | cons part rest ih =>
    rw [List.foldlM_cons] at entered
    obtain ⟨next, first, entered⟩ := bind_ok entered
    cases counts : Path.Component.ofPart? part with
    | none =>
      rw [List.filterMap_cons_none counts]
      cases enter_of_ofPart?_none counts first
      exact ih entered
    | some component =>
      rw [List.filterMap_cons_some counts, List.foldlM_cons, Path.Component.part_ofPart? counts,
        first]
      exact ih entered

theorem locate_ok {path : Path} {location : Location} (located : fs.locate path = .ok location) :
    path.text ≠ "" ∧
      path.named.foldlM (fun location component => fs.enter location component.part)
        (.start path) = .ok location := by
  obtain ⟨_, checked, entered⟩ := bind_ok located
  refine ⟨fun none => ?_, foldlM_enter_named entered⟩
  rw [none] at checked
  cases checked

private theorem locate_eq_of_alike {a b : Path} {first second : Location} (alike : a.Alike b)
    (located : fs.locate a = .ok first) (again : fs.locate b = .ok second) : first = second := by
  obtain ⟨_, entered⟩ := locate_ok located
  obtain ⟨_, entered'⟩ := locate_ok again
  simp only [alike.2, Location.start, alike.1] at entered
  simp only [Location.start] at entered'
  exact Except.ok.inj (entered.symm.trans entered')

theorem find_ok {path : Path} {node : Node} (found : fs.find path = .ok node) :
    ∃ location, fs.locate path = .ok location ∧ fs.node? location = some node := by
  obtain ⟨location, located, found⟩ := bind_ok found
  refine ⟨location, located, ?_⟩
  split at found
  · cases found
    assumption
  · cases found

theorem find_eq_of_alike {a b : Path} {first second : Node} (alike : a.Alike b)
    (found : fs.find a = .ok first) (again : fs.find b = .ok second) : first = second := by
  obtain ⟨location, located, at_⟩ := find_ok found
  obtain ⟨location', located', at_'⟩ := find_ok again
  cases locate_eq_of_alike alike located located'
  exact Option.some.inj (at_.symm.trans at_')

end FileSystem

namespace ClasspathEntry

variable {fs : FileSystem} {entry a b : ClasspathEntry}

/-- The files of an entry follow from what stands at its path. -/
theorem fileNames_ok {names : List String} (listed : entry.fileNames fs = .ok names) :
    (∃ location, fs.locate entry.path = .ok location ∧ fs.find entry.path = .ok .directory ∧
        names = (fs.filesBelow location).map fun names =>
          Text.replaceChar '\\' '/' ("/".intercalate names)) ∨
      ∃ members, fs.find entry.path = .ok (.archive members) ∧ names = members.map (·.name) := by
  unfold fileNames at listed
  split at listed
  · next isDirectory =>
    unfold FileSystem.isDirectory at isDirectory
    split at isDirectory
    · next node found =>
      cases node with
      | directory =>
        obtain ⟨location, located, _⟩ := FileSystem.find_ok found
        simp only [located] at listed
        exact .inl ⟨location, located, found, (Except.ok.inj listed).symm⟩
      | file bytes => cases isDirectory
      | archive members => cases isDirectory
    · cases isDirectory
  · obtain ⟨members, found, same⟩ := map_ok listed
    unfold ClasspathEntry.members at found
    split at found
    · cases found
    · next archive =>
      cases found
      exact .inr ⟨_, archive, same.symm⟩
    · cases found

private theorem alike_of_same (same : a.same b = true) : a.path.Alike b.path :=
  Path.alike_of_components (same_iff.1 same).1

private theorem fileNames_same {names names' : List String} (same : a.same b = true)
    (listed : a.fileNames fs = .ok names) (listed' : b.fileNames fs = .ok names') :
    names = names' ∧ ∃ node, fs.find a.path = .ok node ∧ fs.find b.path = .ok node := by
  have alike := alike_of_same same
  rcases fileNames_ok listed with ⟨location, located, found, rfl⟩ | ⟨members, found, rfl⟩ <;>
    rcases fileNames_ok listed' with ⟨location', located', found', rfl⟩ | ⟨members', found', rfl⟩
  · cases FileSystem.locate_eq_of_alike alike located located'
    exact ⟨rfl, _, found, found'⟩
  · cases FileSystem.find_eq_of_alike alike found found'
  · cases FileSystem.find_eq_of_alike alike found found'
  · cases FileSystem.find_eq_of_alike alike found found'
    exact ⟨rfl, _, found, found'⟩

private theorem readFile_ok {className : String} {bytes : Bytes}
    (read : entry.readFile fs className = .ok bytes) :
    ∃ node, fs.find (entry.path.join ⟨fileOfClass className⟩) = .ok node ∧
      node.read = .ok bytes := by
  unfold readFile at read
  exact bind_ok (mapError_ok read)

private theorem readFile_same {className : String} {bytes bytes' : Bytes} {node : Node}
    (same : a.same b = true) (found : fs.find a.path = .ok node)
    (found' : fs.find b.path = .ok node) (read : a.readFile fs className = .ok bytes)
    (read' : b.readFile fs className = .ok bytes') : bytes = bytes' := by
  obtain ⟨_, located, _⟩ := FileSystem.find_ok found
  obtain ⟨_, located', _⟩ := FileSystem.find_ok found'
  have alike := (alike_of_same same).join (FileSystem.locate_ok located).1
    (FileSystem.locate_ok located').1 ⟨fileOfClass className⟩
  obtain ⟨file, at_, contents⟩ := readFile_ok read
  obtain ⟨file', at_', contents'⟩ := readFile_ok read'
  have one := FileSystem.find_eq_of_alike alike at_ at_'
  rw [one] at contents
  exact Except.ok.inj (contents.symm.trans contents')

/-- A class that can be read from an entry is read from one that compares equal as well, if all
classes can be read from that. -/
theorem readClass_of_same {className : String} {bytes : Bytes} {files : List (String × Bytes)}
    (same : a.same b = true) (read : a.readClass fs className = .ok (some bytes))
    (all : b.readAll fs = .ok files) : b.readClass fs className = .ok (some bytes) := by
  obtain ⟨names, listed, read⟩ := bind_ok read
  obtain ⟨names', listed', all⟩ := bind_ok all
  obtain ⟨fileNames, files, rfl⟩ := map_ok listed
  obtain ⟨fileNames', files', rfl⟩ := map_ok listed'
  obtain ⟨rfl, node, found, found'⟩ := fileNames_same same files files'
  simp only [readClass, listed']
  show b.readListed fs className _ = _
  have directories : fs.isDirectory a.path = fs.isDirectory b.path := by
    simp only [FileSystem.isDirectory, found, found']
  unfold readListed at read ⊢
  unfold readAllListed at all
  rw [directories] at read
  split at read
  · next contained =>
    rw [if_pos contained]
    split at read
    · next isDirectory =>
      rw [if_pos isDirectory] at all ⊢
      obtain ⟨_, read, same_⟩ := map_ok read
      cases same_
      obtain ⟨_, _, given⟩ := (mapM_ok all).1 className (List.contains_iff_mem.1 contained)
      obtain ⟨bytes', read', _⟩ := map_ok given
      cases readFile_same same found found' read read'
      rw [read']
      rfl
    · next isArchive =>
      rw [if_neg isArchive]
      obtain ⟨_, read, same_⟩ := map_ok read
      cases same_
      obtain ⟨members, opened, read⟩ := bind_ok read
      have opened' : b.members fs = .ok members := by
        simp only [ClasspathEntry.members, found, found'] at opened ⊢
        cases node with
        | archive _ => exact opened
        | file _ => cases opened
        | directory => cases opened
      simp only [readMember, opened', bind, Except.bind]
      split at read
      · next member first =>
        cases read
        rfl
      · cases read
  · cases read

end ClasspathEntry

end Linkage
