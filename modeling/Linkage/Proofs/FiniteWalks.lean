import Linkage.Proofs.WellFormedWalks

/-!
Walks that end, and one that does not.

A step follows the dependencies of an artifact only if the artifact has a file and was not looked at
before. Where paths have a greatest length, only finitely many artifacts can have files in the
repositories, because the parts of a coordinate appear in the path of its file. But a coordinate
whose parts make the path absolute leads out of the repositories, and then its group does not appear
in the path. So a walk ends exactly if it comes across finitely many artifacts of that kind. One
description is enough to make it come across ever new ones.
-/

set_option autoImplicit false

namespace Linkage

/-! ## Coordinates with short parts

The lists of all short texts and coordinates serve as a measure only. They are far too long to be
computed. -/

namespace Short

noncomputable def characters : List Char := (List.range 0x110000).map Char.ofNat

/-- All texts of at most some length. -/
noncomputable def texts : Nat → List (List Char)
  | 0 => [[]]
  | length + 1 => [] :: characters.flatMap fun c => (texts length).map (c :: ·)

/-- All strings of at most some length. -/
noncomputable def strings (length : Nat) : List String := (texts length).map String.ofList

/-- All coordinates whose parts have at most some length. -/
noncomputable def coordinates (length : Nat) : List Coordinate :=
  (strings length).flatMap fun group => (strings length).flatMap fun artifact =>
    (strings length).flatMap fun version =>
      (none :: (strings length).map some).map fun classifier =>
        ⟨group, artifact, version, classifier⟩

private theorem mem_characters (c : Char) : c ∈ characters := by
  refine List.mem_map.2 ⟨c.toNat, List.mem_range.2 ?_, Char.ofNat_toNat c⟩
  rcases c.valid with low | high
  · have := c.toNat_val
    exact Nat.lt_trans low (by decide)
  · exact high.2

private theorem mem_texts {length : Nat} {text : List Char} (short : text.length ≤ length) :
    text ∈ texts length := by
  induction length generalizing text with
  | zero =>
    rw [List.length_eq_zero_iff.1 (Nat.le_zero.1 short)]
    exact List.mem_singleton_self []
  | succ length ih =>
    cases text with
    | nil => exact List.mem_cons_self
    | cons c rest =>
      refine List.mem_cons_of_mem _ (List.mem_flatMap.2 ⟨c, mem_characters c, ?_⟩)
      exact List.mem_map.2 ⟨rest, ih (Nat.le_of_succ_le_succ short), rfl⟩

theorem mem_strings {length : Nat} {text : String} (short : text.toList.length ≤ length) :
    text ∈ strings length :=
  List.mem_map.2 ⟨text.toList, mem_texts short, String.ofList_toList⟩

private theorem mem_coordinates {length : Nat} {c : Coordinate}
    (group : c.group.toList.length ≤ length) (artifact : c.artifact.toList.length ≤ length)
    (version : c.version.toList.length ≤ length)
    (classifier : ∀ text, c.classifier = some text → text.toList.length ≤ length) :
    c ∈ coordinates length := by
  refine List.mem_flatMap.2 ⟨c.group, mem_strings group, ?_⟩
  refine List.mem_flatMap.2 ⟨c.artifact, mem_strings artifact, ?_⟩
  refine List.mem_flatMap.2 ⟨c.version, mem_strings version, ?_⟩
  refine List.mem_map.2 ⟨c.classifier, ?_, rfl⟩
  cases found : c.classifier with
  | none => exact List.mem_cons_self
  | some text =>
    exact List.mem_cons_of_mem _ (List.mem_map.2 ⟨text, mem_strings (classifier text found), rfl⟩)

end Short

/-! ## Lengths of paths -/

private theorem length_le_utf8ByteSize (text : String) : text.toList.length ≤ text.utf8ByteSize := by
  have sizes : text.utf8ByteSize = (text.toList.flatMap String.utf8EncodeChar).length := by
    conv => lhs; rw [← String.ofList_toList (s := text)]
    simp [String.utf8ByteSize, String.ofList, List.utf8Encode]
  rw [sizes]
  generalize text.toList = cs
  induction cs with
  | nil => simp
  | cons c rest inner =>
    have positive := Char.utf8Size_pos c
    simp only [List.flatMap_cons, List.length_append, String.length_utf8EncodeChar,
      List.length_cons]
    omega

namespace Path

/-- What is joined to a path follows it, unless it is absolute. -/
theorem join_length (base : Path) {child : Path} (relative : child.isAbsolute = false) :
    base.text.toList.length ≤ (base.join child).text.toList.length ∧
      child.text.toList.length ≤ (base.join child).text.toList.length := by
  simp only [join, relative]
  split
  · contradiction
  · split
    · simp
    · simp [String.toList_append]
      omega

private theorem join_of_absolute (base : Path) {child : Path} (absolute : child.isAbsolute = true) :
    base.join child = child := by
  rw [join, if_pos absolute]

/-- A joined path that is not absolute comes from two that are not. -/
theorem relative_of_join {base child : Path} (relative : (base.join child).isAbsolute = false) :
    base.isAbsolute = false ∧ child.isAbsolute = false := by
  by_cases absolute : child.isAbsolute = true
  · simp [join, absolute] at relative
  · have childRelative : child.isAbsolute = false := by simpa using absolute
    refine ⟨?_, childRelative⟩
    cases text : base.text.toList with
    | nil => simp [isAbsolute, Text.startsWith, text]
    | cons c rest =>
      have joined : ∃ more, (base.join child).text.toList = c :: rest ++ more := by
        simp only [join, childRelative]
        split
        · contradiction
        · split
          · exact ⟨child.text.toList, by simp [String.toList_append, text]⟩
          · exact ⟨'/' :: child.text.toList, by simp [String.toList_append, text]⟩
      obtain ⟨more, same⟩ := joined
      simpa [isAbsolute, Text.startsWith, same, text, List.isPrefixOf] using relative

end Path

private theorem FileSystem.length_of_find {fs : FileSystem} {limit : Nat}
    (limited : fs.maxPathBytes = some limit) {path : Path} {node : Node}
    (found : fs.find path = .ok node) : path.text.toList.length ≤ limit := by
  obtain ⟨_, located, _⟩ := bind_ok found
  obtain ⟨_, checked, _⟩ := bind_ok located
  have short : path.text.utf8ByteSize < limit := by
    simp only [checkText, limited, Option.any_some, decide_eq_true_eq] at checked
    split at checked
    · cases checked
    · split at checked
      · cases checked
      · split at checked
        · cases checked
        · omega
  exact Nat.le_trans (length_le_utf8ByteSize path.text) (Nat.le_of_lt short)

/-! ## Files outside of the repositories -/

namespace FileSystem

variable {fs : FileSystem}

private theorem fromRoot_of_enter {location next : Location} {part : String}
    (entered : fs.enter location part = .ok next) : next.fromRoot = location.fromRoot := by
  unfold enter at entered
  split at entered
  · split at entered
    · cases entered
      rfl
    · split at entered
      · unfold Location.parent? at entered
        grind
      · split at entered
        · cases entered
        · split at entered
          · cases entered
            rfl
          · cases entered
  · cases entered
  · cases entered

/-- An absolute path leads to a file only if some file is placed from the root. -/
theorem exists_fromRoot_of_isFile {path : Path} (absolute : path.isAbsolute = true)
    (isFile : fs.isFile path = true) : ∃ row ∈ fs.nodes, row.1.fromRoot = true := by
  unfold FileSystem.isFile at isFile
  split at isFile
  · next node found =>
    obtain ⟨location, located, found⟩ := bind_ok found
    obtain ⟨_, _, entered⟩ := bind_ok located
    have fromRoot : location.fromRoot = true :=
      foldlM_keeps (fun location => location.fromRoot = true) entered absolute
        fun state next _ _ entered kept => (fromRoot_of_enter entered).trans kept
    unfold node? at found
    split at found
    next stands =>
      cases found
      split at stands
      · cases stands
        cases isFile
      · obtain ⟨before, behind, rows, _⟩ := List.lookup_eq_some_iff.1 stands
        exact ⟨(location, node), by simp [rows], fromRoot⟩
    next => cases found
  · cases isFile

end FileSystem

namespace LocalRepositories

variable {repositories : LocalRepositories} {fs : FileSystem} {limit : Nat} {c : Coordinate}

/-- Whether the parts of a coordinate lead to a file outside of the repositories. -/
def leadsOut (c : Coordinate) : Bool := (relativePath c "jar" c.classifier).isAbsolute

private theorem length_of_locate (limited : fs.maxPathBytes = some limit) {relative path : Path}
    (inside : relative.isAbsolute = false) (located : repositories.locate fs relative = some path) :
    relative.text.toList.length ≤ limit := by
  have isFile := List.find?_some located
  obtain ⟨root, _, same⟩ := List.mem_map.1 (List.mem_of_find?_eq_some located)
  have longer := (Path.join_length root inside).2
  simp only [FileSystem.isFile] at isFile
  split at isFile
  · next found =>
    rw [same] at longer
    exact Nat.le_trans longer (FileSystem.length_of_find limited found)
  · cases isFile

/-- An artifact with a file in the repositories has short parts. -/
theorem mem_coordinates_of_jarPath (limited : fs.maxPathBytes = some limit)
    (inside : leadsOut c = false) {path : Path} (located : repositories.jarPath fs c = some path) :
    c ∈ Short.coordinates limit := by
  have short := length_of_locate limited inside located
  simp only [leadsOut, relativePath] at inside short
  obtain ⟨relativeVersion, relativeName⟩ := Path.relative_of_join inside
  obtain ⟨relativeArtifact, isVersion⟩ := Path.relative_of_join relativeVersion
  obtain ⟨_, isArtifact⟩ := Path.relative_of_join relativeArtifact
  obtain ⟨insideVersion, insideName⟩ := Path.join_length
    (((Path.mk (Text.replaceChar '.' '/' c.group)).join ⟨c.artifact⟩).join ⟨c.version⟩)
    relativeName
  obtain ⟨insideArtifact, hasVersion⟩ := Path.join_length
    ((Path.mk (Text.replaceChar '.' '/' c.group)).join ⟨c.artifact⟩) isVersion
  obtain ⟨hasGroup, hasArtifact⟩ := Path.join_length
    (Path.mk (Text.replaceChar '.' '/' c.group)) isArtifact
  have groupLength : (Text.replaceChar '.' '/' c.group).toList.length = c.group.toList.length := by
    simp [Text.replaceChar]
  refine Short.mem_coordinates ?_ ?_ ?_ ?_
  · simp only [groupLength] at hasGroup
    omega
  · simp only at hasArtifact
    omega
  · simp only at hasVersion
    omega
  · intro text classifier
    have named : text.toList.length ≤ (fileName c "jar" c.classifier).toList.length := by
      simp [fileName, classifier, String.toList_append]
      omega
    simp only at insideName
    omega

private theorem jarPath_of_leadsOut (unrooted : ∀ row ∈ fs.nodes, row.1.fromRoot = false)
    (out : leadsOut c = true) : repositories.jarPath fs c = none := by
  rw [jarPath, locate, List.find?_eq_none]
  intro path member isFile
  obtain ⟨root, _, rfl⟩ := List.mem_map.1 member
  rw [Path.join_of_absolute root out] at isFile
  obtain ⟨row, isRow, fromRoot⟩ := FileSystem.exists_fromRoot_of_isFile out isFile
  rw [unrooted row isRow] at fromRoot
  cases fromRoot

end LocalRepositories

/-! ## What is left of a walk -/

namespace Walk

open LocalRepositories (leadsOut)

variable {repositories : LocalRepositories} {fs : FileSystem} {walk next : Walk}
  {path : DependencyPath} {rest : List DependencyPath} {memory later : PomMemory}
  {limit bound : Nat} {result : Except CheckerError DependencyGraph}

/-- The artifacts that have been looked at and whose files stand outside of the repositories. -/
def strays (repositories : LocalRepositories) (fs : FileSystem) (walk : Walk) : List Coordinate :=
  walk.expanded.filter fun c => leadsOut c && (repositories.jarPath fs c).isSome

/-- How many artifacts can still turn out to have files, if so many of them can be strays. -/
noncomputable def remaining (repositories : LocalRepositories) (fs : FileSystem)
    (limit bound : Nat) (walk : Walk) : Nat :=
  unvisited (Short.coordinates limit) walk.expanded + (bound - (walk.strays repositories fs).length)

private theorem length_strays_cons {expanded : List Coordinate} {leaf : Coordinate}
    (grown : next.expanded = leaf :: expanded) (same : walk.expanded = expanded) :
    (next.strays repositories fs).length = (walk.strays repositories fs).length +
      (if leadsOut leaf && (repositories.jarPath fs leaf).isSome then 1 else 0) := by
  rw [strays, strays, grown, same, List.filter_cons]
  split <;> rfl

/-- With each step the artifacts that can have files become fewer, or the queue becomes shorter. -/
theorem Stepped.decreases (stepped : Stepped repositories fs memory walk path rest next)
    (queued : walk.queue = path :: rest) (limited : fs.maxPathBytes = some limit)
    (few : (next.strays repositories fs).length ≤ bound) :
    next.remaining repositories fs limit bound < walk.remaining repositories fs limit bound ∨
      next.remaining repositories fs limit bound ≤ walk.remaining repositories fs limit bound ∧
        next.queue.length < walk.queue.length := by
  have shorter : rest.length < walk.queue.length := by simp [queued]
  cases stepped with
  | endless => exact .inr ⟨Nat.le_refl _, shorter⟩
  | again => exact .inr ⟨Nat.le_refl _, shorter⟩
  | unlocated leaf _ _ missing =>
    refine .inr ⟨?_, shorter⟩
    have fewer := unvisited_cons_le (Short.coordinates limit) walk.expanded leaf
    have same := @length_strays_cons repositories fs walk
      ((walk.take path rest).withoutFile leaf path) _ leaf rfl rfl
    simp only [missing, Option.isSome_none, Bool.and_false, Bool.false_eq_true, if_false] at same
    simp only [remaining, same]
    exact Nat.add_le_add_right fewer _
  | located leaf file dependencies _ new found =>
    refine .inl ?_
    have grown := @length_strays_cons repositories fs walk
      ((walk.take path rest).withFile leaf path file dependencies) _ leaf rfl rfl
    simp only [found, Option.isSome_some, Bool.and_true] at grown
    cases out : leadsOut leaf with
    | true =>
      have fewer := unvisited_cons_le (Short.coordinates limit) walk.expanded leaf
      simp only [out, if_true] at grown
      simp only [remaining]
      change unvisited _ (leaf :: walk.expanded) + _ < _
      omega
    | false =>
      have listed := LocalRepositories.mem_coordinates_of_jarPath limited out found
      have fewer := unvisited_cons_lt listed new
      simp only [out, Bool.false_eq_true, if_false] at grown
      simp only [remaining]
      change unvisited _ (leaf :: walk.expanded) + _ < _
      omega

theorem ends_of_few_strays {walk : Walk} {memory : PomMemory}
    (limited : fs.maxPathBytes = some limit)
    (few : ∀ steps final later, after repositories fs steps walk memory = (.ok final, later) →
      (final.strays repositories fs).length ≤ bound) :
    Ends repositories fs walk memory := by
  cases queued : walk.queue with
  | nil => exact ends_of_done queued
  | cons path rest =>
    cases stepped : step repositories fs walk path rest memory with
    | mk outcome later =>
      cases outcome with
      | error error => exact ends_of_failed queued stepped
      | ok next =>
        have further : ∀ steps final last,
            after repositories fs steps next later = (.ok final, last) →
              (final.strays repositories fs).length ≤ bound :=
          fun steps final last walked =>
            few (steps + 1) final last ((after_succ queued stepped).trans walked)
        have decreases := (step_ok stepped).decreases queued limited (further 0 next later rfl)
        exact ends_of_next queued stepped (ends_of_few_strays limited further)
termination_by (walk.remaining repositories fs limit bound, walk.queue.length)
decreasing_by
  rcases decreases with fewer | ⟨fewer, shorter⟩
  · exact .left _ _ fewer
  · rcases Nat.lt_or_eq_of_le fewer with fewer | same
    · exact .left _ _ fewer
    · rw [same]
      exact .right _ shorter

private theorem Returns.few_strays (returns : Returns repositories fs walk memory result later) :
    ∃ bound, ∀ steps final last, after repositories fs steps walk memory = (.ok final, last) →
      (final.strays repositories fs).length ≤ bound := by
  induction returns with
  | @done walk memory empty =>
    refine ⟨(walk.strays repositories fs).length, fun steps final last walked => ?_⟩
    rw [after_done empty] at walked
    cases walked
    exact Nat.le_refl _
  | @failed walk path rest memory later error queued stepped =>
    refine ⟨(walk.strays repositories fs).length, fun steps final last walked => ?_⟩
    cases steps with
    | zero =>
      cases walked
      exact Nat.le_refl _
    | succ steps =>
      rw [after_failed queued stepped] at walked
      cases walked
  | @next walk next path rest memory between later result queued stepped _ ih =>
    obtain ⟨bound, few⟩ := ih
    refine ⟨max (walk.strays repositories fs).length bound, fun steps final last walked => ?_⟩
    cases steps with
    | zero =>
      cases walked
      exact Nat.le_max_left _ _
    | succ steps =>
      rw [after_succ queued stepped] at walked
      exact Nat.le_trans (few steps final last walked) (Nat.le_max_right _ _)

/-- Where paths have a greatest length, the queue of a walk is empty after finitely many steps, or a
step fails, exactly if the walk comes across a bounded number of artifacts with files outside of the
repositories. In particular this is so where no coordinate leads to such a file, whatever the
descriptions of artifacts hold, and whatever is remembered of them. -/
theorem ofRoots_ends_iff (limited : fs.maxPathBytes = some limit) (roots : List Coordinate)
    (memory : PomMemory) :
    ((∃ steps, EndsWithin repositories fs steps (.ofRoots roots) memory) ↔
      ∃ bound, ∀ steps walk later,
        after repositories fs steps (.ofRoots roots) memory = (.ok walk, later) →
          (walk.strays repositories fs).length ≤ bound) ∧
    ((∀ c, leadsOut c = true → repositories.jarPath fs c = none) →
      ∃ steps, EndsWithin repositories fs steps (.ofRoots roots) memory) := by
  refine ⟨⟨?_, ?_⟩, ?_⟩
  · intro within
    obtain ⟨_, _, returns⟩ := ends_iff.2 within
    exact returns.few_strays
  · rintro ⟨bound, few⟩
    exact ends_iff.1 (ends_of_few_strays limited few)
  · intro unstored
    have few (walk : Walk) : (walk.strays repositories fs).length ≤ 0 := by
      rw [Nat.le_zero, List.length_eq_zero_iff, strays, List.filter_eq_nil_iff]
      intro c _ both
      obtain ⟨out, stored⟩ := Bool.and_eq_true_iff.1 both
      rw [unstored c out] at stored
      cases stored
    exact ends_iff.1 (ends_of_few_strays limited fun _ final _ _ => few final)

namespace CycleSample

open PrecedenceSample (sampleRepositories)

def limitedFiles : FileSystem := { files with maxPathBytes := some 4096 }

/-- The application and the library depend on each other. -/
theorem cycle_ends : limitedFiles.maxPathBytes = some 4096 ∧
    (∀ c, leadsOut c = true → sampleRepositories.jarPath limitedFiles c = none) ∧
    ∃ steps, EndsWithin sampleRepositories limitedFiles steps (.ofRoots [app, lib]) [] := by
  have limited : limitedFiles.maxPathBytes = some 4096 := rfl
  have unrooted : ∀ row ∈ limitedFiles.nodes, row.1.fromRoot = false := by decide +kernel
  have unstored : ∀ c, leadsOut c = true → sampleRepositories.jarPath limitedFiles c = none :=
    fun c out => LocalRepositories.jarPath_of_leadsOut unrooted out
  exact ⟨limited, unstored, (ofRoots_ends_iff limited [app, lib] []).2 unstored⟩

end CycleSample

end Walk

/-! ## A walk without end

A group can be given by the group of the project that declares the dependency. So a description can
declare its own artifact in ever new groups. -/

namespace EndlessSample

open PrecedenceSample (blank sampleRepositories)
open Placeholder (Piece Expands PropertyName textOf value?)

/-- The text that is a letter and so many others behind it. -/
def letters (n : Nat) : List Char := 'g' :: List.replicate n 'x'

/-- The artifact with an absolute name in one of its groups. -/
def stray (n : Nat) : Coordinate := .plain (String.ofList (letters n)) "/lib/x" "1"

/-- Whatever group the artifact is looked for in, it depends on itself in a longer one. -/
def strayPom : Pom :=
  { blank with dependencies := [
    ⟨"$\x7bproject.groupId\x7dx", "/lib/x", some "1", none, none, none, false, []⟩] }

def strayFiles : List (Location × Node) := [
  (⟨true, ["lib"]⟩, .directory), (⟨true, ["lib", "x-1.jar"]⟩, .archive []),
  (⟨true, ["lib", "x-1.pom"]⟩, .file (Utf8.encode strayPom.written))]

/-- The file of the artifact stands outside of the repository, which is empty. -/
def files : FileSystem := ⟨(⟨false, ["m2"]⟩, .directory) :: strayFiles, some 4096, some 255⟩

/-- Whether the artifact is found with its description. -/
structure Strays (repositories : LocalRepositories) (fs : FileSystem) : Prop where
  located : ∀ n, (repositories.jarPath fs (stray n)).isSome = true
  declared : ∀ n, (PomMemory.directDependencies [] repositories fs (stray n)).1 =
    .ok [.plain (stray (n + 1))]

private theorem stray_injective {n m : Nat} (same : stray n = stray m) : n = m := by
  have groups := congrArg (fun c => c.group.toList.length) same
  simpa [stray, Coordinate.plain, letters] using groups

/-! ### The description -/

def literals (n : Nat) : List Piece :=
  .literal 'g' (by decide) :: List.replicate n (.literal 'x' (by decide))

private theorem textOf_literals (n : Nat) : textOf (literals n) = letters n := by
  simp [textOf, literals, letters, Piece.text, List.flatMap_replicate]

private theorem expands_literals (properties : Properties) (n : Nat) :
    Expands properties 0 (literals n) (letters n) := by
  refine .literal ?_
  induction n with
  | zero => exact .nil
  | succ n ih => exact .literal ih

def groupName : PropertyName := ⟨"project.groupId".toList, by decide, by decide⟩

private theorem expand_group {properties : Properties} {n : Nat}
    (known : value? properties groupName.text = some (letters n)) :
    Placeholder.expand properties "$\x7bproject.groupId\x7dx" =
      String.ofList (letters (n + 1)) := by
  have reads : textOf [.placeholder groupName, .literal 'x' (by decide)] =
      "$\x7bproject.groupId\x7dx".toList := by decide
  have expands : Expands properties 1 [.placeholder groupName, .literal 'x' (by decide)]
      (letters n ++ ['x']) :=
    .defined (known.trans (congrArg some (textOf_literals n).symm)) (expands_literals properties n)
      (.literal .nil)
  have longer : letters n ++ ['x'] = letters (n + 1) := by
    simp [letters, List.replicate_succ']
  rw [Placeholder.expand, ← reads, expands.replaceRounds (by decide), longer]

private theorem relativePath_stray (n : Nat) (ending : String) :
    LocalRepositories.relativePath (stray n) ending none =
      ⟨LocalRepositories.fileName (stray 0) ending none⟩ := by
  have absolute :
      (Path.mk (LocalRepositories.fileName (stray 0) ending none)).isAbsolute = true := by
    simp [Path.isAbsolute, Text.startsWith, LocalRepositories.fileName, stray, Coordinate.plain,
      String.toList_append, List.isPrefixOf]
  exact (Path.join_of_absolute _ absolute : _)

private theorem value?_group (n : Nat) :
    value? (PomMeaning.propertiesIn (stray n) strayPom .nothing) groupName.text =
      some (letters n) := by
  have properties : PomMeaning.propertiesIn (stray n) strayPom .nothing = [
      ("pom.version", "1"), ("project.version", "1"), ("pom.artifactId", "/lib/x"),
      ("project.artifactId", "/lib/x"), ("pom.groupId", String.ofList (letters n)),
      ("project.groupId", String.ofList (letters n))] := rfl
  have named : String.ofList groupName.text = "project.groupId" := String.ofList_toList
  have passed : ∀ name ∈ ["pom.version", "project.version", "pom.artifactId",
      "project.artifactId", "pom.groupId"], (compare "project.groupId" name == .eq) = false := by
    decide
  simp only [List.forall_mem_cons] at passed
  rw [value?, named, properties, Ordered.get?]
  simp [passed]

private theorem expand_unmarked (properties : Properties) {text : String}
    (unmarked : Text.containsPart ['$', '\x7b'] text.toList = false) :
    Placeholder.expand properties text = text := by
  have kept : Placeholder.replaceRounds properties Placeholder.maxRounds text.toList =
      text.toList := by
    rw [Placeholder.maxRounds, Placeholder.replaceRounds, if_neg (Bool.eq_false_iff.1 unmarked)]
  rw [Placeholder.expand, kept, String.ofList_toList]

private theorem expand_declared {properties : Properties} {n : Nat}
    (known : value? properties groupName.text = some (letters n)) :
    strayPom.dependencies.map (·.expand properties) =
      [⟨String.ofList (letters (n + 1)), "/lib/x", some "1", none, none, none, false, []⟩] := by
  have artifact : Placeholder.expand properties "/lib/x" = "/lib/x" :=
    expand_unmarked properties (by decide)
  have version : Placeholder.expand properties "1" = "1" := expand_unmarked properties (by decide)
  simp [strayPom, PomDependency.expand, expand_group known, artifact, version]

private theorem dependencies_stray (n : Nat) :
    (PomMeaning.of (stray n) strayPom .nothing fun _ => .nothing).dependencies.filterMap
      (·.dependency?) = [.plain (stray (n + 1))] := by
  have whole : (PomMeaning.of (stray n) strayPom .nothing fun _ => .nothing).dependencies =
      PomMeaning.replacing [] ((strayPom.dependencies.map
        (·.expand (PomMeaning.propertiesIn (stray n) strayPom .nothing))).map
          (PomMeaning.filled fun _ => none)) := rfl
  have released : Placeholder.isPending "1" = false := by decide
  rw [whole, expand_declared (value?_group n)]
  simp [PomMeaning.replacing, PomMeaning.lastOfEach, PomMeaning.filled, PomDependency.dependency?,
    PomDependency.isJar, PomDependency.coordinate?, released, Dependency.plain, stray,
    Coordinate.plain]

/-- What is found is found in every group, because the name of the artifact is absolute. -/
theorem strays_of_locate {repositories : LocalRepositories} {fs : FileSystem} {path : Path}
    (jar : (repositories.locate fs ⟨"/lib/x-1.jar"⟩).isSome = true)
    (pom : repositories.locate fs ⟨"/lib/x-1.pom"⟩ = some path)
    (reads : Pom.load fs path = .ok strayPom) : Strays repositories fs where
  located n := by
    rw [LocalRepositories.jarPath, show (stray n).classifier = none from rfl, relativePath_stray]
    exact jar
  declared n := by
    have found : repositories.pomPath fs (stray n) = some path := by
      rw [LocalRepositories.pomPath, relativePath_stray]
      exact pom
    rw [← dependencies_stray]
    exact PomMemory.directDependencies_of_load found reads rfl rfl

theorem load_stray : Pom.load files ⟨"/lib/x-1.pom"⟩ = .ok strayPom :=
  Pom.load_written rfl (by decide +kernel)

theorem files_stray : Strays sampleRepositories files :=
  strays_of_locate (by decide +kernel) (by decide +kernel) load_stray

/-! ### The walk -/

/-- A walk that is about to look at the artifact in one of its groups, and has not looked at it in
that or a longer one. -/
structure Follows (repositories : LocalRepositories) (fs : FileSystem) (n : Nat)
    (path : DependencyPath) (walk : Walk) (memory : PomMemory) : Prop where
  queued : walk.queue = [path]
  ends : path.leaf = some (stray n)
  unexcluded : ∀ node ∈ path.dependencies, node.exclusions = []
  new : ∀ m, n ≤ m → stray m ∉ walk.expanded
  agrees : memory.Agrees repositories fs []

variable {repositories : LocalRepositories} {fs : FileSystem} {n : Nat} {path : DependencyPath}
  {walk : Walk} {memory : PomMemory}

/-- The only dependency of the artifact is followed into the next group. -/
theorem Follows.step (follows : Follows repositories fs n path walk memory)
    (strays : Strays repositories fs) :
    ∃ next later, Walk.step repositories fs walk path [] memory = (.ok next, later) ∧
      Follows repositories fs (n + 1) (path.append (.plain (stray (n + 1)))) next later := by
  obtain ⟨file, located⟩ := Option.isSome_iff_exists.1 (strays.located n)
  have read : (memory.directDependencies repositories fs (stray n)).1 =
      .ok [.plain (stray (n + 1))] := (follows.agrees (stray n)).trans (strays.declared n)
  have stepped : Walk.step repositories fs walk path [] memory = _ :=
    Walk.step_of_located follows.ends (follows.new n (Nat.le_refl n)) located read
  have followed : Walk.follows path (.plain (stray (n + 1))) = true := by
    rw [Walk.follows_iff]
    refine ⟨by simp [Dependency.plain], .inr (by simp [Dependency.plain]), ?_⟩
    intro earlier member
    simp [follows.unexcluded earlier member]
  refine ⟨_, _, stepped, ?_, ?_, ?_, ?_, ?_⟩
  · simp [Walk.withFile, Walk.take, followed]
  · simp [DependencyPath.leaf, DependencyPath.append, Dependency.plain]
  · intro node member
    rcases List.mem_append.1 member with earlier | last
    · exact follows.unexcluded node earlier
    · rw [List.mem_singleton.1 last]
      rfl
  · intro m above member
    rcases List.mem_cons.1 member with same | earlier
    · have := stray_injective same
      omega
    · exact follows.new m (by omega) earlier
  · exact (Walk.agrees_of_step stepped).trans follows.agrees

theorem Follows.endless (follows : Follows repositories fs n path walk memory)
    (strays : Strays repositories fs) (steps : Nat) :
    ∃ final later, Walk.after repositories fs steps walk memory = (.ok final, later) ∧
      final.queue ≠ [] := by
  induction steps generalizing n path walk memory with
  | zero => exact ⟨walk, memory, rfl, by simp [follows.queued]⟩
  | succ steps ih =>
    obtain ⟨next, later, stepped, further⟩ := follows.step strays
    rw [Walk.after_succ follows.queued stepped]
    exact ih further

theorem Follows.not_ends (follows : Follows repositories fs n path walk memory)
    (strays : Strays repositories fs) : ¬ Walk.Ends repositories fs walk memory := by
  intro ends
  obtain ⟨steps, within⟩ := Walk.ends_iff.1 ends
  obtain ⟨final, later, walked, waiting⟩ := follows.endless strays steps
  exact waiting (within final later walked)

/-- The artifact itself is where the walk starts. -/
theorem follows_ofRoots : Follows sampleRepositories files 0 (.ofRoot (stray 0))
    (.ofRoots [stray 0]) [] where
  queued := rfl
  ends := rfl
  unexcluded := by simp [DependencyPath.ofRoot, Dependency.plain]
  new := by simp [Walk.ofRoots]
  agrees := fun _ => rfl

/-- Paths have a greatest length and there are two files, but the queue is never empty. -/
theorem queue_never_empty : files.maxPathBytes = some 4096 ∧ files.nodes.length = 4 ∧
    ∀ steps, ∃ walk later,
      Walk.after sampleRepositories files steps (.ofRoots [stray 0]) [] = (.ok walk, later) ∧
        walk.queue ≠ [] :=
  ⟨rfl, rfl, follows_ofRoots.endless files_stray⟩

end EndlessSample

end Linkage
