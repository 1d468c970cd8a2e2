import Linkage.Pom.Effective
import Linkage.Proofs.Encoding
import Linkage.Proofs.Inquiry
import Linkage.Proofs.OrderedSets
import Linkage.Proofs.PlaceholderExpansion
import Linkage.Proofs.WrittenElements
import Mathlib.Data.List.Nodup

/-!
What counts in a project description.

The meaning of a description is given by that of its parent and those of its imports. A project's
own facts and declarations come first, then what it inherits, and imports count only for keys that
nothing else manages. Within the limit of levels, a description is built exactly if it, its parents
and its imports can be read, and the tables that are built look up what the meaning says.
-/

set_option autoImplicit false

namespace Linkage

/-! ## Meanings -/

/-- What a project description amounts to. Of several properties with one name the first one
counts. -/
structure PomMeaning where
  properties : Properties
  managed : Key → Option PomDependency
  dependencies : List PomDependency

namespace PomMeaning

/-- Nothing is known of a project without a description. -/
def nothing : PomMeaning := ⟨[], fun _ => none, []⟩

section Parts

variable (coordinate : Coordinate) (pom : Pom) (parent : PomMeaning)
  (imported : Coordinate → PomMeaning)

/-- What every project says of itself, then what it declares, the last declaration first, then what
it inherits. -/
def propertiesIn : Properties :=
  (EffectivePom.projectProperties coordinate pom).reverse ++ (pom.properties.reverse ++
    parent.properties)

def managementIn : List PomDependency :=
  pom.management.map (·.expand (propertiesIn coordinate pom parent))

/-- The projects whose managed dependencies are imported, in order. An import without a version
counts for nothing. -/
def importsIn : List Coordinate :=
  ((managementIn coordinate pom parent).filter (·.isImport)).filterMap fun d =>
    d.version.map fun version => .plain d.group d.artifact version

/-- The last declaration of a key that is no import, else what the parent manages, else what the
first import that manages the key says. -/
def managedIn (key : Key) : Option PomDependency :=
  let own := (managementIn coordinate pom parent).filter (!·.isImport)
  (own.reverse.find? (·.key = key)).or <| (parent.managed key).or <|
    (importsIn coordinate pom parent).findSome? fun c => (imported c).managed key

end Parts

/-- A declaration with the version, the scope and the exclusions that it leaves open. -/
def filled (managed : Key → Option PomDependency) (d : PomDependency) : PomDependency :=
  { d with
    version := d.version.or ((managed d.key).bind (·.version))
    scope := d.scope.or ((managed d.key).bind (·.scope))
    exclusions :=
      if d.exclusions = [] then ((managed d.key).map (·.exclusions)).getD [] else d.exclusions }

/-- Of the declarations with one key the last one. -/
def lastOfEach : List PomDependency → List PomDependency
  | [] => []
  | d :: rest => if ∃ other ∈ rest, other.key = d.key then lastOfEach rest else d :: lastOfEach rest

/-- Declarations in the place of what is inherited under their keys. -/
def replacing (inherited declared : List PomDependency) : List PomDependency :=
  inherited.filter (fun d => ∀ own ∈ declared, own.key ≠ d.key) ++ lastOfEach declared

/-- The meaning of a description by those of its parent and its imports. -/
def of (coordinate : Coordinate) (pom : Pom) (parent : PomMeaning)
    (imported : Coordinate → PomMeaning) : PomMeaning where
  properties := propertiesIn coordinate pom parent
  managed := managedIn coordinate pom parent imported
  dependencies := replacing parent.dependencies <| pom.dependencies.map fun d =>
    filled (managedIn coordinate pom parent imported)
      (d.expand (propertiesIn coordinate pom parent))

/-- The meaning of the description of an artifact, if there is one, where all that it needs can be
read and parents and imports go at most so many levels deep. -/
inductive Holds (repositories : LocalRepositories) (fs : FileSystem) :
    Nat → Coordinate → Option PomMeaning → Prop where
  | absent {levels : Nat} {coordinate : Coordinate}
      (missing : repositories.pomPath fs coordinate = none) :
      Holds repositories fs levels coordinate none
  | present {levels : Nat} {coordinate : Coordinate} {path : Path} {pom : Pom}
      {parent : Option PomMeaning} {imported : Coordinate → Option PomMeaning}
      (found : repositories.pomPath fs coordinate = some path)
      (reads : Pom.load fs path = .ok pom)
      (orphan : pom.parent = none → parent = none)
      (inherits : ∀ named, pom.parent = some named →
        Holds repositories fs levels (EffectivePom.parentCoordinate named) parent)
      (imports : ∀ c ∈ importsIn coordinate pom (parent.getD nothing),
        Holds repositories fs levels c (imported c)) :
      Holds repositories fs (levels + 1) coordinate
        (some (of coordinate pom (parent.getD nothing) fun c => (imported c).getD nothing))

end PomMeaning

/-! ## Declared dependencies -/

namespace PomMeaning

private theorem mem_of_mem_lastOfEach {d : PomDependency} {declared : List PomDependency}
    (member : d ∈ lastOfEach declared) : d ∈ declared := by
  induction declared with
  | nil => exact member
  | cons first rest ih =>
    rw [lastOfEach] at member
    split at member
    · exact List.mem_cons_of_mem _ (ih member)
    · rcases List.mem_cons.1 member with same | later
      · exact List.mem_cons.2 (.inl same)
      · exact List.mem_cons_of_mem _ (ih later)

private theorem nodup_lastOfEach (declared : List PomDependency) :
    ((lastOfEach declared).map (·.key)).Nodup := by
  induction declared with
  | nil => exact List.nodup_nil
  | cons first rest ih =>
    rw [lastOfEach]
    split
    · exact ih
    · next unrepeated =>
      refine List.nodup_cons.2 ⟨fun member => unrepeated ?_, ih⟩
      obtain ⟨other, later, same⟩ := List.mem_map.1 member
      exact ⟨other, mem_of_mem_lastOfEach later, same⟩

private theorem nodup_replacing {inherited : List PomDependency} (distinct : (inherited.map (·.key)).Nodup)
    (declared : List PomDependency) : ((replacing inherited declared).map (·.key)).Nodup := by
  rw [replacing, List.map_append]
  refine List.Nodup.append (distinct.sublist ?_) (nodup_lastOfEach declared) ?_
  · exact List.Sublist.map _ List.filter_sublist
  · intro key kept added
    obtain ⟨old, old_mem, rfl⟩ := List.mem_map.1 kept
    obtain ⟨own, own_mem, same⟩ := List.mem_map.1 added
    have replaced := of_decide_eq_true (List.mem_filter.1 old_mem).2
    exact replaced own (mem_of_mem_lastOfEach own_mem) same

/-- Declarations that take their places one after another. -/
theorem foldl_addDependency (declared inherited : List PomDependency) :
    declared.foldl EffectivePom.addDependency inherited = replacing inherited declared := by
  induction declared generalizing inherited with
  | nil => simp [replacing, lastOfEach]
  | cons d rest ih =>
    rw [List.foldl_cons, ih, EffectivePom.addDependency, replacing, replacing, List.filter_append,
      List.filter_filter, List.append_assoc]
    congr 1
    · apply List.filter_congr
      intro old _
      rw [Bool.eq_iff_iff]
      simp only [Bool.and_eq_true, decide_eq_true_iff, bne_iff_ne, List.forall_mem_cons]
      exact ⟨fun kept => ⟨kept.2.symm, kept.1⟩, fun kept => ⟨kept.2, kept.1.symm⟩⟩
    · rw [lastOfEach]
      by_cases repeated : ∃ other ∈ rest, other.key = d.key
      · have dropped : ¬ ∀ own ∈ rest, own.key ≠ d.key := by simpa using repeated
        rw [if_pos repeated, List.filter_cons_of_neg (by simpa using dropped)]
        rfl
      · have kept : ∀ own ∈ rest, own.key ≠ d.key := by simpa using repeated
        rw [if_neg repeated, List.filter_cons_of_pos (by simpa using kept)]
        rfl

private theorem complete_eq_filled {management : List (Key × PomDependency)}
    {managed : Key → Option PomDependency}
    (lookup : ∀ key, Ordered.get? management key = managed key) (d : PomDependency) :
    EffectivePom.complete management d = filled managed d := by
  rw [EffectivePom.complete, filled, ← lookup]
  cases Ordered.get? management d.key with
  | none =>
    cases d
    simp +contextual
  | some found => simp [PomDependency.fillFrom, List.isEmpty_iff]

end PomMeaning

/-! ## Tables -/

namespace EffectivePom

open PomMeaning (nothing propertiesIn managementIn importsIn managedIn)

/-- A description that has been built looks up what a meaning says. No key stands twice in its
tables, or among its dependencies. -/
structure Renders (effective : EffectivePom) (meaning : PomMeaning) : Prop where
  properties : ∀ name,
    Ordered.get? effective.properties name = Ordered.get? meaning.properties name
  managed : ∀ key, Ordered.get? effective.management key = meaning.managed key
  dependencies : effective.dependencies = meaning.dependencies
  distinct : (effective.dependencies.map (·.key)).Nodup
  propertiesSorted : Ordered.Sorted (effective.properties.map (·.1))
  managementSorted : Ordered.Sorted (effective.management.map (·.1))

private theorem empty_renders : empty.Renders nothing where
  properties := fun _ => rfl
  managed := fun _ => rfl
  dependencies := rfl
  distinct := List.nodup_nil
  propertiesSorted := Ordered.sorted_nil
  managementSorted := Ordered.sorted_nil

private theorem getD_renders {result : Option EffectivePom} {meaning : Option PomMeaning}
    (renders : Option.Rel Renders result meaning) :
    (result.getD empty).Renders (meaning.getD nothing) := by
  cases renders with
  | some renders => exact renders
  | none => exact empty_renders

section Overriding

variable {properties : Properties} {management : List (Key × PomDependency)}

private theorem get?_overrideProperties (sorted : Ordered.Sorted (properties.map (·.1)))
    (added : Properties) (name : String) :
    Ordered.get? (overrideProperties properties added) name =
      (Ordered.get? added.reverse name).or (Ordered.get? properties name) := by
  rw [Ordered.get?_eq_find? added.reverse]
  exact Ordered.get?_foldl_put sorted Prod.fst Prod.snd added

theorem sorted_overrideProperties (sorted : Ordered.Sorted (properties.map (·.1)))
    (added : Properties) : Ordered.Sorted ((overrideProperties properties added).map (·.1)) :=
  sorted.foldl_put Prod.fst Prod.snd added

private theorem get?_overrideManagement (sorted : Ordered.Sorted (management.map (·.1)))
    (added : List PomDependency) (key : Key) :
    Ordered.get? (overrideManagement management added) key =
      (added.reverse.find? (·.key = key)).or (Ordered.get? management key) := by
  have looked : Ordered.get? (overrideManagement management added) key = _ :=
    Ordered.get?_foldl_put sorted PomDependency.key id added
  rwa [Option.map_id] at looked

private theorem sorted_overrideManagement (sorted : Ordered.Sorted (management.map (·.1)))
    (added : List PomDependency) :
    Ordered.Sorted ((overrideManagement management added).map (·.1)) :=
  sorted.foldl_put PomDependency.key id added

private theorem get?_extendManagement (sorted : Ordered.Sorted (management.map (·.1)))
    (added : List (Key × PomDependency)) (key : Key) :
    Ordered.get? (extendManagement management added) key =
      (Ordered.get? management key).or (Ordered.get? added key) := by
  rw [Ordered.get?_eq_find? added]
  exact Ordered.get?_foldl_putNew sorted Prod.fst Prod.snd added

private theorem sorted_extendManagement (sorted : Ordered.Sorted (management.map (·.1)))
    (added : List (Key × PomDependency)) :
    Ordered.Sorted ((extendManagement management added).map (·.1)) :=
  sorted.foldl_putNew Prod.fst Prod.snd added

end Overriding

section Steps

variable {coordinate : Coordinate} {pom : Pom} {parent : EffectivePom} {inherited : PomMeaning}
  (renders : parent.Renders inherited)

include renders

private theorem get?_propertiesOf (name : String) :
    Ordered.get? (propertiesOf coordinate parent pom) name =
      Ordered.get? (propertiesIn coordinate pom inherited) name := by
  have sorted := sorted_overrideProperties renders.propertiesSorted pom.properties
  rw [propertiesOf, get?_overrideProperties sorted,
    get?_overrideProperties renders.propertiesSorted, renders.properties, propertiesIn,
    Ordered.get?_append, Ordered.get?_append]

private theorem sorted_propertiesOf :
    Ordered.Sorted ((propertiesOf coordinate parent pom).map (·.1)) :=
  sorted_overrideProperties (sorted_overrideProperties renders.propertiesSorted _) _

private theorem expand_propertiesOf :
    PomDependency.expand (propertiesOf coordinate parent pom) =
      PomDependency.expand (propertiesIn coordinate pom inherited) := by
  funext d
  rw [PomDependency.expand, PomDependency.expand,
    Placeholder.expand_congr (get?_propertiesOf renders)]

private theorem assemble_renders {imported : Coordinate → PomMeaning}
    {management : List (Key × PomDependency)} (sorted : Ordered.Sorted (management.map (·.1)))
    (lookup : ∀ key,
      Ordered.get? management key = managedIn coordinate pom inherited imported key) :
    (assemble (propertiesOf coordinate parent pom) parent management pom).Renders
      (.of coordinate pom inherited imported) := by
  have dependencies :
      (assemble (propertiesOf coordinate parent pom) parent management pom).dependencies =
        (PomMeaning.of coordinate pom inherited imported).dependencies := by
    rw [assemble, PomMeaning.of, PomMeaning.foldl_addDependency, renders.dependencies]
    simp only [expand_propertiesOf renders, PomMeaning.complete_eq_filled lookup]
  refine ⟨get?_propertiesOf renders, lookup, dependencies, ?_, sorted_propertiesOf renders, sorted⟩
  rw [dependencies]
  exact PomMeaning.nodup_replacing (renders.dependencies ▸ renders.distinct) _

end Steps

section Described

variable {described : Coordinate → Except CheckerError (Option EffectivePom)}

/-- What the imports manage counts for keys that have not been managed before them. -/
theorem foldlM_addImport {imported : Coordinate → Option PomMeaning} {imports : List Coordinate}
    {management : List (Key × PomDependency)} (sorted : Ordered.Sorted (management.map (·.1)))
    (known : ∀ c ∈ imports, ∃ result, described c = .ok result ∧
      Option.Rel Renders result (imported c)) :
    ∃ final, imports.foldlM (addImport described) management = .ok final ∧
      Ordered.Sorted (final.map (·.1)) ∧
      ∀ key, Ordered.get? final key = (Ordered.get? management key).or
        (imports.findSome? fun c => ((imported c).getD nothing).managed key) := by
  induction imports generalizing management with
  | nil => exact ⟨management, rfl, sorted, by simp⟩
  | cons c rest ih =>
    obtain ⟨result, known_c, renders⟩ := known c List.mem_cons_self
    have added : (result.map EffectivePom.management).getD [] = (result.getD empty).management := by
      cases result <;> rfl
    obtain ⟨final, folded, sorted_final, lookup⟩ :=
      ih (sorted_extendManagement sorted (result.getD empty).management)
        fun other member => known other (List.mem_cons_of_mem _ member)
    refine ⟨final, ?_, sorted_final, fun key => ?_⟩
    · rw [List.foldlM_cons, addImport, known_c, Except.map, added]
      exact folded
    · rw [lookup, get?_extendManagement sorted, (getD_renders renders).managed,
        List.findSome?_cons, Option.or_assoc]
      cases ((imported c).getD nothing).managed key <;> rfl

private theorem described_of_foldlM {imports : List Coordinate}
    {management final : List (Key × PomDependency)}
    (folded : imports.foldlM (addImport described) management = .ok final) :
    ∀ c ∈ imports, ∃ result, described c = .ok result := by
  induction imports generalizing management with
  | nil => simp
  | cons c rest ih =>
    rw [List.foldlM_cons] at folded
    obtain ⟨next, added, folded⟩ := bind_ok folded
    obtain ⟨result, known, _⟩ := map_ok added
    exact List.forall_mem_cons.2 ⟨⟨result, known⟩, ih folded⟩

variable {coordinate : Coordinate} {pom : Pom} {parent : Option PomMeaning}

private theorem inherited_renders (orphan : pom.parent = none → parent = none)
    (inherits : ∀ named, pom.parent = some named → ∃ result,
      described (parentCoordinate named) = .ok result ∧ Option.Rel Renders result parent) :
    ∃ effective, inherited described pom = .ok effective ∧
      effective.Renders (parent.getD nothing) := by
  unfold inherited
  cases named : pom.parent with
  | none =>
    rw [orphan named]
    exact ⟨empty, rfl, empty_renders⟩
  | some other =>
    obtain ⟨result, known, renders⟩ := inherits other named
    refine ⟨result.getD empty, ?_, getD_renders renders⟩
    simp only [known, Except.map]

/-- Placeholders are replaced by the properties that hold in the project, whatever the table of its
parent looks like. -/
theorem complement_eq {above : EffectivePom} {meaning : PomMeaning}
    (inherits : inherited described pom = .ok above) (renders : above.Renders meaning) :
    complement described coordinate pom =
      ((importsIn coordinate pom meaning).foldlM (addImport described)
        (overrideManagement above.management
          ((managementIn coordinate pom meaning).filter (!·.isImport)))).map fun management =>
        assemble (propertiesOf coordinate above pom) above management pom := by
  unfold complement
  rw [inherits]
  simp only [bind, Except.bind, expand_propertiesOf renders]
  rfl

private theorem complement_renders {imported : Coordinate → Option PomMeaning}
    (orphan : pom.parent = none → parent = none)
    (inherits : ∀ named, pom.parent = some named → ∃ result,
      described (parentCoordinate named) = .ok result ∧ Option.Rel Renders result parent)
    (imports : ∀ c ∈ importsIn coordinate pom (parent.getD nothing), ∃ result,
      described c = .ok result ∧ Option.Rel Renders result (imported c)) :
    ∃ effective, complement described coordinate pom = .ok effective ∧
      effective.Renders (.of coordinate pom (parent.getD nothing)
        fun c => (imported c).getD nothing) := by
  obtain ⟨above, inherited_eq, renders⟩ := inherited_renders orphan inherits
  have own := fun key => get?_overrideManagement renders.managementSorted
    ((managementIn coordinate pom (parent.getD nothing)).filter (!·.isImport)) key
  obtain ⟨management, folded, sorted, lookup⟩ := foldlM_addImport
    (sorted_overrideManagement renders.managementSorted _) imports
  refine ⟨assemble (propertiesOf coordinate above pom) above management pom, ?_, ?_⟩
  · rw [complement_eq inherited_eq renders, folded]
    rfl
  · apply assemble_renders renders sorted
    intro key
    rw [lookup, own, renders.managed, managedIn, Option.or_assoc]

end Described

section File

variable {repositories : LocalRepositories} {fs : FileSystem} {coordinate : Coordinate}
  {read : Path → Except CheckerError EffectivePom}

theorem ofFile?_of_none (missing : repositories.pomPath fs coordinate = none) :
    ofFile? repositories fs coordinate read = .ok none := by
  unfold ofFile?
  rw [missing]

theorem ofFile?_of_some {path : Path} (found : repositories.pomPath fs coordinate = some path) :
    ofFile? repositories fs coordinate read = (read path).map some := by
  unfold ofFile?
  rw [found]

end File

end EffectivePom

/-! ## Building -/

namespace PomMeaning

variable {repositories : LocalRepositories} {fs : FileSystem} {levels : Nat}
  {coordinate : Coordinate}

theorem Holds.alone {path : Path} {pom : Pom}
    (found : repositories.pomPath fs coordinate = some path)
    (reads : Pom.load fs path = .ok pom) (orphan : pom.parent = none)
    (unimporting : importsIn coordinate pom nothing = []) :
    Holds repositories fs (levels + 1) coordinate
      (some (of coordinate pom nothing fun _ => nothing)) := by
  show Holds _ _ _ _ (some (of coordinate pom (Option.getD none nothing)
    fun _ => Option.getD none nothing))
  refine .present found reads (fun _ => rfl) ?_ ?_
  · intro named isParent
    cases orphan.symm.trans isParent
  · intro c isImported
    rw [Option.getD_none, unimporting] at isImported
    cases isImported

theorem Holds.build {bound : Nat} {meaning : Option PomMeaning}
    (holds : Holds repositories fs levels coordinate meaning) (enough : levels ≤ bound) :
    ∃ result, EffectivePom.build repositories fs bound coordinate = .ok result ∧
      Option.Rel EffectivePom.Renders result meaning := by
  -- Below a parent or an import one level less is left, of the bound as well.
  induction holds generalizing bound with
  | absent missing =>
    refine ⟨none, ?_, .none⟩
    cases bound with
    | zero => rw [EffectivePom.build, EffectivePom.ofFile?_of_none missing]
    | succ bound => rw [EffectivePom.build, EffectivePom.ofFile?_of_none missing]
  | @present levels coordinate path pom parent imported found reads orphan inherits imports
      inheritsBuilt importsBuilt =>
    cases bound with
    | zero => cases enough
    | succ bound =>
      have enough := Nat.le_of_succ_le_succ enough
      obtain ⟨effective, whole, renders⟩ := EffectivePom.complement_renders orphan
        (fun named isParent => inheritsBuilt named isParent enough)
        fun c isImported => importsBuilt c isImported enough
      refine ⟨some effective, ?_, .some renders⟩
      rw [EffectivePom.build, EffectivePom.ofFile?_of_some found]
      simp only [reads, bind, Except.bind, whole, Except.map]

section Below

variable {pom : Pom} {effective : EffectivePom}
  (below : ∀ {other : Coordinate} {result : Option EffectivePom},
    EffectivePom.build repositories fs levels other = .ok result →
      ∃ meaning, Holds repositories fs levels other meaning)
  (whole : EffectivePom.complement (EffectivePom.build repositories fs levels) coordinate pom =
    .ok effective)

include below whole

private theorem exists_parent : ∃ parent, (pom.parent = none → parent = none) ∧
    ∀ named, pom.parent = some named →
      Holds repositories fs levels (EffectivePom.parentCoordinate named) parent := by
  cases isParent : pom.parent with
  | none => exact ⟨none, fun _ => rfl, by simp⟩
  | some named =>
    obtain ⟨above, inherited_eq, _⟩ := bind_ok whole
    rw [EffectivePom.inherited, isParent] at inherited_eq
    obtain ⟨result, built, _⟩ := map_ok inherited_eq
    obtain ⟨parent, holds⟩ := below built
    refine ⟨parent, by simp, fun other same => ?_⟩
    cases same
    exact holds

private theorem exists_imported {parent : Option PomMeaning} (orphan : pom.parent = none → parent = none)
    (inherits : ∀ named, pom.parent = some named →
      Holds repositories fs levels (EffectivePom.parentCoordinate named) parent) :
    ∃ imported : Coordinate → Option PomMeaning,
      ∀ c ∈ importsIn coordinate pom (parent.getD nothing),
        Holds repositories fs levels c (imported c) := by
  obtain ⟨above, inherited_eq, renders⟩ := EffectivePom.inherited_renders orphan
    fun named isParent => (inherits named isParent).build (Nat.le_refl levels)
  rw [EffectivePom.complement_eq inherited_eq renders] at whole
  obtain ⟨management, folded, _⟩ := map_ok whole
  have known := EffectivePom.described_of_foldlM folded
  -- A meaning is chosen for every project, but it matters only for those that are imported.
  have holds : ∀ c, ∃ meaning, c ∈ importsIn coordinate pom (parent.getD nothing) →
      Holds repositories fs levels c meaning := by
    intro c
    by_cases isImported : c ∈ importsIn coordinate pom (parent.getD nothing)
    · obtain ⟨result, built⟩ := known c isImported
      obtain ⟨meaning, holds⟩ := below built
      exact ⟨meaning, fun _ => holds⟩
    · exact ⟨none, fun member => absurd member isImported⟩
  exact Classical.skolem.1 holds

end Below

/-- What has been built has a meaning. -/
theorem exists_holds {result : Option EffectivePom}
    (built : EffectivePom.build repositories fs levels coordinate = .ok result) :
    ∃ meaning, Holds repositories fs levels coordinate meaning := by
  induction levels generalizing coordinate result with
  | zero =>
    cases located : repositories.pomPath fs coordinate with
    | none => exact ⟨none, .absent located⟩
    | some path =>
      rw [EffectivePom.build, EffectivePom.ofFile?_of_some located] at built
      cases built
  | succ levels ih =>
    cases located : repositories.pomPath fs coordinate with
    | none => exact ⟨none, .absent located⟩
    | some path =>
      rw [EffectivePom.build, EffectivePom.ofFile?_of_some located] at built
      obtain ⟨effective, read, _⟩ := map_ok built
      obtain ⟨pom, loaded, whole⟩ := bind_ok read
      obtain ⟨parent, orphan, inherits⟩ := exists_parent ih whole
      obtain ⟨imported, imports⟩ := exists_imported ih whole orphan inherits
      exact ⟨_, .present located loaded orphan inherits imports⟩

end PomMeaning

namespace EffectivePom

/-- Within the limit of levels, a project whose description, parents and imports can be read is
built, and what is built has a meaning: a key is managed as the last own declaration says, else as
the parent does, else as the first import does, and declared dependencies, each under a key of its
own, take what they leave open from there. -/
theorem build_precedence (repositories : LocalRepositories) (fs : FileSystem)
    (coordinate : Coordinate) :
    (∀ levels ≤ maxLevels, ∀ meaning,
      PomMeaning.Holds repositories fs levels coordinate (some meaning) →
        ∃ effective, build repositories fs maxLevels coordinate = .ok (some effective) ∧
          effective.Renders meaning) ∧
    ∀ effective, build repositories fs maxLevels coordinate = .ok (some effective) →
      ∃ meaning, PomMeaning.Holds repositories fs maxLevels coordinate (some meaning) ∧
        effective.Renders meaning := by
  constructor
  · intro levels enough meaning holds
    obtain ⟨result, built, rendered⟩ := holds.build enough
    cases rendered with
    | some renders => exact ⟨_, built, renders⟩
  · intro effective built
    obtain ⟨meaning, holds⟩ := PomMeaning.exists_holds built
    obtain ⟨result, again, rendered⟩ := holds.build (Nat.le_refl maxLevels)
    cases again.symm.trans built
    cases rendered with
    | some renders => exact ⟨_, holds, renders⟩

end EffectivePom

/-! ## Written descriptions -/

/-- An element without attributes. -/
def Markup.elementText (name : String) (contents : List Char) : List Char :=
  startTag name [] false (contents ++ endTag name [])

/-- An element for a value, if there is one. -/
def Markup.valueText (name : String) (value : Option String) : List Char :=
  (value.map fun text => elementText name text.toList).getD []

/-- An element around others, if there are any. -/
def Markup.listText (name : String) (elements : List (List Char)) : List Char :=
  if elements.isEmpty then [] else elementText name elements.flatten

section Written

open Markup (elementText valueText listText)

def Key.written (key : Key) : List Char :=
  valueText "groupId" key.group ++ valueText "artifactId" key.artifact

/-- A declaration as an element. No text is escaped. -/
def PomDependency.written (d : PomDependency) : List Char :=
  elementText "dependency" (d.key.written ++ valueText "version" d.version ++
    valueText "scope" d.scope ++ valueText "classifier" d.classifier ++ valueText "type" d.type ++
    (if d.optional then valueText "optional" "true" else []) ++
    listText "exclusions" (d.exclusions.map fun key => elementText "exclusion" key.written))

def PomParent.written (parent : PomParent) : List Char :=
  elementText "parent" ((Key.mk parent.group parent.artifact).written ++
    valueText "version" parent.version)

/-- A description as a document. No text is escaped. -/
def Pom.written (pom : Pom) : List Char :=
  elementText "project" (valueText "groupId" pom.group ++ valueText "artifactId" pom.artifact ++
    valueText "version" pom.version ++ (pom.parent.map (·.written)).getD [] ++
    listText "properties" (pom.properties.map fun property =>
      elementText property.1 property.2.toList) ++
    listText "dependencyManagement" (pom.management.head?.toList.map fun _ =>
      listText "dependencies" (pom.management.map (·.written))) ++
    listText "dependencies" (pom.dependencies.map (·.written)))

end Written

/-- Whether a description is what its document is read as. -/
def Pom.ReadsBack (pom : Pom) : Prop :=
  ((Markup.readFrom ⟨[], none⟩ pom.written).bind (·.root)).map
    (fun root => (root.name, ofElement root)) = some ("project", pom)

instance (pom : Pom) : Decidable pom.ReadsBack := inferInstanceAs (Decidable (_ = _))

theorem Pom.load_written {fs : FileSystem} {path : Path} {pom : Pom}
    (isFile : fs.find path = .ok (.file (Utf8.encode pom.written))) (reads : pom.ReadsBack) :
    load fs path = .ok pom := by
  have starts : pom.written.head? = some '<' := rfl
  have undeclared : pom.written[1]? ≠ some '?' := by
    rw [show pom.written[1]? = some 'p' from rfl]
    decide
  unfold ReadsBack at reads
  rw [← Markup.parse?_undeclared starts undeclared] at reads
  obtain ⟨root, parsed, same⟩ := Option.map_eq_some_iff.1 reads
  obtain ⟨named, same⟩ := Prod.mk.inj same
  simp only [load, FileSystem.readText, isFile, bind, Except.bind, Node.readText, Utf8.decodeString,
    Utf8.decode_encode, Option.map_some, Except.mapError, parse, parsed, if_pos named, same]

namespace PrecedenceSample

def app : Coordinate := .plain "g" "app" "1"

def base : Coordinate := .plain "g" "base" "1"

def bom : Coordinate := .plain "g" "bom" "3"

def dependencyOn (artifact : String) (version : Option String) : PomDependency :=
  ⟨"g", artifact, version, none, none, none, false, []⟩

def blank : Pom := ⟨none, none, none, none, [], [], []⟩

/-- The application has a parent, imports a project and leaves the versions open. -/
def appPom : Pom :=
  { blank with
    parent := some ⟨"g", "base", "1"⟩
    properties := [("v", "3")]
    dependencies := [dependencyOn "lib" none, dependencyOn "tool" none]
    management := [{ dependencyOn "bom" (some "$\x7bv\x7d") with
      scope := some "import", type := some "pom" }] }

def basePom : Pom :=
  { blank with
    properties := [("v", "2")]
    management := [dependencyOn "lib" (some "$\x7bv\x7d")] }

def bomPom : Pom :=
  { blank with management := [dependencyOn "lib" (some "8"), dependencyOn "tool" (some "9")] }

def files : FileSystem := .ofNodes (
  [["m2"], ["m2", "g"], ["m2", "g", "app"], ["m2", "g", "app", "1"], ["m2", "g", "base"],
    ["m2", "g", "base", "1"], ["m2", "g", "bom"], ["m2", "g", "bom", "3"]].map
      (fun names => (⟨false, names⟩, .directory)) ++
  [(⟨false, ["m2", "g", "app", "1", "app-1.pom"]⟩, .file (Utf8.encode appPom.written)),
    (⟨false, ["m2", "g", "base", "1", "base-1.pom"]⟩, .file (Utf8.encode basePom.written)),
    (⟨false, ["m2", "g", "bom", "3", "bom-3.pom"]⟩, .file (Utf8.encode bomPom.written))])

def sampleRepositories : LocalRepositories := ⟨[⟨"m2"⟩]⟩

theorem load_app : Pom.load files ⟨"m2/g/app/1/app-1.pom"⟩ = .ok appPom :=
  Pom.load_written rfl (by decide +kernel)

private theorem load_base : Pom.load files ⟨"m2/g/base/1/base-1.pom"⟩ = .ok basePom :=
  Pom.load_written rfl (by decide +kernel)

private theorem load_bom : Pom.load files ⟨"m2/g/bom/3/bom-3.pom"⟩ = .ok bomPom :=
  Pom.load_written rfl (by decide +kernel)

def baseMeaning : PomMeaning := .of base basePom .nothing fun _ => .nothing

def bomMeaning : PomMeaning := .of bom bomPom .nothing fun _ => .nothing

def appMeaning : PomMeaning := .of app appPom baseMeaning fun _ => bomMeaning

private theorem holds_app : PomMeaning.Holds sampleRepositories files 2 app (some appMeaning) := by
  show PomMeaning.Holds _ _ _ _ (some (.of app appPom (Option.getD (some baseMeaning) .nothing)
    fun _ => Option.getD (some bomMeaning) .nothing))
  have located : sampleRepositories.pomPath files app = some ⟨"m2/g/app/1/app-1.pom"⟩ := by
    decide +kernel
  refine .present located load_app (by decide) ?_ ?_
  · intro named isParent
    cases isParent
    exact .alone (by decide +kernel) load_base rfl (by decide +kernel)
  · have imports : PomMeaning.importsIn app appPom baseMeaning = [bom] := by decide +kernel
    intro c isImported
    rw [Option.getD_some, imports, List.mem_singleton] at isImported
    rw [isImported]
    exact .alone (by decide +kernel) load_bom rfl (by decide +kernel)

/-- The parent counts before the import, and its own property is the one that holds in it. -/
theorem build_fills_open_versions :
    PomMeaning.Holds sampleRepositories files 2 app (some appMeaning) ∧ ∃ effective,
      EffectivePom.build sampleRepositories files EffectivePom.maxLevels app =
        .ok (some effective) ∧
      effective.Renders appMeaning ∧
      effective.dependencies = [dependencyOn "lib" (some "2"), dependencyOn "tool" (some "9")] := by
  obtain ⟨effective, built, renders⟩ :=
    (EffectivePom.build_precedence sampleRepositories files app).1 2 (by decide) _ holds_app
  have filled : appMeaning.dependencies =
      [dependencyOn "lib" (some "2"), dependencyOn "tool" (some "9")] := by
    decide +kernel
  exact ⟨holds_app, effective, built, renders, renders.dependencies.trans filled⟩

end PrecedenceSample

end Linkage
