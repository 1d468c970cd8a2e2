import Linkage.Proofs.NearestMediation
import Linkage.Proofs.VersionOrder

/-!
The artifact that the Gradle way selects for a key.

Artifacts are observed at the ends of paths. Unless the platform enforces a version, the first of
those with the highest version is selected; among versions that are compatible with each other no
observed one exceeds it. An enforced version is selected even if it is not observed.
-/

set_option autoImplicit false

namespace Linkage

namespace Mediation.Highest

/-- The distinct artifacts of a key at the ends of some paths, in the order of the paths. -/
def leaves (paths : List DependencyPath) (key : Key) : List Coordinate :=
  ((paths.filterMap (·.leaf)).filter (·.key == key)).eraseDups

def selected? (platform : Platform) (paths : List DependencyPath) (key : Key) : Option Coordinate :=
  winner? platform key (leaves paths key)

variable {platform : Platform} {graph : DependencyGraph} {paths : List DependencyPath}
  {path : DependencyPath} {key : Key} {leaf winner : Coordinate}

theorem mem_leaves :
    leaf ∈ leaves paths key ↔ (∃ path ∈ paths, path.leaf = some leaf) ∧ leaf.key = key := by
  simp [leaves]

private theorem lookup_observe_self (observed : Observed) (leaf : Coordinate) :
    (observe observed leaf).lookup leaf.key =
      some (if ((observed.lookup leaf.key).getD []).contains leaf then
          (observed.lookup leaf.key).getD []
        else (observed.lookup leaf.key).getD [] ++ [leaf]) := by
  induction observed with
  | nil => simp [observe]
  | cons first rest ih =>
    obtain ⟨key, versions⟩ := first
    by_cases known : key = leaf.key
    · simp [observe, known]
    · have different : (leaf.key == key) = false := beq_eq_false_iff_ne.2 (Ne.symm known)
      rw [observe, if_neg known, List.lookup_cons, List.lookup_cons, different, ih]

private theorem lookup_observe_of_ne (observed : Observed) (different : key ≠ leaf.key) :
    (observe observed leaf).lookup key = observed.lookup key := by
  induction observed with
  | nil => simp [observe, List.lookup_cons, beq_eq_false_iff_ne.2 different]
  | cons first rest ih =>
    obtain ⟨other, versions⟩ := first
    by_cases known : other = leaf.key
    · simp [observe, known, List.lookup_cons, beq_eq_false_iff_ne.2 different]
    · rw [observe, if_neg known, List.lookup_cons, List.lookup_cons, ih]

/-- A key is observed once a path ends in it, with the artifacts at the ends of such paths. -/
theorem lookup_foldl_observe (coordinates : List Coordinate) (key : Key) :
    (coordinates.foldl observe []).lookup key =
      if (coordinates.filter (·.key == key)).eraseDups.isEmpty then none
      else some (coordinates.filter (·.key == key)).eraseDups := by
  induction coordinates using List.reverseRecOn with
  | nil => rfl
  | append_singleton coordinates leaf ih =>
    rw [List.foldl_append, List.foldl_cons, List.foldl_nil, List.filter_append]
    by_cases same : key = leaf.key
    · subst same
      have before : ((coordinates.foldl observe []).lookup leaf.key).getD [] =
          (coordinates.filter (·.key == leaf.key)).eraseDups := by
        rw [ih]
        split
        next nothing => exact (List.isEmpty_iff.1 nothing).symm
        next => rfl
      have member : leaf ∈ (coordinates.filter (·.key == leaf.key) ++ [leaf]).eraseDups := by simp
      have nonempty := List.ne_nil_of_mem member
      have alone : [leaf].filter (·.key == leaf.key) = [leaf] := by simp
      rw [alone, if_neg (by simpa using nonempty), lookup_observe_self, before,
        Placement.eraseDups_concat]
      simp
    · simp [lookup_observe_of_ne _ same, ih, Ne.symm same]

theorem lookup_observed (graph : DependencyGraph) (key : Key) :
    (observed graph).lookup key =
      if (leaves graph.paths key).isEmpty then none else some (leaves graph.paths key) :=
  lookup_foldl_observe _ key

theorem isObserved_iff :
    ((observed graph).lookup key).any (·.contains leaf) = true ↔ leaf ∈ leaves graph.paths key := by
  rw [lookup_observed]
  split
  next nothing => simp [List.isEmpty_iff.1 nothing]
  next => simp

theorem winner?_eq_none_iff {versions : List Coordinate} :
    winner? platform key versions = none ↔ versions = [] := by
  cases versions with
  | nil | cons =>
    rw [winner?]
    split <;> simp [enforcedOf, highestOf]

private theorem winners_cons (platform : Platform) (key : Key) (versions : List Coordinate)
    (rest : Observed) :
    winners platform ((key, versions) :: rest) =
      ((winner? platform key versions).map fun winner => (key, winner)).toList ++
        winners platform rest := by
  cases chosen : winner? platform key versions <;> simp [winners, chosen]

private theorem lookup_winners {table : Observed}
    (nonempty : ∀ versions, table.lookup key = some versions → versions ≠ []) :
    (winners platform table).lookup key = (table.lookup key).bind (winner? platform key) := by
  induction table with
  | nil => rfl
  | cons first rest ih =>
    obtain ⟨other, versions⟩ := first
    rw [winners_cons, List.lookup_append]
    by_cases same : key = other
    · subst same
      have chosen : winner? platform key versions ≠ none := by
        rw [Ne, winner?_eq_none_iff]
        exact nonempty versions (by simp)
      obtain ⟨winner, won⟩ := Option.ne_none_iff_exists'.1 chosen
      simp [won]
    · have different : (key == other) = false := beq_eq_false_iff_ne.2 same
      have rest_lookup : ((other, versions) :: rest).lookup key = rest.lookup key := by
        rw [List.lookup_cons, different]
      rw [rest_lookup] at nonempty ⊢
      rw [ih nonempty]
      cases winner? platform other versions <;> simp [List.lookup_cons, different]

theorem lookup_selected (platform : Platform) (graph : DependencyGraph) (key : Key) :
    (winners platform (observed graph)).lookup key = selected? platform graph.paths key := by
  rw [lookup_winners, lookup_observed, selected?]
  · split
    next nothing => rw [List.isEmpty_iff.1 nothing, winner?_eq_none_iff.2 rfl, Option.bind_none]
    next => rfl
  · intro versions found
    rw [lookup_observed] at found
    split at found
    next => cases found
    next something =>
      cases found
      exact fun nothing => something (List.isEmpty_iff.2 nothing)

private theorem selected?_eq_none_iff :
    selected? platform paths key = none ↔ ∀ path ∈ paths, path.leafKey? ≠ some key := by
  rw [selected?, winner?_eq_none_iff, List.eq_nil_iff_forall_not_mem]
  simp only [mem_leaves]
  constructor
  · intro nothing path member ends
    obtain ⟨leaf, ends, keyed⟩ := Option.map_eq_some_iff.1 ends
    exact nothing leaf ⟨⟨path, member, ends⟩, keyed⟩
  · rintro avoided leaf ⟨⟨path, member, ends⟩, keyed⟩
    exact avoided path member (by simp [DependencyPath.leafKey?, ends, keyed])

/-- What can be said of the artifact that is selected among those observed for a key. -/
structure IsSelected (platform : Platform) (key : Key) (versions : List Coordinate)
    (winner : Coordinate) : Prop where
  /-- It is one of them, perhaps at another version. -/
  stems : ∃ leaf ∈ versions, winner = leaf.withVersion winner.version
  enforced : ∀ version, platform.lookup key = some version → winner.version = version
  observed : platform.lookup key = none → winner ∈ versions
  /-- It takes the place of another one only if none has its version. -/
  replaces : winner ∈ versions ∨ ∀ leaf ∈ versions, leaf.version ≠ winner.version

/-- The one of two artifacts that is kept. -/
def higher (best candidate : Coordinate) : Coordinate :=
  if Version.order candidate.version best.version = .gt then candidate else best

private theorem highestOf_cons (first : Coordinate) (rest : List Coordinate) :
    highestOf (first :: rest) = some (rest.foldl higher first) := rfl

private theorem foldl_higher_mem (first : Coordinate) (rest : List Coordinate) :
    rest.foldl higher first ∈ first :: rest := by
  induction rest generalizing first with
  | nil => exact List.mem_cons_self
  | cons candidate rest ih =>
    rw [List.foldl_cons, higher]
    split
    next => exact List.mem_cons_of_mem _ (ih candidate)
    next =>
      rcases List.mem_cons.1 (ih first) with same | later
      · rw [same]
        exact List.mem_cons_self
      · exact List.mem_cons_of_mem _ (List.mem_cons_of_mem _ later)

private theorem isSelected_of_highestOf {versions : List Coordinate} (unpinned : platform.lookup key = none)
    (chosen : highestOf versions = some winner) : IsSelected platform key versions winner := by
  cases versions with
  | nil => cases chosen
  | cons first rest =>
    have member : winner ∈ first :: rest := by
      rw [highestOf_cons] at chosen
      exact Option.some.inj chosen ▸ foldl_higher_mem first rest
    exact ⟨⟨winner, member, rfl⟩, by simp [unpinned], fun _ => member, .inl member⟩

private theorem isSelected_of_enforcedOf {version : String} {versions : List Coordinate}
    (pinned : platform.lookup key = some version)
    (chosen : enforcedOf version versions = some winner) :
    IsSelected platform key versions winner := by
  cases found : versions.find? (·.version == version) with
  | some known =>
    rw [enforcedOf, found, Option.some_or] at chosen
    cases chosen
    have same := List.find?_some found
    have member := List.mem_of_find?_eq_some found
    refine ⟨⟨winner, member, rfl⟩, ?_, fun _ => member, .inl member⟩
    simpa [pinned] using same
  | none =>
    rw [enforcedOf, found, Option.none_or] at chosen
    obtain ⟨first, head, rfl⟩ := Option.map_eq_some_iff.1 chosen
    refine ⟨⟨first, List.mem_of_head? head, rfl⟩, ?_, by simp [pinned], .inr ?_⟩
    · simp [pinned, Coordinate.withVersion]
    · intro other member same
      exact List.find?_eq_none.1 found other member (beq_iff_eq.2 same)

theorem isSelected (won : selected? platform paths key = some winner) :
    IsSelected platform key (leaves paths key) winner := by
  rw [selected?, winner?] at won
  cases pinned : platform.lookup key with
  | none =>
    rw [pinned] at won
    exact isSelected_of_highestOf pinned won
  | some version =>
    rw [pinned] at won
    exact isSelected_of_enforcedOf pinned won

theorem key_of_selected? (won : selected? platform paths key = some winner) : winner.key = key := by
  obtain ⟨leaf, member, same⟩ := (isSelected won).stems
  rw [same]
  exact (mem_leaves.1 member).2

theorem leafKey?_of_leaf (ends : path.leaf = some leaf) : path.leafKey? = some leaf.key := by
  simp [DependencyPath.leafKey?, ends]

theorem exists_selected (platform : Platform) (member : path ∈ paths)
    (ends : path.leaf = some leaf) : ∃ winner, selected? platform paths leaf.key = some winner := by
  refine Option.ne_none_iff_exists'.1 fun lost => ?_
  exact selected?_eq_none_iff.1 lost path member (leafKey?_of_leaf ends)

/-- If the versions are ordered transitively, none exceeds the one that is kept. -/
theorem foldl_higher_unexceeded {best : Coordinate} (seen rest : List Coordinate)
    (consistent : ∀ a ∈ seen ++ rest, ∀ b ∈ seen ++ rest, ∀ c ∈ seen ++ rest,
      VersionItem.Consistent (Version.order a.version b.version)
        (Version.order b.version c.version) (Version.order a.version c.version))
    (kept : best ∈ seen)
    (unexceeded : ∀ known ∈ seen, Version.order known.version best.version ≠ .gt) :
    ∀ known ∈ seen ++ rest,
      Version.order known.version (rest.foldl higher best).version ≠ .gt := by
  induction rest generalizing best seen with
  | nil => simpa using unexceeded
  | cons candidate rest ih =>
    have shifted : seen ++ candidate :: rest = (seen ++ [candidate]) ++ rest := by simp
    rw [List.foldl_cons, higher, shifted]
    rw [shifted] at consistent
    split
    next better =>
      refine ih (seen ++ [candidate]) consistent (by simp) fun known member => ?_
      rcases List.mem_append.1 member with earlier | new
      · -- What exceeds the candidate would exceed what the candidate exceeds.
        intro exceeds
        have across := (consistent known (by simp [earlier]) candidate (by simp) best
          (by simp [kept])).2.2 (exceeds.trans better.symm)
        exact unexceeded known earlier (across.trans exceeds)
      · rw [List.mem_singleton.1 new, Version.order_self]
        decide
    next worse =>
      refine ih (seen ++ [candidate]) consistent (by simp [kept]) fun known member => ?_
      rcases List.mem_append.1 member with earlier | new
      · exact unexceeded known earlier
      · rwa [List.mem_singleton.1 new]

theorem unexceeded_of_selected (unpinned : platform.lookup key = none)
    (compatibles : ∀ first ∈ leaves paths key, ∀ second ∈ leaves paths key,
      Version.Compatible first.version second.version)
    (won : selected? platform paths key = some winner) :
    ∀ leaf ∈ leaves paths key, Version.order leaf.version winner.version ≠ .gt := by
  rw [selected?, winner?, unpinned] at won
  cases observed : leaves paths key with
  | nil => exact nofun
  | cons first rest =>
    rw [observed] at won compatibles
    rw [← Option.some.inj won]
    refine foldl_higher_unexceeded [first] rest ?_ (by simp) ?_
    · intro a aMember b bMember c cMember
      exact Version.consistent_order (compatibles a aMember b bMember)
        (compatibles b bMember c cMember) (compatibles a aMember c cMember)
    · simp [Version.order_self]

end Mediation.Highest

end Linkage
