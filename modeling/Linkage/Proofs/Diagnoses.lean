import Linkage.Diagnosis
import Linkage.Proofs.FiniteWalks
import Linkage.Proofs.ReachableProblems
import Linkage.Proofs.ResolvedPaths

/-!
The causes of problems.

The own class path of a source artifact offers an artifact for a problem that it does not have
itself: the first one that defines the class of the symbol. The cause is unknown only if the whole
class path has that artifact, or none is offered. Otherwise it says where the whole class path has
another version of the artifact, or how its absence comes about. What has been diagnosed before
makes no difference.

The walk behind the own class path of an artifact need not return, also where the one behind the
whole class path did: what the whole class path leaves out may be followed from the artifact. There
is a cause exactly if it returns.
-/

set_option autoImplicit false

namespace Linkage

namespace DependencyPath

variable {path : DependencyPath} {key : Key} {excluding : Coordinate}

/-- Whether an artifact stands right before the first dependency of a path that excludes a key. -/
def ExcludedBy (path : DependencyPath) (key : Key) (excluding : Coordinate) : Prop :=
  ∃ before node after, path.dependencies = before ++ node :: after ∧ key ∈ node.exclusions ∧
    (∀ earlier ∈ before, key ∉ earlier.exclusions) ∧
    (⟨path.root, before⟩ : DependencyPath).leaf = some excluding

theorem leaf_cons (root : Option Coordinate) (first : Dependency) (rest : List Dependency) :
    (⟨root, first :: rest⟩ : DependencyPath).leaf =
      (⟨some first.coordinate, rest⟩ : DependencyPath).leaf := by
  rw [leaf, leaf, List.getLast?_cons]
  cases rest.getLast? <;> rfl

private theorem leaf_append_of_ne_nil (root other : Option Coordinate) (before : List Dependency)
    {after : List Dependency} (nonempty : after ≠ []) :
    (⟨root, before ++ after⟩ : DependencyPath).leaf = (⟨other, after⟩ : DependencyPath).leaf := by
  rw [leaf, leaf, List.getLast?_append_of_ne_nil _ nonempty, List.getLast?_eq_some_getLast nonempty]

private theorem findExclusionFrom_eq_some_iff {declarer : Option Coordinate}
    {dependencies : List Dependency} :
    findExclusionFrom key declarer dependencies = some excluding ↔
      ExcludedBy ⟨declarer, dependencies⟩ key excluding := by
  induction dependencies generalizing declarer with
  | nil =>
    refine iff_of_false (fun found => by cases found) ?_
    rintro ⟨before, node, after, whole, _⟩
    simp at whole
  | cons first rest ih =>
    unfold findExclusionFrom
    by_cases excludes : key ∈ first.exclusions
    · rw [if_pos (List.contains_iff_mem.2 excludes)]
      constructor
      · intro declared
        exact ⟨[], first, rest, rfl, excludes, by simp, declared⟩
      · rintro ⟨before, node, after, whole, _, none, ends⟩
        cases before with
        | nil => exact ends
        | cons earlier before =>
          cases (List.cons.inj whole).1
          exact absurd excludes (none first List.mem_cons_self)
    · -- The first dependency declares the rest, so the leaf before an exclusion stays the same.
      rw [if_neg (fun contained => excludes (List.contains_iff_mem.1 contained)), ih]
      constructor
      · rintro ⟨before, node, after, rfl, excluded, none, ends⟩
        refine ⟨first :: before, node, after, rfl, excluded, ?_, (leaf_cons _ _ _).trans ends⟩
        exact List.forall_mem_cons.2 ⟨excludes, none⟩
      · rintro ⟨before, node, after, whole, excluded, none, ends⟩
        cases before with
        | nil =>
          cases (List.cons.inj whole).1
          exact absurd excluded excludes
        | cons earlier before =>
          obtain ⟨rfl, rfl⟩ := List.cons.inj whole
          exact ⟨before, node, after, rfl, excluded, (List.forall_mem_cons.1 none).2,
            (leaf_cons _ _ _).symm.trans ends⟩

private theorem findExclusion_eq_some_iff :
    path.findExclusion key = some excluding ↔ path.ExcludedBy key excluding :=
  findExclusionFrom_eq_some_iff

end DependencyPath

/-- Whether an entry is the first of some entries that defines a class. -/
def FirstDefining (fs : FileSystem) (className : String) (entries : List ClasspathEntry)
    (entry : ClasspathEntry) : Prop :=
  FirstOf (fun earlier => earlier.defines fs className = .ok false)
    (fun entry => entry.defines fs className = .ok true) entries entry

private theorem Classpath.entryForKey?_eq_none_iff {classpath : Classpath} {key : Key} :
    classpath.entryForKey? key = none ↔
      ∀ entry ∈ classpath.entries, ∀ c, entry.coordinate = some c → c.key ≠ key := by
  simp only [entryForKey?, List.find?_eq_none, Option.any_eq_true, not_exists, not_and,
    beq_iff_eq]

private theorem Classpath.entryForKey?_some {classpath : Classpath} {key : Key} {entry : ClasspathEntry}
    (found : classpath.entryForKey? key = some entry) :
    entry ∈ classpath.entries ∧ ∃ c, entry.coordinate = some c ∧ c.key = key := by
  refine ⟨List.mem_of_find?_eq_some found, ?_⟩
  simpa [Option.any_eq_true] using List.find?_some found

private theorem Checker.source_entry_mem {fs : FileSystem} {resolved : ResolvedClasspath}
    {config : CheckerConfig} {rules : List ExclusionRule} {checker : Checker}
    {problems : List Problem} {problem : Problem}
    (created : Checker.create fs resolved config rules = .ok checker)
    (ran : checker.problems fs = .ok problems) (member : problem ∈ problems) :
    problem.source.entry ∈ resolved.entries := by
  rw [problems_eq_answered] at ran
  obtain ⟨_, rfl⟩ := answered_iff.1 ran
  have inserted := (List.mem_filter.1 member).1
  have isFound := ((insertAll_grows [] _).sound problem inserted).resolve_left List.not_mem_nil
  obtain ⟨row, isRow, ofRow⟩ := List.mem_flatMap.1 isFound
  rw [source_of_mem_found ofRow]
  obtain ⟨_, references, _, extracted, _, rfl⟩ := create_iff.1 created
  exact (SymbolReferences.extract_listsHeld extracted row isRow).1

namespace Diagnoser

variable {diagnoser : Diagnoser} {poms : PomMemory} {memory : DiagnosisMemory}
  {fs : FileSystem} {className : String} {entries : List ClasspathEntry} {entry : ClasspathEntry}

theorem provider_eq_some_iff :
    provider fs className entries = .ok (some entry) ↔
      FirstDefining fs className entries entry := by
  unfold FirstDefining
  induction entries with
  | nil => exact iff_of_false (fun found => by cases found) not_firstOf_nil
  | cons first rest ih =>
    rw [provider, firstOf_cons_iff, ← ih]
    cases defines : first.defines fs className with
    | error error =>
      refine iff_of_false (fun found => by cases found) fun either => ?_
      rcases either with ⟨rfl, isDefined⟩ | ⟨passed, _⟩
      · cases defines.symm.trans isDefined
      · cases passed
    | ok isDefined =>
      cases isDefined with
      | true =>
        change Except.ok (some first) = _ ↔ _
        constructor
        · intro found
          cases found
          exact .inl ⟨rfl, defines⟩
        · intro either
          rcases either with ⟨rfl, _⟩ | ⟨passed, _⟩
          · rfl
          · cases passed
      | false =>
        change provider fs className rest = _ ↔ _
        constructor
        · exact fun found => .inr ⟨rfl, found⟩
        · intro either
          rcases either with ⟨rfl, isDefined⟩ | ⟨_, found⟩
          · cases defines.symm.trans isDefined
          · exact found

private theorem joinPaths_eq (outer inner : DependencyPath) :
    joinPaths outer inner = ⟨outer.root, outer.dependencies ++ inner.dependencies.drop 1⟩ := by
  unfold joinPaths
  induction inner.dependencies.drop 1 generalizing outer with
  | nil => simp
  | cons dependency rest ih =>
    rw [List.foldl_cons, ih]
    simp [DependencyPath.append]

section Memory

theorem analyze_agrees {memory other : PomMemory} {c : Coordinate}
    (ends : diagnoser.builder.Ends diagnoser.fs [c] memory)
    (agrees : memory.Agrees diagnoser.builder.repositories diagnoser.fs other) :
    (diagnoser.analyze c memory).1 = (diagnoser.analyze c other).1 ∧
      (diagnoser.analyze c memory).2.Agrees diagnoser.builder.repositories diagnoser.fs memory := by
  obtain ⟨_, built, kept⟩ := ClasspathBuilder.resolve_agrees ends agrees
  exact ⟨by simp only [analyze, built], kept⟩

theorem analyze_eq_some_iff {c : Coordinate} {subtree : Subtree} :
    (diagnoser.analyze c poms).1 = some subtree ↔
      (diagnoser.builder.resolve diagnoser.fs [c] poms).1 = .ok subtree.resolved ∧
        diagnoser.problemsOf subtree.resolved = .ok subtree.problems := by
  unfold analyze
  dsimp only
  rw [toOption_eq_some_iff]
  constructor
  · intro analyzed
    obtain ⟨own, built, analyzed⟩ := bind_ok analyzed
    obtain ⟨problems, checked, same⟩ := bind_ok analyzed
    cases same
    exact ⟨built, checked⟩
  · rintro ⟨built, checked⟩
    rw [built]
    change diagnoser.problemsOf subtree.resolved >>= _ = _
    rw [checked]
    rfl

/-- Whether the own class path of an artifact is remembered, or the walk behind it returns. -/
def SubtreeEnds (diagnoser : Diagnoser) (c : Coordinate) (memory : DiagnosisMemory) : Prop :=
  memory.subtrees.lookup c = none → diagnoser.builder.Ends diagnoser.fs [c] memory.poms

/-- Whether the diagnosis of a problem returns. -/
def Ends (diagnoser : Diagnoser) (problem : Problem) (memory : DiagnosisMemory) : Prop :=
  ∀ source, problem.source.entry.coordinate = some source → diagnoser.SubtreeEnds source memory

/-- What a memory holds if it was started with some project descriptions. -/
structure Remembers (diagnoser : Diagnoser) (poms : PomMemory) (memory : DiagnosisMemory) :
    Prop where
  agrees : memory.poms.Agrees diagnoser.builder.repositories diagnoser.fs poms
  analyzed : ∀ c subtree, memory.subtrees.lookup c = some subtree →
    diagnoser.builder.Ends diagnoser.fs [c] poms ∧ subtree = (diagnoser.analyze c poms).1

theorem remembers_start : diagnoser.Remembers poms ⟨poms, []⟩ where
  agrees := fun _ => rfl
  analyzed := fun _ _ found => by cases found

private theorem Remembers.subtreeEnds_iff (remembers : diagnoser.Remembers poms memory) {c : Coordinate} :
    diagnoser.SubtreeEnds c memory ↔ diagnoser.builder.Ends diagnoser.fs [c] poms := by
  constructor
  · intro ends
    cases known : memory.subtrees.lookup c with
    | some subtree => exact (remembers.analyzed c subtree known).1
    | none => exact (ends known).of_agrees remembers.agrees
  · exact fun ends _ => ends.of_agrees remembers.agrees.symm

theorem Remembers.ends_iff (remembers : diagnoser.Remembers poms memory) {problem : Problem} :
    diagnoser.Ends problem memory ↔ ∀ source, problem.source.entry.coordinate = some source →
      diagnoser.builder.Ends diagnoser.fs [source] poms := by
  simp only [Diagnoser.Ends, remembers.subtreeEnds_iff]

theorem Remembers.subtree (remembers : diagnoser.Remembers poms memory) {c : Coordinate}
    (ends : diagnoser.SubtreeEnds c memory) :
    (diagnoser.subtree c memory).1 = (diagnoser.analyze c poms).1 ∧
      diagnoser.Remembers poms (diagnoser.subtree c memory).2 := by
  unfold Diagnoser.subtree
  cases known : memory.subtrees.lookup c with
  | some subtree => exact ⟨(remembers.analyzed c subtree known).2, remembers⟩
  | none =>
    -- The analysis is made with the memory of now and has the result that it has at the start.
    obtain ⟨same, agrees⟩ := analyze_agrees (ends known) remembers.agrees
    refine ⟨same, agrees.trans remembers.agrees, ?_⟩
    intro other subtree found
    rw [List.lookup_cons] at found
    split at found
    next isSame =>
      cases found
      rw [beq_iff_eq.1 isSame]
      exact ⟨remembers.subtreeEnds_iff.1 ends, same⟩
    next => exact remembers.analyzed other subtree found

/-- The memories that diagnoses which return leave behind, one after another. -/
inductive History (diagnoser : Diagnoser) (poms : PomMemory) : DiagnosisMemory → Prop
  | start : History diagnoser poms ⟨poms, []⟩
  | next {memory : DiagnosisMemory} (earlier : History diagnoser poms memory)
      (classpath : Classpath) (problem : Problem) (ends : diagnoser.Ends problem memory) :
    History diagnoser poms (diagnoser.diagnose classpath problem memory).2

theorem Remembers.diagnose (remembers : diagnoser.Remembers poms memory) (classpath : Classpath)
    {problem : Problem} (ends : diagnoser.Ends problem memory) :
    diagnoser.Remembers poms (diagnoser.diagnose classpath problem memory).2 := by
  unfold Diagnoser.diagnose
  cases named : problem.source.entry.coordinate with
  | none => exact remembers
  | some c =>
    have kept := (remembers.subtree (ends c named)).2
    dsimp only
    split
    next remembered =>
      rw [remembered] at kept
      exact kept
    next remembered =>
      rw [remembered] at kept
      exact kept

theorem History.remembers (history : diagnoser.History poms memory) :
    diagnoser.Remembers poms memory := by
  induction history with
  | start => exact remembers_start
  | next _ classpath problem ends ih => exact ih.diagnose classpath ends

theorem diagnose_eq (remembers : diagnoser.Remembers poms memory) (classpath : Classpath)
    {problem : Problem} {source : Coordinate}
    (named : problem.source.entry.coordinate = some source)
    (ends : diagnoser.Ends problem memory) :
    (diagnoser.diagnose classpath problem memory).1 =
      match (diagnoser.analyze source poms).1 with
      | none => .unknown
      | some subtree => diagnoser.causeIn classpath problem subtree := by
  rw [← (remembers.subtree (ends source named)).1]
  simp only [Diagnoser.diagnose, named]
  split <;> simp [*]

end Memory

/-- Whether the own class path of a source artifact, which does not have a problem itself, defines
the class of the symbol, first of all in the entry of an artifact. -/
structure Offers (diagnoser : Diagnoser) (poms : PomMemory) (source : Coordinate)
    (problem : Problem) (own : ResolvedClasspath) (provider : ClasspathEntry)
    (providing : Coordinate) : Prop where
  ends : diagnoser.builder.Ends diagnoser.fs [source] poms
  built : (diagnoser.builder.resolve diagnoser.fs [source] poms).1 = .ok own
  unaffected : ∃ problems, diagnoser.problemsOf own = .ok problems ∧
    (problem.symbol, problem.source.className) ∉ problems
  first : FirstDefining diagnoser.fs problem.symbol.className own.entries provider
  named : provider.coordinate = some providing

/-- Whether a path is the first one that is recorded for an entry, and where it starts and ends. -/
structure LeadsTo (resolved : ResolvedClasspath) (entry : ClasspathEntry) (c : Coordinate)
    (path : DependencyPath) : Prop where
  member : entry ∈ resolved.entries
  named : entry.coordinate = some c
  recorded : (resolved.classpath.paths entry).head? = some path
  ends : path.leaf = some c

/-- A path to an artifact whose key a class path lacks: the first path to the source of a problem,
followed by the path from there. -/
structure Lacks (resolved : ResolvedClasspath) (problem : Problem) (source providing : Coordinate)
    (unselected path : DependencyPath) : Prop where
  absent : ∀ entry ∈ resolved.entries, ∀ c, entry.coordinate = some c → c.key ≠ providing.key
  joined : ∃ outer, LeadsTo resolved problem.source.entry source outer ∧
    path = ⟨outer.root, outer.dependencies ++ unselected.dependencies.drop 1⟩
  ends : path.leaf = some providing

/-- Which causes are right for a problem of a class path, where `unselected` is the first path from
the source artifact to the one that its own class path offers. -/
inductive Justified (diagnoser : Diagnoser) (poms : PomMemory) (resolved : ResolvedClasspath)
    (problem : Problem) (source : Coordinate) : Cause → Prop
  | unknown
      (present : ∀ own provider providing,
        diagnoser.Offers poms source problem own provider providing →
          ∃ entry ∈ resolved.entries, entry.coordinate = some providing) :
    Justified diagnoser poms resolved problem source .unknown
  | conflict {own : ResolvedClasspath} {provider entry : ClasspathEntry}
      {chosen providing : Coordinate} {selected unselected : DependencyPath}
      (offers : diagnoser.Offers poms source problem own provider providing)
      (leads : LeadsTo own provider providing unselected)
      (starts : unselected.dependencies.head? = some (.plain source))
      (chooses : LeadsTo resolved entry chosen selected)
      (sameKey : chosen.key = providing.key) (different : chosen ≠ providing) :
    Justified diagnoser poms resolved problem source (.conflict problem.symbol selected unselected)
  | missing {own : ResolvedClasspath} {provider : ClasspathEntry} {providing : Coordinate}
      {unselected path : DependencyPath}
      (offers : diagnoser.Offers poms source problem own provider providing)
      (leads : LeadsTo own provider providing unselected)
      (starts : unselected.dependencies.head? = some (.plain source))
      (lacks : Lacks resolved problem source providing unselected path)
      (unexcluded : ¬ ∃ excluding, path.ExcludedBy providing.key excluding) :
    Justified diagnoser poms resolved problem source (.missing path)
  | excluded {own : ResolvedClasspath} {provider : ClasspathEntry}
      {providing excluding : Coordinate} {unselected path : DependencyPath}
      (offers : diagnoser.Offers poms source problem own provider providing)
      (leads : LeadsTo own provider providing unselected)
      (starts : unselected.dependencies.head? = some (.plain source))
      (lacks : Lacks resolved problem source providing unselected path)
      (excludedBy : path.ExcludedBy providing.key excluding) :
    Justified diagnoser poms resolved problem source (.excluded path excluding)

section Soundness

variable {resolved own : ResolvedClasspath} {problem : Problem} {source providing : Coordinate}
  {provider : ClasspathEntry} {builder : ClasspathBuilder} {roots : List Coordinate}
  {earlier : PomMemory}

theorem Offers.unique {other : ResolvedClasspath} {offering : ClasspathEntry} {offered : Coordinate}
    (offers : diagnoser.Offers poms source problem own provider providing)
    (offers' : diagnoser.Offers poms source problem other offering offered) :
    offered = providing := by
  cases offers.built.symm.trans offers'.built
  have same := (provider_eq_some_iff.2 offers.first).symm.trans
    (provider_eq_some_iff.2 offers'.first)
  cases same
  exact Option.some.inj (offers'.named.symm.trans offers.named)

theorem exists_leadsTo (ends : builder.Ends diagnoser.fs roots earlier)
    (built : (builder.resolve diagnoser.fs roots earlier).1 = .ok resolved)
    {entry : ClasspathEntry} (member : entry ∈ resolved.entries) :
    ∃ c path, LeadsTo resolved entry c path ∧
      ∃ root ∈ roots, path.dependencies.head? = some (.plain root) := by
  obtain ⟨c, path, named, recorded, _, starts, ends⟩ :=
    ClasspathBuilder.exists_first_path ends built member
  exact ⟨c, path, ⟨member, named, recorded, ends⟩, starts⟩

/-- A path from the source artifact to another one goes on behind the path to the source. -/
theorem leaf_of_joined {unselected : DependencyPath} (outer : DependencyPath)
    (starts : unselected.dependencies.head? = some (.plain source))
    (ends : unselected.leaf = some providing) (other : source ≠ providing) :
    (⟨outer.root, outer.dependencies ++ unselected.dependencies.drop 1⟩ : DependencyPath).leaf =
      some providing := by
  obtain ⟨root, dependencies⟩ := unselected
  cases dependencies with
  | nil => cases starts
  | cons first rest =>
    cases Option.some.inj starts
    rw [DependencyPath.leaf_cons] at ends
    cases rest with
    | nil => exact absurd (Option.some.inj ends) other
    | cons second rest =>
      exact (DependencyPath.leaf_append_of_ne_nil _ _ _ (List.cons_ne_nil _ _)).trans ends

private theorem causeOf_justified (ends : builder.Ends diagnoser.fs roots earlier)
    (built : (builder.resolve diagnoser.fs roots earlier).1 = .ok resolved)
    (member : problem.source.entry ∈ resolved.entries)
    (named : problem.source.entry.coordinate = some source)
    (offers : diagnoser.Offers poms source problem own provider providing)
    {unselected : DependencyPath} (leads : LeadsTo own provider providing unselected)
    (starts : unselected.dependencies.head? = some (.plain source)) :
    diagnoser.Justified poms resolved problem source
      (causeOf resolved.classpath problem providing unselected) := by
  unfold causeOf
  cases found : resolved.classpath.entryForKey? providing.key with
  | some entry =>
    obtain ⟨isEntry, chosen, isChosen, sameKey⟩ := Classpath.entryForKey?_some found
    obtain ⟨c, selected, chooses, _⟩ := exists_leadsTo ends built isEntry
    cases isChosen.symm.trans chooses.named
    dsimp only
    split
    next isProviding =>
      refine .unknown fun other offering offered offers' => ⟨entry, isEntry, ?_⟩
      rw [isProviding, offers.unique offers']
    next notProviding =>
      rw [chooses.recorded]
      refine .conflict offers leads starts chooses sameKey fun same => ?_
      exact notProviding (same ▸ isChosen)
  | none =>
    have absent := Classpath.entryForKey?_eq_none_iff.1 found
    obtain ⟨c, outer, leads', _⟩ := exists_leadsTo ends built member
    cases named.symm.trans leads'.named
    -- The source artifact itself is on the class path, so it is not the one that is offered.
    have other : source ≠ providing := fun same => absent _ member source named (same ▸ rfl)
    have lacks :
        Lacks resolved problem source providing unselected (joinPaths outer unselected) := by
      rw [joinPaths_eq]
      exact ⟨absent, ⟨outer, leads', rfl⟩, leaf_of_joined outer starts leads.ends other⟩
    simp only [leads'.recorded]
    cases excludes : (joinPaths outer unselected).findExclusion providing.key with
    | some excluding =>
      exact .excluded offers leads starts lacks
        (DependencyPath.findExclusion_eq_some_iff.1 excludes)
    | none =>
      refine .missing offers leads starts lacks fun excluded => ?_
      obtain ⟨excluding, excludedBy⟩ := excluded
      rw [DependencyPath.findExclusion_eq_some_iff.2 excludedBy] at excludes
      cases excludes

private theorem causeIn_justified (ends : builder.Ends diagnoser.fs roots earlier)
    (built : (builder.resolve diagnoser.fs roots earlier).1 = .ok resolved)
    (member : problem.source.entry ∈ resolved.entries)
    (named : problem.source.entry.coordinate = some source)
    (ownEnds : diagnoser.builder.Ends diagnoser.fs [source] poms) {subtree : Subtree}
    (analyzed : (diagnoser.analyze source poms).1 = some subtree) :
    diagnoser.Justified poms resolved problem source
      (diagnoser.causeIn resolved.classpath problem subtree) := by
  obtain ⟨ownBuilt, checked⟩ := analyze_eq_some_iff.1 analyzed
  unfold causeIn
  split
  next affected =>
    refine .unknown fun own provider providing offers => ?_
    cases ownBuilt.symm.trans offers.built
    obtain ⟨problems, checked', unaffected⟩ := offers.unaffected
    cases checked.symm.trans checked'
    exact absurd (List.contains_iff_mem.1 affected) unaffected
  next unaffected =>
    split
    next provider found =>
      have first := provider_eq_some_iff.1 found
      obtain ⟨providing, unselected, leads, root, isSource, starts⟩ :=
        exists_leadsTo ownEnds ownBuilt first.mem
      cases List.mem_singleton.1 isSource
      have isNew : (problem.symbol, problem.source.className) ∉ subtree.problems :=
        fun contained => unaffected (List.contains_iff_mem.2 contained)
      have offers : diagnoser.Offers poms source problem subtree.resolved provider providing :=
        ⟨ownEnds, ownBuilt, ⟨_, checked, isNew⟩, first, leads.named⟩
      simp only [leads.named, leads.recorded]
      exact causeOf_justified ends built member named offers leads starts
    next notFound =>
      refine .unknown fun own provider providing offers => ?_
      cases ownBuilt.symm.trans offers.built
      exact absurd (provider_eq_some_iff.2 offers.first) (notFound provider)

/-- The diagnosis of a problem that a checker finds on a class path returns exactly if the walk from
its source artifact does. Then the cause is right, whatever has been diagnosed before. -/
theorem diagnose_justified (ends : builder.Ends diagnoser.fs roots earlier)
    (built : (builder.resolve diagnoser.fs roots earlier).1 = .ok resolved)
    {config : CheckerConfig} {rules : List ExclusionRule} {checker : Checker}
    (created : Checker.create diagnoser.fs resolved config rules = .ok checker)
    {problems : List Problem} (ran : checker.problems diagnoser.fs = .ok problems)
    (member : problem ∈ problems) (history : diagnoser.History poms memory) :
    ∃ source, problem.source.entry.coordinate = some source ∧
      (diagnoser.Ends problem memory ↔ diagnoser.builder.Ends diagnoser.fs [source] poms) ∧
      (diagnoser.Ends problem memory → diagnoser.Justified poms resolved problem source
        (diagnoser.diagnose resolved.classpath problem memory).1) := by
  have isEntry := Checker.source_entry_mem created ran member
  obtain ⟨source, _, named, _⟩ := ClasspathBuilder.exists_first_path ends built isEntry
  have remembers := history.remembers
  have returns : diagnoser.Ends problem memory ↔
      diagnoser.builder.Ends diagnoser.fs [source] poms := by
    simp [remembers.ends_iff, named]
  refine ⟨source, named, returns, fun diagnosed => ?_⟩
  rw [diagnose_eq remembers resolved.classpath named diagnosed]
  cases analyzed : (diagnoser.analyze source poms).1 with
  | some subtree =>
    exact causeIn_justified ends built isEntry named (returns.1 diagnosed) analyzed
  | none =>
    refine .unknown fun own provider providing offers => ?_
    obtain ⟨problems, checked, _⟩ := offers.unaffected
    have succeeded : (diagnoser.analyze source poms).1 = some ⟨own, problems⟩ :=
      analyze_eq_some_iff.2 ⟨offers.built, checked⟩
    rw [analyzed] at succeeded
    cases succeeded

end Soundness

namespace ExclusionSample

open PrecedenceSample (blank sampleRepositories)
open Walk.CycleSample (dependencyOn)
open ClasspathBuilder.NearestSample (sampleBuilder)

def top : Coordinate := .plain "g" "top" "1"

def user : Coordinate := .plain "g" "user" "1"

def lib : Coordinate := .plain "g" "lib" "1"

/-- The first artifact depends on the user without its library. -/
def topPom : Pom := { blank with dependencies := [dependencyOn user [lib.key]] }

def userPom : Pom := { blank with dependencies := [dependencyOn lib []] }

/-- A repository with two artifacts, where the class of the second one uses another class. -/
def storing (topPom userPom : Pom) : List (Location × Node) :=
  [["m2"], ["m2", "g"], ["m2", "g", "top"], ["m2", "g", "top", "1"], ["m2", "g", "user"],
    ["m2", "g", "user", "1"]].map (fun names => (⟨false, names⟩, .directory)) ++
  [(⟨false, ["m2", "g", "top", "1", "top-1.jar"]⟩, .archive []),
    (⟨false, ["m2", "g", "top", "1", "top-1.pom"]⟩, .file (Utf8.encode topPom.written)),
    (⟨false, ["m2", "g", "user", "1", "user-1.jar"]⟩, .archive [
      ⟨"a/U.class", ((ClassDraft.ofClass "a.U").declare (.referencesClass "p.G")).build⟩]),
    (⟨false, ["m2", "g", "user", "1", "user-1.pom"]⟩, .file (Utf8.encode userPom.written))]

def files : FileSystem := .ofNodes (storing topPom userPom ++ [
  (⟨false, ["m2", "g", "lib"]⟩, .directory), (⟨false, ["m2", "g", "lib", "1"]⟩, .directory),
  (⟨false, ["m2", "g", "lib", "1", "lib-1.jar"]⟩, .archive [
    ⟨"p/G.class", (ClassDraft.ofClass "p.G").build⟩])])

def sample : Diagnoser where
  builder := sampleBuilder
  config := { CheckerConfig.default none with systemPackages := ["java."] }
  fs := files

/-- What the files say of the dependencies. -/
def described : PomMemory := [
  (top, some ⟨[], [], topPom.dependencies⟩), (user, some ⟨[], [], userPom.dependencies⟩),
  (lib, none)]

theorem read_descriptions :
    (PomMemory.directDependencies [] sampleRepositories files top).1 =
        .ok [⟨user, .compile, false, [lib.key]⟩] ∧
      (PomMemory.directDependencies [] sampleRepositories files user).1 = .ok [.plain lib] := by
  have load_top : Pom.load files ⟨"m2/g/top/1/top-1.pom"⟩ = .ok topPom :=
    Pom.load_written rfl (by decide +kernel)
  have load_user : Pom.load files ⟨"m2/g/user/1/user-1.pom"⟩ = .ok userPom :=
    Pom.load_written rfl (by decide +kernel)
  constructor
  · rw [PomMemory.directDependencies_of_load (by decide +kernel) load_top rfl rfl]
    decide +kernel
  · rw [PomMemory.directDependencies_of_load (by decide +kernel) load_user rfl rfl]
    decide +kernel

theorem described_agrees : described.Agrees sampleRepositories files [] := by
  apply PomMemory.agrees_nil_of_rows
  simp only [described, List.forall_mem_cons]
  refine ⟨?_, ?_, ?_, fun _ member => absurd member List.not_mem_nil⟩
  · exact read_descriptions.1.trans (by decide +kernel)
  · exact read_descriptions.2.trans (by decide +kernel)
  · exact PomMemory.directDependencies_of_absent (by decide +kernel)

/-- The class path that is built from a graph. -/
def mediated (roots : List Coordinate) (graph : DependencyGraph) : ResolvedClasspath :=
  { Mediation.nearest graph with
    entryPoints := roots.filterMap (Mediation.nearest graph).classpath.entryFor? }

/-- A walk may be followed by a memory of what the files say. -/
theorem built_of_graphAfter {fs : FileSystem} {memory : PomMemory} {roots : List Coordinate}
    {steps : Nat} {graph : DependencyGraph} (agrees : memory.Agrees sampleRepositories fs [])
    (finished : Walk.graphAfter sampleRepositories fs steps (.ofRoots roots) memory = some graph) :
    sampleBuilder.Ends fs roots [] ∧
      (sampleBuilder.resolve fs roots []).1 = .ok (mediated roots graph) := by
  obtain ⟨_, returns⟩ := Walk.returns_of_graphAfter finished
  obtain ⟨later, returns⟩ : ∃ later, Walk.Returns sampleBuilder.repositories fs
      (.ofRoots roots) [] (.ok graph) later := returns.of_agrees agrees
  exact ⟨returns.ends, ClasspathBuilder.resolve_maven rfl returns⟩

/-- The way to the library, which the first artifact excludes for the user. -/
def excludedPath : DependencyPath :=
  ⟨none, [.plain top, ⟨user, .compile, false, [lib.key]⟩, .plain lib]⟩

/-- A problem on the whole class path, and what it is compared with. -/
structure Compared (resolved : ResolvedClasspath) (checker : Checker) (problem : Problem)
    (subtree : Subtree) : Prop where
  ends : sample.builder.Ends sample.fs [top] []
  built : (sample.builder.resolve sample.fs [top] []).1 = .ok resolved
  created : Checker.create sample.fs resolved sample.config [] = .ok checker
  ran : checker.problems sample.fs = .ok [problem]
  named : problem.source.entry.coordinate = some user
  ownEnds : sample.builder.Ends sample.fs [user] []
  analyzed : (sample.analyze user []).1 = some subtree
  caused : sample.causeIn resolved.classpath problem subtree = .excluded excludedPath top

theorem exists_compared :
    ∃ resolved checker problem subtree, Compared resolved checker problem subtree := by
  have run : (do
      let graph ← Walk.graphAfter sampleRepositories files 2 (.ofRoots [top]) described
      let own ← Walk.graphAfter sampleRepositories files 2 (.ofRoots [user]) described
      let checker ← (Checker.create sample.fs (mediated [top] graph) sample.config []).toOption
      let problems ← (checker.problems sample.fs).toOption
      let ownProblems ← (sample.problemsOf (mediated [user] own)).toOption
      return problems.map fun problem => (problem.source.entry.coordinate, sample.causeIn
        (mediated [top] graph).classpath problem ⟨mediated [user] own, ownProblems⟩)) =
      some [(some user, .excluded excludedPath top)] := by
    decide +kernel
  obtain ⟨graph, walked, run⟩ := Option.bind_eq_some_iff.1 run
  obtain ⟨own, ownWalked, run⟩ := Option.bind_eq_some_iff.1 run
  obtain ⟨checker, created, run⟩ := Option.bind_eq_some_iff.1 run
  obtain ⟨problems, ran, run⟩ := Option.bind_eq_some_iff.1 run
  obtain ⟨ownProblems, checked, run⟩ := Option.bind_eq_some_iff.1 run
  obtain ⟨problem, rfl, outcome⟩ := List.map_eq_singleton_iff.1 (Option.some.inj run)
  obtain ⟨named, caused⟩ := Prod.mk.inj outcome
  rw [toOption_eq_some_iff] at created ran checked
  obtain ⟨ends, built⟩ : sample.builder.Ends sample.fs [top] [] ∧
      (sample.builder.resolve sample.fs [top] []).1 = .ok (mediated [top] graph) :=
    built_of_graphAfter described_agrees walked
  obtain ⟨ownEnds, ownBuilt⟩ : sample.builder.Ends sample.fs [user] [] ∧
      (sample.builder.resolve sample.fs [user] []).1 = .ok (mediated [user] own) :=
    built_of_graphAfter described_agrees ownWalked
  have analyzed : (sample.analyze user []).1 = some ⟨mediated [user] own, ownProblems⟩ :=
    analyze_eq_some_iff.2 ⟨ownBuilt, checked⟩
  exact ⟨_, checker, problem, _, ends, built, created, ran, named, ownEnds, analyzed, caused⟩

theorem Compared.diagnosed {resolved : ResolvedClasspath} {checker : Checker} {problem : Problem}
    {subtree : Subtree} (compared : Compared resolved checker problem subtree) :
    sample.Ends problem ⟨[], []⟩ ∧
      (sample.diagnose resolved.classpath problem ⟨[], []⟩).1 = .excluded excludedPath top := by
  have ends : sample.Ends problem ⟨[], []⟩ := by
    rw [remembers_start.ends_iff, compared.named]
    rintro source ⟨⟩
    exact compared.ownEnds
  refine ⟨ends, ?_⟩
  rw [diagnose_eq remembers_start _ compared.named ends, compared.analyzed]
  exact compared.caused

/-- The library that is missing was excluded by the first artifact. -/
theorem diagnose_justified_of_exclusion :
    ∃ resolved checker problem path,
      sample.builder.Ends sample.fs [top] [] ∧
      (sample.builder.resolve sample.fs [top] []).1 = .ok resolved ∧
      Checker.create sample.fs resolved sample.config [] = .ok checker ∧
      checker.problems sample.fs = .ok [problem] ∧
      sample.Ends problem ⟨[], []⟩ ∧
      (sample.diagnose resolved.classpath problem ⟨[], []⟩).1 = .excluded path top ∧
      path.coordinates = [top, user, lib] ∧
      sample.Justified [] resolved problem user (.excluded path top) := by
  obtain ⟨resolved, checker, problem, subtree, compared⟩ := exists_compared
  obtain ⟨diagnosable, diagnosed⟩ := compared.diagnosed
  obtain ⟨source, named, _, justified⟩ := diagnose_justified compared.ends compared.built
    compared.created compared.ran (List.mem_singleton_self problem) .start
  cases compared.named.symm.trans named
  have caused := justified diagnosable
  rw [diagnosed] at caused
  exact ⟨resolved, checker, problem, excludedPath, compared.ends, compared.built, compared.created,
    compared.ran, diagnosable, diagnosed, rfl, caused⟩

end ExclusionSample

namespace OptionalSample

open PrecedenceSample (blank sampleRepositories)
open Walk.CycleSample (dependencyOn)
open ExclusionSample (top user storing mediated built_of_graphAfter)
open EndlessSample (stray strayPom strayFiles Strays Follows)

/-- The first artifact depends on the user. -/
def topPom : Pom := { blank with dependencies := [dependencyOn user []] }

/-- What the user depends on is followed only for a root. -/
def userPom : Pom :=
  { blank with dependencies := [{ dependencyOn (stray 0) [] with optional := true }] }

def files : FileSystem := ⟨storing topPom userPom ++ strayFiles, some 4096, some 255⟩

def sample : Diagnoser := { ExclusionSample.sample with fs := files }

/-- What the files say of the dependencies. -/
def described : PomMemory := [
  (top, some ⟨[], [], topPom.dependencies⟩), (user, some ⟨[], [], userPom.dependencies⟩)]

theorem read_descriptions :
    (PomMemory.directDependencies [] sampleRepositories files top).1 = .ok [.plain user] ∧
      (PomMemory.directDependencies [] sampleRepositories files user).1 =
        .ok [⟨stray 0, .compile, true, []⟩] := by
  have load_top : Pom.load files ⟨"m2/g/top/1/top-1.pom"⟩ = .ok topPom :=
    Pom.load_written rfl (by decide +kernel)
  have load_user : Pom.load files ⟨"m2/g/user/1/user-1.pom"⟩ = .ok userPom :=
    Pom.load_written rfl (by decide +kernel)
  constructor
  · rw [PomMemory.directDependencies_of_load (by decide +kernel) load_top rfl rfl]
    decide +kernel
  · rw [PomMemory.directDependencies_of_load (by decide +kernel) load_user rfl rfl]
    decide +kernel

theorem described_agrees : described.Agrees sampleRepositories files [] := by
  apply PomMemory.agrees_nil_of_rows
  simp only [described, List.forall_mem_cons]
  refine ⟨?_, ?_, fun _ member => absurd member List.not_mem_nil⟩
  · exact read_descriptions.1.trans (by decide +kernel)
  · exact read_descriptions.2.trans (by decide +kernel)

theorem files_stray : Strays sampleRepositories files := by
  have load_stray : Pom.load files ⟨"/lib/x-1.pom"⟩ = .ok strayPom :=
    Pom.load_written rfl (by decide +kernel)
  exact EndlessSample.strays_of_locate (by decide +kernel) (by decide +kernel) load_stray

/-- The walk from the user after its first step. -/
def entered (file : Path) : Walk :=
  ((Walk.ofRoots [user]).take (.ofRoot user) []).withFile user (.ofRoot user) file
    [⟨stray 0, .compile, true, []⟩]

private theorem follows_entered (file : Path) {memory : PomMemory}
    (agrees : memory.Agrees sampleRepositories files []) :
    Follows sampleRepositories files 0
      (DependencyPath.append (.ofRoot user) ⟨stray 0, .compile, true, []⟩) (entered file)
      memory where
  queued := rfl
  ends := rfl
  unexcluded := by simp [DependencyPath.append, DependencyPath.ofRoot, Dependency.plain]
  new := by
    simp [entered, Walk.withFile, Walk.take, Walk.ofRoots, stray, user, Coordinate.plain]
  agrees := agrees

/-- From the user itself the walk never returns. -/
theorem user_never_ends : ¬ sample.builder.Ends sample.fs [user] [] := by
  intro ends
  obtain ⟨file, located⟩ : ∃ file, sampleRepositories.jarPath files user = some file :=
    Option.isSome_iff_exists.1 (by decide +kernel)
  have stepped : Walk.step sampleRepositories files (.ofRoots [user]) (.ofRoot user) [] [] =
      (.ok (entered file), _) :=
    Walk.step_of_located rfl List.not_mem_nil located read_descriptions.2
  have follows := follows_entered file (Walk.agrees_of_step stepped)
  exact follows.not_ends files_stray (ends.of_step rfl stepped)

/-- The whole class path is built and checked. -/
theorem problem_found : ∃ resolved checker problem,
    sample.builder.Ends sample.fs [top] [] ∧
    (sample.builder.resolve sample.fs [top] []).1 = .ok resolved ∧
    Checker.create sample.fs resolved sample.config [] = .ok checker ∧
    checker.problems sample.fs = .ok [problem] ∧
    problem.source.entry.coordinate = some user := by
  have run : (do
      let graph ← Walk.graphAfter sampleRepositories files 2 (.ofRoots [top]) described
      let checker ← (Checker.create sample.fs (mediated [top] graph) sample.config []).toOption
      let problems ← (checker.problems sample.fs).toOption
      return problems.map fun problem => problem.source.entry.coordinate) = some [some user] := by
    decide +kernel
  obtain ⟨graph, walked, run⟩ := Option.bind_eq_some_iff.1 run
  obtain ⟨checker, created, run⟩ := Option.bind_eq_some_iff.1 run
  obtain ⟨problems, ran, run⟩ := Option.bind_eq_some_iff.1 run
  obtain ⟨problem, rfl, named⟩ := List.map_eq_singleton_iff.1 (Option.some.inj run)
  rw [toOption_eq_some_iff] at created ran
  obtain ⟨ends, built⟩ : sample.builder.Ends sample.fs [top] [] ∧
      (sample.builder.resolve sample.fs [top] []).1 = .ok (mediated [top] graph) :=
    built_of_graphAfter described_agrees walked
  exact ⟨_, checker, problem, ends, built, created, ran, named⟩

/-- The walk behind the whole class path returns, and the diagnosis of the problem that is found on
it does not. -/
theorem diagnosis_never_ends : ∃ resolved checker problem,
    sample.builder.Ends sample.fs [top] [] ∧
    (sample.builder.resolve sample.fs [top] []).1 = .ok resolved ∧
    Checker.create sample.fs resolved sample.config [] = .ok checker ∧
    checker.problems sample.fs = .ok [problem] ∧ ¬ sample.Ends problem ⟨[], []⟩ := by
  obtain ⟨resolved, checker, problem, ends, built, created, ran, named⟩ := problem_found
  refine ⟨resolved, checker, problem, ends, built, created, ran, fun diagnosed => ?_⟩
  exact user_never_ends (remembers_start.ends_iff.1 diagnosed user named)

end OptionalSample

end Diagnoser

end Linkage
