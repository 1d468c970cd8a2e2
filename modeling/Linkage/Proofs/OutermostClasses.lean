import Linkage.Proofs.ReachableProblems

/-!
The classes that problems are reported for.

A problem is reported for the outermost class around its source, whose name is what stands before
the first dollar sign. As long as dollar signs stand only inside of simple names, this is a class of
the same package. Classes whose simple names begin differently are then reported apart.
-/

set_option autoImplicit false

namespace Linkage

namespace Text

variable {α : Type} {isSeparator : α → Bool} {items before after : List α}

private theorem splitOnce_eq_none_iff :
    splitOnce isSeparator items = none ↔ ∀ item ∈ items, isSeparator item = false := by
  induction items with
  | nil => simp [splitOnce]
  | cons item rest ih =>
    cases separates : isSeparator item with
    | true => simp [splitOnce, separates]
    | false => simp [splitOnce, separates, ih]

private theorem splitLast_eq_some_iff :
    splitLast isSeparator items = some (before, after) ↔
      (∀ item ∈ after, isSeparator item = false) ∧
        ∃ separator, isSeparator separator = true ∧ items = before ++ separator :: after := by
  simp only [splitLast, Option.map_eq_some_iff, Prod.exists, Prod.mk.injEq]
  constructor
  · rintro ⟨reversed, front, cut, rfl, rfl⟩
    obtain ⟨clear, separator, separates, whole⟩ := splitOnce_eq_some_iff.1 cut
    refine ⟨fun item member => clear item (List.mem_reverse.1 member), separator, separates, ?_⟩
    simpa using congrArg List.reverse whole
  · rintro ⟨clear, separator, separates, rfl⟩
    refine ⟨after.reverse, before.reverse, splitOnce_eq_some_iff.2 ⟨?_, separator, separates, ?_⟩,
      List.reverse_reverse before, List.reverse_reverse after⟩
    · exact fun item member => clear item (List.mem_reverse.1 member)
    · simp

private theorem splitLast_eq_none_iff :
    splitLast isSeparator items = none ↔ ∀ item ∈ items, isSeparator item = false := by
  simp [splitLast, splitOnce_eq_none_iff]

end Text

/-- The name of a class within its package. -/
def simpleNameOf (className : String) : String :=
  match Text.splitLast (· == '.') className.toList with
  | some (_, simple) => String.ofList simple
  | none => className

section Parts

variable {className : String} {package simple : List Char}

theorem parts_of_unpackaged (clear : '.' ∉ className.toList) :
    packageOf className = "" ∧ simpleNameOf className = className := by
  have uncut : Text.splitLast (· == '.') className.toList = none := by
    rw [Text.splitLast_eq_none_iff]
    intro c member
    exact beq_eq_false_iff_ne.2 fun same => clear (same ▸ member)
  simp [packageOf, simpleNameOf, uncut]

theorem parts_of_packaged (clear : '.' ∉ simple)
    (whole : className.toList = package ++ '.' :: simple) :
    (packageOf className).toList = package ∧ (simpleNameOf className).toList = simple := by
  have cut : Text.splitLast (· == '.') className.toList = some (package, simple) := by
    refine Text.splitLast_eq_some_iff.2 ⟨fun c member => ?_, '.', rfl, whole⟩
    exact beq_eq_false_iff_ne.2 fun same => clear (same ▸ member)
  simp [packageOf, simpleNameOf, cut]

theorem exists_parts (className : String) :
    '.' ∉ className.toList ∨ ∃ package simple, '.' ∉ simple ∧
      className.toList = package ++ '.' :: simple := by
  cases cut : Text.splitLast (· == '.') className.toList with
  | none =>
    refine .inl fun member => ?_
    exact absurd (Text.splitLast_eq_none_iff.1 cut '.' member) (by decide)
  | some parts =>
    obtain ⟨clear, separator, separates, whole⟩ := Text.splitLast_eq_some_iff.1 cut
    rw [beq_iff_eq.1 separates] at whole
    exact .inr ⟨parts.1, parts.2, fun member => absurd (clear '.' member) (by decide), whole⟩

private theorem length_packageOf_le (className : String) :
    (packageOf className).toList.length ≤ className.toList.length := by
  rcases exists_parts className with clear | ⟨package, simple, clear, whole⟩
  · simp [(parts_of_unpackaged clear).1]
  · rw [(parts_of_packaged clear whole).1, whole, List.length_append]
    exact Nat.le_add_right _ _

end Parts

/-- Whether a class that stands for another one is in the same package and has a simple name that
the other simple name begins with. -/
structure StandsFor (outer className : String) : Prop where
  package : packageOf outer = packageOf className
  filled : simpleNameOf outer ≠ ""
  begins : (simpleNameOf outer).toList <+: (simpleNameOf className).toList

/-- Whether the outermost class around a class can be told from its name: either the name is not
cut, because nothing stands before the first dollar sign, or it is cut inside of the simple name. -/
def CutsInside (className : String) : Prop :=
  className.toList.head? = some '$' ∨
    '$' ∉ (packageOf className).toList ∧ (simpleNameOf className).toList.head? ≠ some '$'

instance (outer className : String) : Decidable (StandsFor outer className) :=
  decidable_of_iff (packageOf outer = packageOf className ∧ simpleNameOf outer ≠ "" ∧
      (simpleNameOf outer).toList <+: (simpleNameOf className).toList)
    ⟨fun all => ⟨all.1, all.2.1, all.2.2⟩,
      fun stands => ⟨stands.package, stands.filled, stands.begins⟩⟩

instance (className : String) : Decidable (CutsInside className) :=
  inferInstanceAs (Decidable (_ ∨ _ ∧ _))

section Outermost

variable {className : String} {outer inner : List Char}

private theorem standsFor_self (filled : simpleNameOf className ≠ "") : StandsFor className className :=
  ⟨rfl, filled, List.prefix_rfl⟩

private theorem topLevelName_cases (className : String) :
    topLevelName className = className ∧
        ('$' ∉ className.toList ∨ className.toList.head? = some '$') ∨
      ∃ outer inner, outer ≠ [] ∧ '$' ∉ outer ∧ className.toList = outer ++ '$' :: inner ∧
        (topLevelName className).toList = outer := by
  unfold topLevelName
  cases cut : Text.splitOnce (· == '$') className.toList with
  | none =>
    refine .inl ⟨rfl, .inl fun member => ?_⟩
    exact absurd (Text.splitOnce_eq_none_iff.1 cut '$' member) (by decide)
  | some parts =>
    obtain ⟨clear, separator, separates, whole⟩ := Text.splitOnce_eq_some_iff.1 cut
    rw [beq_iff_eq.1 separates] at whole
    cases outer : parts.1 with
    | nil =>
      refine .inl ⟨by simp [outer], .inr ?_⟩
      rw [whole, outer]
      rfl
    | cons first rest =>
      refine .inr ⟨first :: rest, parts.2, by simp, fun member => ?_, outer ▸ whole, ?_⟩
      · exact absurd (clear '$' (outer ▸ member)) (by decide)
      · simp [outer]

private theorem cutsInside_of_clear (clear : '$' ∉ className.toList) : CutsInside className := by
  rcases exists_parts className with unpackaged | ⟨package, simple, simpleClear, whole⟩
  · obtain ⟨noPackage, all⟩ := parts_of_unpackaged unpackaged
    refine .inr ⟨by simp [noPackage], fun starts => clear ?_⟩
    rw [all] at starts
    exact List.mem_of_mem_head? starts
  · obtain ⟨isPackage, isSimple⟩ := parts_of_packaged simpleClear whole
    rw [whole, List.mem_append, List.mem_cons] at clear
    refine .inr ⟨fun member => clear (.inl (isPackage ▸ member)), fun starts => ?_⟩
    exact clear (.inr (.inr (isSimple ▸ List.mem_of_mem_head? starts)))

section Cut

variable {name : String} {package simple kept : List Char}

private theorem standsFor_of_unpackaged (nonempty : outer ≠ []) (unpackaged : '.' ∉ className.toList)
    (whole : className.toList = outer ++ '$' :: inner) (named : name.toList = outer) :
    StandsFor name className := by
  obtain ⟨noPackage, all⟩ := parts_of_unpackaged unpackaged
  have outerUnpackaged : '.' ∉ name.toList := by
    rw [whole, List.mem_append] at unpackaged
    exact fun member => unpackaged (.inl (named ▸ member))
  obtain ⟨noPackage', all'⟩ := parts_of_unpackaged outerUnpackaged
  refine ⟨noPackage'.trans noPackage.symm, fun nothing => ?_, ?_⟩
  · rw [all'] at nothing
    rw [nothing] at named
    exact nonempty named.symm
  · rw [all, all', whole, named]
    exact List.prefix_append outer _

/-- A name that is cut inside of its package is shorter than the package. -/
theorem not_standsFor_of_shorter (isPackage : (packageOf className).toList = package)
    (shorter : name.toList.length < package.length) : ¬ StandsFor name className := by
  intro standsFor
  have lengths := length_packageOf_le name
  rw [standsFor.package, isPackage] at lengths
  exact absurd shorter (Nat.not_lt.2 lengths)

private theorem standsFor_of_packaged (clear : '.' ∉ simple)
    (whole : className.toList = package ++ '.' :: simple) (begins : kept <+: simple)
    (named : name.toList = package ++ '.' :: kept) : StandsFor name className ↔ kept ≠ [] := by
  obtain ⟨isPackage, isSimple⟩ := parts_of_packaged clear whole
  obtain ⟨isPackage', isSimple'⟩ :=
    parts_of_packaged (fun member => clear (begins.subset member)) named
  constructor
  · intro standsFor nothing
    rw [nothing] at isSimple'
    exact standsFor.filled (String.toList_eq_nil_iff.1 isSimple')
  · intro something
    refine ⟨String.toList_inj.1 (isPackage'.trans isPackage.symm), fun nothing => ?_, ?_⟩
    · rw [nothing] at isSimple'
      exact something isSimple'.symm
    · rwa [isSimple', isSimple]

end Cut

/-- A name that is cut before the end of its package loses the package, and one that is cut at the
start of its simple name loses that. Any other cut leaves a class of the same package. -/
theorem standsFor_of_cut (nonempty : outer ≠ []) (clear : '$' ∉ outer)
    (whole : className.toList = outer ++ '$' :: inner) {name : String}
    (named : name.toList = outer) : StandsFor name className ↔ CutsInside className := by
  have notAtStart : className.toList.head? ≠ some '$' := by
    obtain ⟨first, rest, rfl⟩ := List.exists_cons_of_ne_nil nonempty
    rw [whole, List.cons_append, List.head?_cons, ne_eq, Option.some.injEq]
    rintro rfl
    exact clear List.mem_cons_self
  rw [CutsInside, or_iff_right notAtStart]
  rcases exists_parts className with unpackaged | ⟨package, simple, simpleClear, parts⟩
  · obtain ⟨noPackage, all⟩ := parts_of_unpackaged unpackaged
    refine iff_of_true (standsFor_of_unpackaged nonempty unpackaged whole named) ?_
    rw [noPackage, all]
    exact ⟨by simp, notAtStart⟩
  · obtain ⟨isPackage, isSimple⟩ := parts_of_packaged simpleClear parts
    rcases List.append_eq_append_iff.1 (whole.symm.trans parts) with
      ⟨rest, longer, follows⟩ | ⟨rest, shorter, follows⟩
    · -- The dollar sign stands in the package.
      cases rest with
      | nil => exact absurd (List.cons.inj follows).1 (by decide)
      | cons first rest =>
        cases (List.cons.inj follows).1
        refine iff_of_false (not_standsFor_of_shorter isPackage ?_) fun cuts => cuts.1 ?_
        · simp [named, longer]
        · simp [isPackage, longer]
    · -- The dollar sign stands in the simple name, of which `kept` is what comes before it.
      cases rest with
      | nil => exact absurd (List.cons.inj follows).1 (by decide)
      | cons first kept =>
        obtain ⟨rfl, rfl⟩ := List.cons.inj follows
        rw [standsFor_of_packaged simpleClear parts (List.prefix_append kept _)
          (named.trans shorter), isPackage, isSimple]
        have outside : '$' ∉ package := fun member => clear (by simp [shorter, member])
        cases kept with
        | nil => simp
        | cons first others =>
          have other : first ≠ '$' := by
            rintro rfl
            exact clear (by simp [shorter])
          simp [outside, other]

/-- The outermost class stands for a class exactly if the name of the class is cut inside of its
simple name, or not at all. -/
theorem standsFor_topLevelName_iff (filled : simpleNameOf className ≠ "") :
    StandsFor (topLevelName className) className ↔ CutsInside className := by
  rcases topLevelName_cases className with
    ⟨uncut, clear | starts⟩ | ⟨outer, inner, nonempty, clear, whole, named⟩
  · rw [uncut]
    exact iff_of_true (standsFor_self filled) (cutsInside_of_clear clear)
  · rw [uncut]
    exact iff_of_true (standsFor_self filled) (.inl starts)
  · exact standsFor_of_cut nonempty clear whole named

private theorem StandsFor.exists_common {first second name : String} (left : StandsFor name first)
    (right : StandsFor name second) :
    ∃ common, common ≠ [] ∧ common <+: (simpleNameOf first).toList ∧
      common <+: (simpleNameOf second).toList :=
  ⟨(simpleNameOf name).toList, fun nothing => left.filled (String.toList_eq_nil_iff.1 nothing),
    left.begins, right.begins⟩

end Outermost

/-- The problems of a class are reported for a class of the same package whose simple name its own
one begins with, exactly if its name is not cut before the simple name. Then the problems of classes
whose simple names have no common beginning are reported for different classes. -/
theorem Checker.sources_keep_packages {context : CheckContext} {look : Look}
    {first second : ClassLocation × List Symbol} (filled : simpleNameOf first.1.className ≠ "")
    (filled' : simpleNameOf second.1.className ≠ "") :
    (StandsFor (topLevelName first.1.className) first.1.className ↔
      CutsInside first.1.className) ∧
    first.1.topLevel = ⟨first.1.entry, topLevelName first.1.className⟩ ∧
    (∀ problem ∈ found context look first, problem.source = first.1.topLevel) ∧
    (CutsInside first.1.className → CutsInside second.1.className →
      (¬ ∃ common, common ≠ [] ∧ common <+: (simpleNameOf first.1.className).toList ∧
        common <+: (simpleNameOf second.1.className).toList) →
      ∀ problem ∈ found context look first, ∀ other ∈ found context look second,
        problem.source.same other.source = false) := by
  refine ⟨standsFor_topLevelName_iff filled, rfl, fun _ => source_of_mem_found, ?_⟩
  intro cuts cuts' apart problem member other otherMember
  rw [source_of_mem_found member, source_of_mem_found otherMember, Bool.eq_false_iff]
  intro same
  have merged : topLevelName first.1.className = topLevelName second.1.className :=
    (ClassLocation.same_iff.1 same).1
  have left := (standsFor_topLevelName_iff filled).2 cuts
  have right := (standsFor_topLevelName_iff filled').2 cuts'
  rw [← merged] at right
  exact apart (left.exists_common right)

namespace OutermostSample

def archive : ClasspathEntry := .ofPath ⟨"a.jar"⟩

/-- Two class files of one archive that use the same absent class. -/
def filesOf (first second : String) : FileSystem := .ofNodes [
  (⟨false, ["a.jar"]⟩, .archive [
    ⟨fileOfClass first, ((ClassDraft.ofClass first).declare (.referencesClass "x.G")).build⟩,
    ⟨fileOfClass second, ((ClassDraft.ofClass second).declare (.referencesClass "x.G")).build⟩])]

def config : CheckerConfig := { CheckerConfig.default none with systemPackages := ["java."] }

/-- The classes that a run reports problems for. -/
def sources (files : FileSystem) : Except CheckerError (List String) := do
  let checker ← Checker.create files (.ofPaths [archive.path]) config []
  let problems ← checker.problems files
  return problems.map (·.source.className)

/-- A class that is nested twice and one of another name. -/
theorem sources_keep_packages_of_nested_class :
    StandsFor (topLevelName "a.B$C$D") "a.B$C$D" ∧ topLevelName "a.B$C$D" = "a.B" ∧
      ∀ context look symbols symbols',
        ∀ problem ∈ Checker.found context look (⟨archive, "a.B$C$D"⟩, symbols),
        ∀ other ∈ Checker.found context look (⟨archive, "a.E"⟩, symbols'),
          problem.source.same other.source = false := by
  have nested : simpleNameOf "a.B$C$D" = "B$C$D" ∧ CutsInside "a.B$C$D" := by decide
  have plain : simpleNameOf "a.E" = "E" ∧ CutsInside "a.E" := by decide
  have filled : simpleNameOf "a.B$C$D" ≠ "" := by decide
  have filled' : simpleNameOf "a.E" ≠ "" := by decide
  have law := fun context look symbols symbols' => @Checker.sources_keep_packages context look
    (⟨archive, "a.B$C$D"⟩, symbols) (⟨archive, "a.E"⟩, symbols') filled filled'
  have sample := law ⟨.empty, 0, [], []⟩ (fun _ => .ok .notFound) [] []
  refine ⟨sample.1.2 nested.2, by decide, fun context look symbols symbols' => ?_⟩
  refine (law context look symbols symbols').2.2.2 nested.2 plain.2 ?_
  simp only [nested.1, plain.1]
  rintro ⟨common, nonempty, ofFirst, ofSecond⟩
  obtain ⟨first, rest, rfl⟩ := List.exists_cons_of_ne_nil nonempty
  exact absurd ((List.cons_prefix_cons.1 ofFirst).1.symm.trans (List.cons_prefix_cons.1 ofSecond).1)
    (by decide)

/-- Dollar signs at the start of a simple name, and in a package. -/
theorem sources_lose_packages :
    topLevelName "p.$A" = "p." ∧ ¬ StandsFor (topLevelName "p.$A") "p.$A" ∧
      packageOf "a$x.B" = "a$x" ∧ packageOf (topLevelName "a$x.B") = "" ∧
      simpleNameOf "a$x.B" = "B" ∧ simpleNameOf "a$y.C" = "C" ∧
      sources (filesOf "a$x.B" "a$y.C") = .ok ["a"] :=
  ⟨by decide, by decide, by decide, by decide, by decide, by decide,
    toOption_eq_some_iff.1 (by decide +kernel)⟩

end OutermostSample

end Linkage
