import Linkage.Proofs.AbsentClasses
import Linkage.Proofs.RunComposition

/-!
Which classes problems are about.

Nothing is reported of a class of the platform of which nothing is known, nor of a class that the
entry of the source defines itself, unless the source has to implement a method of it. The class
files of the class path have to declare the names under which they are stored: a class that may not
be used is reported by the name that it declares. A misnamed class of the platform can therefore be
reported by any name.
-/

set_option autoImplicit false

namespace Linkage

/-- Whether a class comes with the platform and nothing is known of it: no entry of the platform
defines it, and it is not described. -/
structure IsOpaque (fs : FileSystem) (bootstrap : List ClasspathEntry)
    (systemPackages : List String) (name : String) : Prop where
  system : isSystemClass systemPackages name = true
  undefined : ∀ entry ∈ bootstrap, entry.defines fs name ≠ .ok true
  undescribed : Platform.find? name = none

/-- Whether a class file of an entry declares another name than the one under which it is read. -/
def ClasspathEntry.Misnames (entry : ClasspathEntry) (fs : FileSystem) (stored declared : String) :
    Prop :=
  ∃ bytes info, entry.readClass fs stored = .ok (some bytes) ∧
    ClassInfo.decode bytes = .ok info ∧ info.name = declared ∧ declared ≠ stored

/-- Whether a problem names a class by what a misnamed class file of some entries declares. -/
def Problem.IsMisnamed (problem : Problem) (fs : FileSystem) (entries : List ClasspathEntry) :
    Prop :=
  problem.kind = .inaccessibleClass ∧ ∃ entry ∈ entries, ∃ stored declared,
    entry.Misnames fs stored declared ∧ problem.symbol = .class declared ∧
      problem.target = some ⟨entry, stored⟩

private theorem Symbol.className_normalized (symbol : Symbol) :
    symbol.normalized.className = symbol.className := by
  cases symbol <;> rfl

private theorem ClasspathEntry.defines_of_not_mem {entry : ClasspathEntry} {fs : FileSystem}
    {names : List String} {name : String} (listed : entry.classNames fs = .ok names)
    (absent : name ∉ names) : entry.defines fs name = .ok false := by
  simp [defines, listed, absent, Except.map]

namespace Loader

variable {loader : Loader} {fs : FileSystem} {name : String} {loaded : LoadedClass}

private theorem not_isOpaque_of_load {lookup : ClassLookup} (loads : loader.load fs name = .ok lookup)
    (known : lookup ≠ .system) : ¬ IsOpaque fs loader.bootstrap loader.systemPackages name := by
  intro isOpaque
  have system : loader.isSystem name = true := isOpaque.system
  cases lookup with
  | system => exact known rfl
  | notFound =>
    rw [(load_notFound_iff.1 loads).1] at system
    cases system
  | found loaded =>
    rcases load_found loads with ⟨foreign, _⟩ | ⟨_, read⟩ | ⟨_, described, _⟩
    · rw [foreign] at system
      cases system
    · obtain ⟨entry, member, bytes, read, _⟩ := read
      obtain ⟨names, listed, inNames⟩ := ClasspathEntry.readClass_some read
      apply isOpaque.undefined entry member
      simp [ClasspathEntry.defines, listed, inNames, Except.map]
    · rw [isOpaque.undescribed] at described
      cases described

/-- A class goes by the name under which it is found, unless a class file of the platform is
misnamed. -/
theorem name_of_load_or (stored : ∀ entry ∈ loader.classpath, entry.DeclaresNames fs)
    (found : loader.load fs name = .ok (.found loaded)) :
    loaded.info.name = name ∨ ∃ entry ∈ loader.bootstrap,
      entry.Misnames fs name loaded.info.name ∧ loaded.location = ⟨entry, name⟩ := by
  rcases load_found found with ⟨_, read⟩ | ⟨_, read⟩ | ⟨_, described, _⟩
  · obtain ⟨entry, member, bytes, read, decoded, _⟩ := read
    exact .inl (stored entry member name bytes loaded.info read decoded)
  · obtain ⟨entry, member, bytes, read, decoded, location⟩ := read
    by_cases same : loaded.info.name = name
    · exact .inl same
    · exact .inr ⟨entry, member, ⟨bytes, loaded.info, read, decoded, rfl, same⟩, location⟩
  · exact .inl (name_of_find? described)

end Loader

namespace Checker

variable {checker : Checker} {fs : FileSystem} {problem : Problem}

/-- What the check of a symbol reports for an entry that does not define the class of the symbol. -/
theorem scope_of_concerns {symbol : Symbol} {entry : ClasspathEntry} {names : List String}
    (stored : ∀ other ∈ checker.loader.classpath, other.DeclaresNames fs)
    (member : entry ∈ checker.loader.classpath) (listed : entry.classNames fs = .ok names)
    (foreign : symbol.className ∉ names)
    (concerns : problem.Concerns (checker.loader.load fs) symbol) :
    problem.IsMisnamed fs checker.loader.bootstrap ∨
      ¬ IsOpaque fs checker.loader.bootstrap checker.loader.systemPackages
          problem.symbol.className ∧
        entry.defines fs problem.symbol.className = .ok false := by
  -- A problem about the class that the symbol names is in scope if the class is found at all.
  have named : ∀ {loaded}, checker.loader.load fs symbol.className = .ok (.found loaded) →
      problem.symbol.className = symbol.className →
      ¬ IsOpaque fs checker.loader.bootstrap checker.loader.systemPackages
          problem.symbol.className ∧
        entry.defines fs problem.symbol.className = .ok false := by
    intro loaded found same
    rw [same]
    exact ⟨Loader.not_isOpaque_of_load found (by simp),
      ClasspathEntry.defines_of_not_mem listed foreign⟩
  cases concerns with
  | absent unknown _ about =>
    rw [about]
    exact .inr ⟨Loader.not_isOpaque_of_load unknown (by simp),
      (Loader.isAbsent_iff.2 unknown).2 entry member⟩
  | itself found _ about =>
    exact .inr (named found (by rw [about, Symbol.className_normalized]))
  | declared found kind about location =>
    rcases Loader.name_of_load_or stored found with same | ⟨other, isBootstrap, misnames, at_⟩
    · exact .inr (named found (by rw [about]; exact same))
    · exact .inl ⟨kind, other, isBootstrap, _, _, misnames, about, at_ ▸ location⟩

/-- No problem is about a class of the platform of which nothing is known, and only methods that
have to be implemented are reported for a class that the entry of the source defines. The one
exception is a class of the platform whose class file declares another name. -/
theorem problems_in_scope {resolved : ResolvedClasspath} {config : CheckerConfig}
    {rules : List ExclusionRule} {problems : List Problem}
    (created : Checker.create fs resolved config rules = .ok checker)
    (stored : ∀ entry ∈ resolved.entries, entry.DeclaresNames fs)
    (ran : checker.problems fs = .ok problems) :
    ∀ problem ∈ problems,
      problem.IsMisnamed fs (config.bootstrap.map ClasspathEntry.ofPath) ∨
        ¬ IsOpaque fs (config.bootstrap.map ClasspathEntry.ofPath) config.systemPackages
            problem.symbol.className ∧
          (problem.kind ≠ .abstractMethod →
            problem.source.entry.defines fs problem.symbol.className = .ok false) := by
  intro problem member
  obtain ⟨extracted, loader, _, _⟩ := create_ok created
  obtain ⟨classpath, bootstrap, systemPackages⟩ := Loader.mk.inj loader
  rw [← classpath] at extracted stored
  rw [← bootstrap, ← systemPackages]
  obtain ⟨⟨location, symbols⟩, isRow, info, _, finds⟩ := findsAmong_of_mem ran member
  rcases finds with ⟨names, listed, symbol, _, foreign, answered⟩ | ⟨abstract, answered, reported⟩
  · have concerns := CheckContext.checkSymbol_concerns Loader.mem_classNames_of_load rfl answered
    have inClasspath := (SymbolReferences.extract_listsHeld extracted _ isRow).1
    have source : problem.source = location.topLevel :=
      ((checker.context fs).checkSymbol_reportedFor ⟨location, info⟩ symbol).of_answer answered
        problem rfl
    rw [source]
    refine (scope_of_concerns stored inClasspath listed foreign concerns).imp_right ?_
    intro scope
    exact ⟨scope.1, fun _ => scope.2⟩
  · obtain ⟨declaring, method, leaves, same⟩ :=
      CheckContext.checkAbstractMethods_ok answered reported
    subst same
    refine .inr ⟨fun isOpaque => ?_, fun other => absurd rfl other⟩
    have foreign : (!isSystemClass checker.loader.systemPackages declaring.info.name) = true :=
      (Bool.and_eq_true_iff.1 leaves).2
    have system : isSystemClass checker.loader.systemPackages declaring.info.name = true :=
      isOpaque.system
    rw [system] at foreign
    cases foreign

end Checker

namespace ScopeSample

def application : ClasspathEntry := .ofPath ⟨"s.jar"⟩

def platform : ClasspathEntry := .ofPath ⟨"boot.jar"⟩

def classpath : ResolvedClasspath := .ofPaths [⟨"lib.jar"⟩, application.path]

def config : CheckerConfig :=
  { CheckerConfig.default none with systemPackages := ["java."], bootstrap := [platform.path] }

def interface : Bytes := ((ClassDraft.ofInterface "p.I").declare (.abstractMethod "m" "()V")).build

/-- Both archives of the class path define `p.I`, and the class `java.B` is open to its package
only. -/
def files : FileSystem := .ofNodes [
  (⟨false, ["lib.jar"]⟩, .archive [⟨"p/I.class", interface⟩]),
  (⟨false, ["s.jar"]⟩, .archive [⟨"p/I.class", interface⟩, ⟨"a/S.class",
    ((ClassDraft.ofClass "a.S").declareAll [.interface "p.I", .referencesClass "java.B"]).build⟩]),
  (⟨false, ["boot.jar"]⟩, .archive [⟨"java/B.class",
    ((ClassDraft.ofClass "java.B").declare (.access ⟨0⟩)).build⟩])]

private theorem declaresNames : ∀ entry ∈ classpath.entries, entry.DeclaresNames files := by
  intro entry member
  have tested : classpath.entries.all (·.storesByName files) = true := by decide +kernel
  exact (ClasspathEntry.storesByName_of_test (List.all_eq_true.1 tested entry member)).declared

/-- A class of the platform is reported, and a method that the archive of the source defines too. -/
theorem problems_in_scope_of_platform :
    ∃ checker problems, Checker.create files classpath config [] = .ok checker ∧
      checker.problems files = .ok problems ∧
      problems.map (fun problem => (problem.kind, problem.symbol.className)) =
        [(.inaccessibleClass, "java.B"), (.abstractMethod, "p.I")] ∧
      ∀ problem ∈ problems, problem.IsMisnamed files [platform] ∨
        ¬ IsOpaque files [platform] config.systemPackages problem.symbol.className ∧
          (problem.kind ≠ .abstractMethod →
            problem.source.entry.defines files problem.symbol.className = .ok false) := by
  have ran : (Checker.create files classpath config [] >>= fun checker => checker.problems files) =
      .ok [⟨.inaccessibleClass, .class "java.B", ⟨application, "a.S"⟩,
          some ⟨platform, "java.B"⟩, none⟩,
        ⟨.abstractMethod, .method ⟨"p.I", "m", "()V", true⟩, ⟨application, "a.S"⟩,
          some ⟨.ofPath ⟨"lib.jar"⟩, "p.I"⟩, none⟩] :=
    toOption_eq_some_iff.1 (by decide +kernel)
  obtain ⟨checker, created, ran⟩ := bind_ok ran
  exact ⟨checker, _, created, ran, rfl, Checker.problems_in_scope created declaresNames ran⟩

/-- The class file of `java.B` declares the name of a class of which nothing is known, and that of
`java.C` the name of a class of the source's own archive. -/
def misnamedFiles : FileSystem := .ofNodes [
  (⟨false, ["s.jar"]⟩, .archive [⟨"b/T.class", (ClassDraft.ofClass "b.T").build⟩, ⟨"a/S.class",
    ((ClassDraft.ofClass "a.S").declareAll
      [.referencesClass "java.B", .referencesClass "java.C"]).build⟩]),
  (⟨false, ["boot.jar"]⟩, .archive [
    ⟨"java/B.class", ((ClassDraft.ofClass "java.H").declare (.access ⟨0⟩)).build⟩,
    ⟨"java/C.class", ((ClassDraft.ofClass "b.T").declare (.access ⟨0⟩)).build⟩])]

theorem problems_out_of_scope :
    ∃ checker problems,
      Checker.create misnamedFiles (.ofPaths [application.path]) config [] = .ok checker ∧
      application.DeclaresNames misnamedFiles ∧ checker.problems misnamedFiles = .ok problems ∧
      (∃ problem ∈ problems, IsOpaque misnamedFiles [platform] config.systemPackages
        problem.symbol.className) ∧
      ∃ problem ∈ problems, problem.kind ≠ .abstractMethod ∧
        problem.source.entry.defines misnamedFiles problem.symbol.className = .ok true := by
  have ran : (Checker.create misnamedFiles (.ofPaths [application.path]) config [] >>=
      fun checker => checker.problems misnamedFiles) =
      .ok [⟨.inaccessibleClass, .class "b.T", ⟨application, "a.S"⟩,
          some ⟨platform, "java.C"⟩, none⟩,
        ⟨.inaccessibleClass, .class "java.H", ⟨application, "a.S"⟩,
          some ⟨platform, "java.B"⟩, none⟩] :=
    toOption_eq_some_iff.1 (by decide +kernel)
  have declared : application.DeclaresNames misnamedFiles :=
    (ClasspathEntry.storesByName_of_test (by decide +kernel)).declared
  have undefined : platform.defines misnamedFiles "java.H" = .ok false :=
    toOption_eq_some_iff.1 (by decide +kernel)
  have isOpaque : IsOpaque misnamedFiles [platform] config.systemPackages "java.H" := by
    refine ⟨by decide +kernel, fun entry member isDefined => ?_, by decide +kernel⟩
    rw [List.mem_singleton.1 member, undefined] at isDefined
    cases isDefined
  obtain ⟨checker, created, ran⟩ := bind_ok ran
  refine ⟨checker, _, created, declared, ran, ⟨_, .tail _ (.head _), isOpaque⟩, _, .head _, ?_, ?_⟩
  · simp
  · exact toOption_eq_some_iff.1 (by decide +kernel)

end ScopeSample

end Linkage
