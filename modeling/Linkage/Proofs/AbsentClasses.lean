import Linkage.ClassFile.Draft
import Linkage.Proofs.Origins
import Linkage.Proofs.Sources
import Linkage.Proofs.UsedConstants

/-!
Which classes are reported as not found.

A class is reported only if it is absent: no entry of the class path defines it, and it does not
come with the platform. The other way round, every reference to an absent class is reported, unless
a handler guards against it. For this, class files have to be stored under the names that they
declare: otherwise a problem of another class could take the place of the report.
-/

set_option autoImplicit false

namespace Linkage

/-- Whether a class names another one: as its superclass, as an interface, by a class constant that
is used, or as the owner of a member. -/
def ClassInfo.RefersTo (info : ClassInfo) (name : String) : Prop :=
  info.superName = some name ∨ name ∈ info.interfaces ∨ info.usesClass name = true ∨
    ∃ reference ∈ info.memberReferences, reference.symbol.className = name ∧
      Text.startsWith name "[" = false

/-- The symbols whose check asks for a class before anything else. -/
inductive Symbol.Demands (info : ClassInfo) (name : String) : Symbol → Prop where
  | «class» (used : info.usesClass name = true) : Demands info name (.class name)
  | superClass : Demands info name (.superClass name)
  | superInterface : Demands info name (.superInterface name)
  | method {method : MethodSymbol} (owner : method.owner = name)
      (notArray : Text.startsWith name "[" = false)
      (notPolymorphic : CheckContext.isPolymorphic method = false) :
      Demands info name (.method method)
  | field {field : FieldSymbol} (owner : field.owner = name) : Demands info name (.field field)

theorem Symbol.Demands.className {info : ClassInfo} {name : String} {symbol : Symbol}
    (demands : symbol.Demands info name) : symbol.className = name := by
  cases demands with
  | «class» used => rfl
  | superClass => rfl
  | superInterface => rfl
  | method owner _ _ => exact owner
  | field owner => exact owner

namespace ClassInfo

variable {info : ClassInfo} {name : String}

theorem mem_symbols_iff {symbol : Symbol} : symbol ∈ info.symbols ↔
    (∃ superName, info.superName = some superName ∧ .superClass superName = symbol) ∨
      (∃ interface ∈ info.interfaces, .superInterface interface = symbol) ∨
      (∃ constant ∈ info.classConstants, info.isForeign constant.className = true ∧
        .class constant.className = symbol) ∨
      ∃ reference ∈ info.memberReferences, reference.symbol = symbol := by
  simp only [symbols, Ordered.mem_ofList_iff, List.mem_append, List.mem_map, List.mem_filter,
    Option.mem_toList]
  constructor
  · rintro (((superclass | interface) | ⟨_, ⟨⟨constant, member, rfl⟩, foreign⟩, same⟩) | reference)
    · exact .inl superclass
    · exact .inr (.inl interface)
    · exact .inr (.inr (.inl ⟨constant, member, foreign, same⟩))
    · exact .inr (.inr (.inr reference))
  · rintro (superclass | interface | ⟨constant, member, foreign, same⟩ | reference)
    · exact .inl (.inl (.inl superclass))
    · exact .inl (.inl (.inr interface))
    · exact .inl (.inr ⟨_, ⟨⟨constant, member, rfl⟩, foreign⟩, same⟩)
    · exact .inr reference

private theorem exists_demand_of_super (named : info.superName = some name) :
    ∃ symbol ∈ info.symbols, symbol.Demands info name :=
  ⟨.superClass name, mem_symbols_iff.2 (.inl ⟨name, named, rfl⟩), .superClass⟩

private theorem exists_demand_of_interface (named : name ∈ info.interfaces) :
    ∃ symbol ∈ info.symbols, symbol.Demands info name :=
  ⟨.superInterface name, mem_symbols_iff.2 (.inr (.inl ⟨name, named, rfl⟩)), .superInterface⟩

/-- A used constant gives a symbol of its own unless a supertype gives one. -/
theorem exists_demand_of_used (used : info.usesClass name = true) (other : name ≠ info.name) :
    ∃ symbol ∈ info.symbols, symbol.Demands info name := by
  by_cases isSuper : info.superName = some name
  · exact exists_demand_of_super isSuper
  by_cases isInterface : name ∈ info.interfaces
  · exact exists_demand_of_interface isInterface
  have foreign : info.isForeign name = true := by simp [isForeign, other, isSuper, isInterface]
  obtain ⟨constant, member, both⟩ := List.any_eq_true.1 used
  have named : constant.className = name := by simpa using (Bool.and_eq_true_iff.1 both).1
  have listed : .class name ∈ info.symbols :=
    mem_symbols_iff.2 (.inr (.inr (.inl ⟨constant, member, named ▸ foreign, named ▸ rfl⟩)))
  exact ⟨.class name, listed, .class used⟩

/-- A class that is named from another one is demanded by some symbol. A method that takes any
arguments does not ask for its owner, but the class constant of the owner does. -/
theorem exists_demand {bytes : Bytes} (decoded : ClassInfo.decode bytes = .ok info)
    (refers : info.RefersTo name) (other : name ≠ info.name) :
    ∃ symbol ∈ info.symbols, symbol.Demands info name := by
  rcases refers with isSuper | isInterface | used | ⟨reference, member, rfl, notArray⟩
  · exact exists_demand_of_super isSuper
  · exact exists_demand_of_interface isInterface
  · exact exists_demand_of_used used other
  · have listed := mem_symbols_iff.2 (.inr (.inr (.inr ⟨reference, member, rfl⟩)))
    cases reference with
    | field owner field descriptor => exact ⟨_, listed, .field rfl⟩
    | method owner method descriptor ofInterface =>
      cases polymorphic : CheckContext.isPolymorphic ⟨owner, method, descriptor, ofInterface⟩ with
      | false => exact ⟨_, listed, .method rfl notArray polymorphic⟩
      | true =>
        have used := usesClass_of_memberReference decoded member notArray
        exact exists_demand_of_used used other

end ClassInfo

namespace CheckContext

variable {context : CheckContext} {look : Look} {source : SourceClass} {symbol : Symbol}
  {name : String}

theorem checkClass_of_absent (absent : look symbol.className = .ok .notFound)
    (used : isUnused source symbol = false) :
    (context.checkClass source symbol).answer look =
      (context.classNotFound source symbol.className).answer look := by
  rw [checkClass, Inquiry.answer_bind_of_ok ((Inquiry.answer_find symbol.className).trans absent)]
  simp [used]

private theorem checkSymbol_of_absent (absent : look name = .ok .notFound)
    (demands : symbol.Demands source.info name) :
    (context.checkSymbol source symbol).answer look =
      (context.classNotFound source name).answer look := by
  have asked : (Inquiry.find name).answer look = .ok .notFound :=
    (Inquiry.answer_find name).trans absent
  cases demands with
  | «class» used => exact checkClass_of_absent absent (by simp [isUnused, used])
  | superClass => exact checkClass_of_absent absent rfl
  | superInterface => exact checkClass_of_absent absent rfl
  | method owner notArray notPolymorphic =>
    subst owner
    simp only [checkSymbol, checkMethod, notArray, notPolymorphic, Bool.or_self, Bool.false_eq_true,
      if_false]
    rw [Inquiry.answer_bind_of_ok asked]
  | field owner =>
    subst owner
    simp only [checkSymbol, checkField]
    rw [Inquiry.answer_bind_of_ok asked]

private theorem classNotFound_reports {result : Option Problem}
    (answered : (context.classNotFound source name).answer look = .ok result)
    (own : source.info.catchesAny context.guardTypes = false)
    (outermost : ∀ top,
      (context.loadSource source.location.topLevel).answer look = .ok (some top) →
        top.catchesAny context.guardTypes = false) :
    result = some (source.problem .classNotFound (.class name) none) := by
  obtain ⟨guarded, asked, answered⟩ := Inquiry.answer_bind_ok answered
  cases guarded with
  | false => exact (Except.ok.inj answered).symm
  | true =>
    rcases isGuarded_true asked with caught | ⟨top, loaded, caught⟩
    · rw [own] at caught
      cases caught
    · rw [outermost top loaded] at caught
      cases caught

end CheckContext

/-- The classes of an entry declare the names under which they are read. -/
def ClasspathEntry.DeclaresNames (entry : ClasspathEntry) (fs : FileSystem) : Prop :=
  ∀ name bytes info, entry.readClass fs name = .ok (some bytes) →
    ClassInfo.decode bytes = .ok info → info.name = name

/-- Each class file of an entry is stored under the name that it declares, and is the only one with
that name. -/
structure ClasspathEntry.StoresByName (entry : ClasspathEntry) (fs : FileSystem) : Prop where
  declared : entry.DeclaresNames fs
  once : ∀ name bytes other, entry.Holds fs name bytes →
    entry.readClass fs name = .ok (some other) → other = bytes

/-- Whether none of some entries defines a class, and it does not come with the platform either. -/
def IsAbsent (fs : FileSystem) (entries : List ClasspathEntry) (systemPackages : List String)
    (name : String) : Prop :=
  isSystemClass systemPackages name = false ∧ ∀ entry ∈ entries, entry.defines fs name = .ok false

private theorem IsAbsent.not_mem {fs : FileSystem} {entries : List ClasspathEntry}
    {systemPackages names : List String} {name : String} {entry : ClasspathEntry}
    (absent : IsAbsent fs entries systemPackages name) (member : entry ∈ entries)
    (listed : entry.classNames fs = .ok names) : name ∉ names := by
  obtain ⟨_, listed', undefined⟩ := map_ok (absent.2 entry member)
  cases Except.ok.inj (listed.symm.trans listed')
  simpa using undefined

namespace Loader

variable {loader : Loader} {fs : FileSystem} {name : String}

theorem isAbsent_iff : IsAbsent fs loader.classpath loader.systemPackages name ↔
    loader.load fs name = .ok .notFound := by
  rw [load_notFound_iff]
  refine and_congr_right fun _ => forall₂_congr fun entry _ => ?_
  constructor
  · intro undefined
    obtain ⟨names, listed, absent⟩ := map_ok undefined
    exact ⟨names, listed, by simpa using absent⟩
  · rintro ⟨names, listed, absent⟩
    simp [ClasspathEntry.defines, listed, absent, Except.map]

theorem name_of_find? {info : ClassInfo} (described : Platform.find? name = some info) :
    info.name = name := by
  obtain ⟨description, listed, same⟩ := Option.map_eq_some_iff.1 described
  rw [← same]
  show description.name = name
  simpa using List.find?_some listed

/-- A class goes by the name under which it is found. -/
theorem name_of_load {loaded : LoadedClass}
    (classpath : ∀ entry ∈ loader.classpath, entry.DeclaresNames fs)
    (bootstrap : ∀ entry ∈ loader.bootstrap, entry.DeclaresNames fs)
    (found : loader.load fs name = .ok (.found loaded)) : loaded.info.name = name := by
  rcases load_found found with ⟨_, read⟩ | ⟨_, read⟩ | ⟨_, described, _⟩
  · obtain ⟨entry, member, bytes, read, decoded, _⟩ := read
    exact classpath entry member name bytes loaded.info read decoded
  · obtain ⟨entry, member, bytes, read, decoded, _⟩ := read
    exact bootstrap entry member name bytes loaded.info read decoded
  · exact name_of_find? described

end Loader

namespace Checker

theorem context_fs (checker : Checker) (fs : FileSystem) : (checker.context fs).fs = fs := rfl

theorem create_ok {fs : FileSystem} {resolved : ResolvedClasspath} {config : CheckerConfig}
    {rules : List ExclusionRule} {checker : Checker}
    (created : Checker.create fs resolved config rules = .ok checker) :
    SymbolReferences.extract fs resolved.entries = .ok checker.references ∧
      checker.loader =
        ⟨resolved.entries, config.bootstrap.map ClasspathEntry.ofPath, config.systemPackages⟩ ∧
      checker.rules = rules ∧ checker.guardTypes = config.guardTypes := by
  unfold create at created
  split at created
  · cases created
  · obtain ⟨references, extracted, created⟩ := bind_ok created
    obtain ⟨graph, _, created⟩ := bind_ok created
    cases created
    exact ⟨extracted, rfl, rfl, rfl⟩

/-- A class file that an entry holds is checked as it is stored there, with all of its symbols. -/
theorem checked_of_holds {checker : Checker} {fs : FileSystem} {entry : ClasspathEntry}
    {name : String} {bytes : Bytes} {info : ClassInfo}
    (extracted : SymbolReferences.extract fs checker.loader.classpath = .ok checker.references)
    (checked : ∀ row ∈ checker.references.table,
      Checked (checker.context fs) (checker.loader.load fs) row)
    (member : entry ∈ checker.loader.classpath) (stored : entry.StoresByName fs)
    (notPlatform : entry.same platformEntry = false) (holds : entry.Holds fs name bytes)
    (decoded : ClassInfo.decode bytes = .ok info) :
    info.name = name ∧ ∃ location symbols, (location, symbols) ∈ checker.references.table ∧
      location.className = name ∧ entry.same location.entry = true ∧
      location.entry ∈ checker.loader.classpath ∧ info.symbols ⊆ symbols ∧
      ((checker.context fs).loadSource location).answer (checker.loader.load fs) =
        .ok (some info) := by
  obtain ⟨files, all, isFile⟩ := holds
  obtain ⟨files', all', lists⟩ := SymbolReferences.extract_lists extracted member
  cases Except.ok.inj (all.symm.trans all')
  obtain ⟨info', decoded', location, symbols, row, same, contained⟩ := lists (name, bytes) isFile
  cases Except.ok.inj (decoded.symm.trans decoded')
  obtain ⟨className, sameEntry⟩ := ClassLocation.same_iff.1 same
  obtain ⟨inClasspath, stored', held⟩ := SymbolReferences.extract_listsHeld extracted _ row
  obtain ⟨found, loaded, _⟩ := checked _ row
  cases found with
  | none =>
    -- What was listed from an entry is found there again.
    obtain ⟨names, listed, inNames⟩ := held.mem_classNames
    have unread := (CheckContext.loadSource_ok (checker.context_fs fs) loaded).2 rfl
    obtain ⟨names', listed', absent⟩ := ClasspathEntry.readClass_none_iff.1 unread
    cases Except.ok.inj (listed.symm.trans listed')
    exact absurd inNames absent
  | some info' =>
    obtain ⟨bytes', read, decodedAgain⟩ :=
      CheckContext.loadSource_reads (checker.context_fs fs) loaded sameEntry all notPlatform
    rw [← className] at read
    cases stored.once name bytes bytes' ⟨files, all, isFile⟩ read
    cases Except.ok.inj (decoded.symm.trans decodedAgain)
    exact ⟨stored.declared name bytes info read decoded, location, symbols, row, className.symm,
      sameEntry, inClasspath, contained, loaded⟩

private theorem origin_of_mem {checker : Checker} {fs : FileSystem} {problems : List Problem}
    {problem : Problem} (noRules : checker.rules = []) (ran : checker.problems fs = .ok problems)
    (member : problem ∈ problems) : problem.Origin (checker.loader.load fs) := by
  rcases (problems_ok noRules ran).1.sound problem member with none | found
  · cases none
  · exact CheckContext.findsAmong_origin Loader.mem_classNames_of_load rfl found

/-- Where classes go by the names under which they are found, only a class that is not found takes
the place of its report. -/
theorem kind_of_absent {checker : Checker} {fs : FileSystem} {problem : Problem} {missing : String}
    (named : ∀ {name loaded}, checker.loader.load fs name = .ok (.found loaded) →
      loaded.info.name = name)
    (origin : problem.Origin (checker.loader.load fs)) (symbol : problem.symbol = .class missing)
    (absent : checker.loader.load fs missing = .ok .notFound) : problem.kind = .classNotFound := by
  cases origin with
  | absent _ kind _ => exact kind
  | present found _ same =>
    rw [named found, or_self, symbol] at same
    cases same
    rw [absent] at found
    cases found
  | member _ noClass => exact absurd symbol (noClass missing)

/-- An absent class is found missing where a class file names it and no handler guards against
it. -/
theorem findsAmong_of_absent {checker : Checker} {fs : FileSystem} {entry : ClasspathEntry}
    {name missing : String} {bytes : Bytes} {info : ClassInfo}
    (extracted : SymbolReferences.extract fs checker.loader.classpath = .ok checker.references)
    (checked : ∀ row ∈ checker.references.table,
      Checked (checker.context fs) (checker.loader.load fs) row)
    (member : entry ∈ checker.loader.classpath) (stored : entry.StoresByName fs)
    (notPlatform : entry.same platformEntry = false) (holds : entry.Holds fs name bytes)
    (decoded : ClassInfo.decode bytes = .ok info) (refers : info.RefersTo missing)
    (absent : IsAbsent fs checker.loader.classpath checker.loader.systemPackages missing)
    (own : info.catchesAny checker.guardTypes = false)
    (outermost : ∀ topBytes top, entry.readClass fs (topLevelName name) = .ok (some topBytes) →
      ClassInfo.decode topBytes = .ok top → top.catchesAny checker.guardTypes = false) :
    ∃ location, location.className = name ∧ entry.same location.entry = true ∧
      FindsAmong (checker.context fs) (checker.loader.load fs) checker.references.table
        (SourceClass.problem ⟨location, info⟩ .classNotFound (.class missing) none) := by
  obtain ⟨isNamed, location, symbols, row, className, sameEntry, inClasspath, contained, loaded⟩ :=
    checked_of_holds extracted checked member stored notPlatform holds decoded
  have other : missing ≠ info.name := by
    rintro rfl
    obtain ⟨names, listed, inNames⟩ := holds.mem_classNames
    exact absent.not_mem member listed (isNamed ▸ inNames)
  obtain ⟨symbol, listed, demands⟩ := ClassInfo.exists_demand decoded refers other
  obtain ⟨found, loaded', answers⟩ := checked _ row
  obtain ⟨names, ownListed, answers⟩ := answers info (Except.ok.inj (loaded'.symm.trans loaded))
  have foreign : symbol.className ∉ names := by
    rw [demands.className]
    exact absent.not_mem inClasspath ownListed
  obtain ⟨result, answered⟩ := answers symbol (contained listed) foreign
  have reported : result =
      some (SourceClass.problem ⟨location, info⟩ .classNotFound (.class missing) none) := by
    rw [CheckContext.checkSymbol_of_absent (Loader.isAbsent_iff.1 absent) demands] at answered
    refine CheckContext.classNotFound_reports answered own ?_
    intro top loadedTop
    obtain ⟨files, all, _⟩ := holds
    obtain ⟨topBytes, read, decodedTop⟩ := CheckContext.loadSource_reads (checker.context_fs fs)
      loadedTop sameEntry all notPlatform
    refine outermost topBytes top ?_ decodedTop
    rw [← className]
    exact read
  rw [reported] at answered
  exact ⟨location, className, sameEntry, _, row, info, loaded,
    .inl ⟨names, ownListed, symbol, contained listed, foreign, answered⟩⟩

/-- A run reports a class as not found only if it is absent. It reports every absent class that a
class names, for the outermost class around that one, unless handlers guard against it. -/
theorem classNotFound_exact {fs : FileSystem} {resolved : ResolvedClasspath}
    {config : CheckerConfig} {checker : Checker} {problems : List Problem}
    (created : Checker.create fs resolved config [] = .ok checker)
    (ran : checker.problems fs = .ok problems) :
    (∀ problem ∈ problems, problem.kind = .classNotFound → ∃ name, problem.symbol = .class name ∧
      IsAbsent fs resolved.entries config.systemPackages name) ∧
    ((∀ entry ∈ resolved.entries, entry.StoresByName fs) →
      (∀ path ∈ config.bootstrap, (ClasspathEntry.ofPath path).DeclaresNames fs) →
      ∀ entry ∈ resolved.entries, entry.same platformEntry = false →
      ∀ name bytes info missing, entry.Holds fs name bytes → ClassInfo.decode bytes = .ok info →
      info.RefersTo missing → IsAbsent fs resolved.entries config.systemPackages missing →
      info.catchesAny config.guardTypes = false →
      (∀ topBytes top, entry.readClass fs (topLevelName name) = .ok (some topBytes) →
        ClassInfo.decode topBytes = .ok top → top.catchesAny config.guardTypes = false) →
      ∃ problem ∈ problems, problem.kind = .classNotFound ∧ problem.symbol = .class missing ∧
        problem.source.same ⟨entry, topLevelName name⟩ = true) := by
  obtain ⟨extracted, loader, noRules, guardTypes⟩ := create_ok created
  obtain ⟨classpath, bootstrap, systemPackages⟩ := Loader.mk.inj loader
  rw [← classpath] at extracted ⊢
  rw [← systemPackages]
  constructor
  · intro problem member kind
    cases origin_of_mem noRules ran member with
    | absent unknown _ symbol => exact ⟨_, symbol, Loader.isAbsent_iff.2 unknown⟩
    | present _ other _ => exact absurd kind other
    | member other _ => exact absurd kind other
  · intro stored declared entry member notPlatform name bytes info missing holds decoded refers
      absent own outermost
    rw [← guardTypes] at own outermost
    obtain ⟨grows, checked⟩ := problems_ok noRules ran
    obtain ⟨location, className, sameEntry, finds⟩ := findsAmong_of_absent extracted checked member
      (stored entry member) notPlatform holds decoded refers absent own outermost
    obtain ⟨problem, inProblems, same⟩ := grows.complete _ finds
    obtain ⟨symbol, source⟩ := Problem.compare_eq_iff.1 same
    have bootstrapNames : ∀ entry ∈ checker.loader.bootstrap, entry.DeclaresNames fs := by
      rw [bootstrap]
      intro entry member
      obtain ⟨path, isBootstrap, rfl⟩ := List.mem_map.1 member
      exact declared path isBootstrap
    have named : ∀ {name loaded}, checker.loader.load fs name = .ok (.found loaded) →
        loaded.info.name = name :=
      Loader.name_of_load (fun entry member => (stored entry member).declared) bootstrapNames
    refine ⟨problem, inProblems, ?_, symbol.symm, ?_⟩
    · exact kind_of_absent named (origin_of_mem noRules ran inProblems) symbol.symm
        (Loader.isAbsent_iff.1 absent)
    · obtain ⟨sourceName, sourceEntry⟩ := ClassLocation.same_iff.1 source
      refine ClassLocation.same_iff.2 ⟨?_, ?_⟩
      · rw [← sourceName, ← className]
        rfl
      · exact ClasspathEntry.same_symm (ClasspathEntry.same_trans sameEntry sourceEntry)

end Checker

/-- Tests whether the class files of an entry are stored by name. -/
def ClasspathEntry.storesByName (entry : ClasspathEntry) (fs : FileSystem) : Bool :=
  ((entry.classNames fs).toOption.getD []).all fun name =>
    (entry.readClass fs name).toOption.join.all fun bytes =>
      (ClassInfo.decode bytes).toOption.all (·.name == name) &&
        ((entry.readAll fs).toOption.getD []).all fun file => file.1 != name || file.2 == bytes

theorem ClasspathEntry.storesByName_of_test {entry : ClasspathEntry} {fs : FileSystem}
    (tested : entry.storesByName fs = true) : entry.StoresByName fs := by
  have passes : ∀ {name bytes}, entry.readClass fs name = .ok (some bytes) →
      (∀ info, ClassInfo.decode bytes = .ok info → info.name = name) ∧
        ∀ files, entry.readAll fs = .ok files → ∀ other, (name, other) ∈ files → other = bytes := by
    intro name bytes read
    obtain ⟨names, listed, member⟩ := readClass_some read
    have test := List.all_eq_true.1 tested name (by simpa [listed, Except.toOption] using member)
    simp only [read, Except.toOption, Option.join_some, Option.all_some, Bool.and_eq_true] at test
    refine ⟨fun info decoded => ?_, fun files all other member => ?_⟩
    · simpa [decoded] using test.1
    · have same := test.2
      rw [all] at same
      simpa using List.all_eq_true.1 same (name, other) member
  refine ⟨fun name bytes info read => (passes read).1 info, ?_⟩
  rintro name bytes other ⟨files, all, member⟩ read
  exact ((passes read).2 files all bytes member).symm

/-- Whether an entry holds a class file that names an absent class and has no handler for it. -/
def NamesAbsent (fs : FileSystem) (entries : List ClasspathEntry) (config : CheckerConfig)
    (entry : ClasspathEntry) (name missing : String) : Prop :=
  ∃ bytes info, entry.Holds fs name bytes ∧ ClassInfo.decode bytes = .ok info ∧
    info.RefersTo missing ∧ IsAbsent fs entries config.systemPackages missing ∧
    info.catchesAny config.guardTypes = false

theorem namesAbsent_of_test {fs : FileSystem} {entries : List ClasspathEntry}
    {config : CheckerConfig} {entry : ClasspathEntry} {name missing : String}
    (holds : ((entry.readAll fs).toOption.getD []).any (fun file => file.1 == name &&
      (ClassInfo.decode file.2).toOption.any fun info =>
        info.usesClass missing && !info.catchesAny config.guardTypes) = true)
    (absent : (!isSystemClass config.systemPackages missing && entries.all fun other =>
      (other.defines fs missing).toOption == some false) = true) :
    NamesAbsent fs entries config entry name missing := by
  obtain ⟨⟨_, bytes⟩, member, test⟩ := List.any_eq_true.1 holds
  obtain ⟨same, decodes⟩ := Bool.and_eq_true_iff.1 test
  cases beq_iff_eq.1 same
  cases decoded : ClassInfo.decode bytes with
  | error error => simp [decoded, Except.toOption] at decodes
  | ok info =>
    obtain ⟨used, free⟩ :
        info.usesClass missing = true ∧ info.catchesAny config.guardTypes = false := by
      simpa [decoded, Except.toOption] using decodes
    obtain ⟨notSystem, undefined⟩ := Bool.and_eq_true_iff.1 absent
    refine ⟨bytes, info, ?_, decoded, .inr (.inr (.inl used)), ⟨by simpa using notSystem, ?_⟩, free⟩
    · cases all : entry.readAll fs with
      | error error => simp [all, Except.toOption] at member
      | ok files => exact ⟨files, all, by simpa [all, Except.toOption] using member⟩
    · intro other isEntry
      exact toOption_eq_some_iff.1 (beq_iff_eq.1 (List.all_eq_true.1 undefined other isEntry))

namespace AbsenceSample

def application : ClasspathEntry := .ofPath ⟨"s.jar"⟩

/-- Only the nested class names an absent class. -/
def files : FileSystem := .ofNodes [(⟨false, ["s.jar"]⟩, .archive [
  ⟨"a/S.class", (ClassDraft.ofClass "a.S").build⟩,
  ⟨"a/S$T.class", ((ClassDraft.ofClass "a.S$T").declare (.referencesClass "x.G")).build⟩])]

def classpath : ResolvedClasspath := .ofPaths [application.path]

def config : CheckerConfig := { CheckerConfig.default none with systemPackages := ["java."] }

/-- The class is reported for the class around the one that names it. -/
theorem classNotFound_reported_for_outermost_class :
    ∃ checker problems, Checker.create files classpath config [] = .ok checker ∧
      checker.problems files = .ok problems ∧
      ∃ problem ∈ problems, problem.kind = .classNotFound ∧ problem.symbol = .class "x.G" ∧
        problem.source.same ⟨application, topLevelName "a.S$T"⟩ = true := by
  have ran : (Checker.create files classpath config [] >>= fun checker => checker.problems files) =
      .ok [⟨.classNotFound, .class "x.G", ⟨application, "a.S"⟩, none, none⟩] :=
    toOption_eq_some_iff.1 (by decide +kernel)
  obtain ⟨checker, created, ran⟩ := bind_ok ran
  obtain ⟨bytes, info, holds, decoded, refers, absent, own⟩ :
      NamesAbsent files classpath.entries config application "a.S$T" "x.G" :=
    namesAbsent_of_test (by decide +kernel) (by decide +kernel)
  have outermost : (application.readClass files "a.S").toOption.join.all (fun bytes =>
      (ClassInfo.decode bytes).toOption.all
        fun top => !top.catchesAny config.guardTypes) = true := by
    decide +kernel
  refine ⟨checker, _, created, ran, (Checker.classNotFound_exact created ran).2 ?_ nofun application
    (by decide +kernel) (by decide +kernel) "a.S$T" bytes info "x.G" holds decoded refers absent
    own ?_⟩
  · intro entry member
    cases List.mem_singleton.1 member
    exact ClasspathEntry.storesByName_of_test (by decide +kernel)
  · intro topBytes top read decoded
    rw [show topLevelName "a.S$T" = "a.S" by decide +kernel] at read
    simpa [read, decoded, Except.toOption] using outermost

/-- The class file of `java.B` declares the name of an absent class and may not be used. -/
def misnamedFiles : FileSystem := .ofNodes [
  (⟨false, ["s.jar"]⟩, .archive [⟨"a/S.class", ((ClassDraft.ofClass "a.S").declareAll
    [.referencesClass "java.B", .referencesClass "x.G"]).build⟩]),
  (⟨false, ["boot.jar"]⟩, .archive [⟨"java/B.class",
    ((ClassDraft.ofClass "x.G").declare (.access ⟨0⟩)).build⟩])]

/-- An archive at the path where the described classes of the platform are said to be. -/
def platformFiles : FileSystem := .ofNodes [
  (⟨false, ["jrt:", "java.base"]⟩, .archive [⟨"java/lang/Object.class",
    ((ClassDraft.ofClass "java.lang.Object").declare (.referencesClass "x.G")).build⟩]),
  (⟨false, ["jrt:"]⟩, .directory)]

/-- An absent class is not reported if another class takes its place, or if the class that names it
is taken for a class of the platform. -/
theorem classNotFound_missed_for_misnamed_and_described_classes :
    (∃ checker problems,
      Checker.create misnamedFiles classpath { config with bootstrap := [⟨"boot.jar"⟩] } [] =
          .ok checker ∧
        checker.problems misnamedFiles = .ok problems ∧
        (∀ entry ∈ classpath.entries, entry.StoresByName misnamedFiles) ∧
        NamesAbsent misnamedFiles classpath.entries config application "a.S" "x.G" ∧
        ∀ problem ∈ problems, problem.kind ≠ .classNotFound) ∧
    ∃ checker problems,
      Checker.create platformFiles (.ofPaths [platformEntry.path]) config [] = .ok checker ∧
        checker.problems platformFiles = .ok problems ∧
        platformEntry.StoresByName platformFiles ∧
        NamesAbsent platformFiles [platformEntry] config platformEntry "java.lang.Object" "x.G" ∧
        ∀ problem ∈ problems, problem.kind ≠ .classNotFound := by
  constructor
  · have ran : (Checker.create misnamedFiles classpath
        { config with bootstrap := [⟨"boot.jar"⟩] } [] >>=
          fun checker => checker.problems misnamedFiles) =
        .ok [⟨.inaccessibleClass, .class "x.G", ⟨application, "a.S"⟩,
          some ⟨.ofPath ⟨"boot.jar"⟩, "java.B"⟩, none⟩] :=
      toOption_eq_some_iff.1 (by decide +kernel)
    obtain ⟨checker, created, ran⟩ := bind_ok ran
    refine ⟨checker, _, created, ran, ?_, ?_, by simp⟩
    · intro entry member
      cases List.mem_singleton.1 member
      exact ClasspathEntry.storesByName_of_test (by decide +kernel)
    · exact namesAbsent_of_test (by decide +kernel) (by decide +kernel)
  · have ran : (Checker.create platformFiles (.ofPaths [platformEntry.path]) config [] >>=
        fun checker => checker.problems platformFiles) = .ok [] :=
      toOption_eq_some_iff.1 (by decide +kernel)
    obtain ⟨checker, created, ran⟩ := bind_ok ran
    refine ⟨checker, [], created, ran, ?_, ?_, by simp⟩
    · exact ClasspathEntry.storesByName_of_test (by decide +kernel)
    · exact namesAbsent_of_test (by decide +kernel) (by decide +kernel)

end AbsenceSample

end Linkage
