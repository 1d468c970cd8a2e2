import Linkage.Proofs.DraftPool
import Mathlib.Data.List.Induction

/-!
What a draft remembers of its declarations.

A draft holds numbers of constants where declarations have names. What the numbers stand for can be
told from the pool at any later time, because the pool only grows. So a draft always shows what its
declarations say, part by part.
-/

set_option autoImplicit false

namespace Linkage

namespace Declaration

def access? : Declaration → Option Access
  | access flags => some flags
  | _ => none

def superClass? : Declaration → Option String
  | superClass name => some name
  | _ => none

def interface? : Declaration → Option String
  | interface name => some name
  | _ => none

def field? : Declaration → Option FieldInfo
  | field flags name descriptor => some ⟨name, descriptor, flags⟩
  | _ => none

/-- The declared method. It has a body unless it is abstract or native. -/
def method? : Declaration → Option MethodInfo
  | method flags name descriptor =>
    some ⟨name, descriptor, flags, !(flags.isAbstract || flags.isNative), []⟩
  | abstractMethod name descriptor =>
    some ⟨name, descriptor, .public ||| .abstract, false, []⟩
  | _ => none

def innerClass? : Declaration → Option InnerClass
  | innerClass inner outer flags =>
    some ⟨inner, outer, some (ClassDraft.simpleName inner), flags⟩
  | _ => none

def catchType? : Declaration → Option String
  | catches exceptionType => some exceptionType
  | _ => none

def member? : Declaration → Option MemberReference
  | invokes owner name descriptor => some (.method owner name descriptor false)
  | invokesInterface owner name descriptor => some (.method owner name descriptor true)
  | readsField owner name descriptor => some (.field owner name descriptor)
  | _ => none

def reference? : Declaration → Option String
  | referencesClass name => some name
  | _ => none

/-- Whether a text takes no more bytes than a class file has room for. -/
def Short (text : String) : Prop := text.utf8ByteSize ≤ 65535

/-- Whether the declaration can be written: its names are class names, its texts are not too long,
and it spoils no constant. Only a plain reference to a class may name an array. -/
def Allowed : Declaration → Prop
  | access _ => True
  | superClass name => IsClassName name ∧ Short name
  | interface name => IsClassName name ∧ Short name
  | field _ name descriptor => Short name ∧ Short descriptor
  | method _ name descriptor => Short name ∧ Short descriptor
  | abstractMethod name descriptor => Short name ∧ Short descriptor
  | invokes owner name descriptor =>
    IsClassName owner ∧ Short owner ∧ Short name ∧ Short descriptor
  | invokesInterface owner name descriptor =>
    IsClassName owner ∧ Short owner ∧ Short name ∧ Short descriptor
  | readsField owner name descriptor =>
    IsClassName owner ∧ Short owner ∧ Short name ∧ Short descriptor
  | referencesClass name =>
    (IsClassName name ∨ Text.startsWith name "[" = true) ∧ Short name
  | innerClass inner outer _ =>
    (IsClassName inner ∧ Short inner) ∧ ∀ name ∈ outer, IsClassName name ∧ Short name
  | catches exceptionType => IsClassName exceptionType ∧ Short exceptionType
  | corruptMember => False

instance (text : String) : Decidable (Short text) := inferInstanceAs (Decidable (_ ≤ _))

instance : (declaration : Declaration) → Decidable declaration.Allowed
  | access _ => inferInstanceAs (Decidable True)
  | superClass _ => inferInstanceAs (Decidable (_ ∧ _))
  | interface _ => inferInstanceAs (Decidable (_ ∧ _))
  | field _ _ _ => inferInstanceAs (Decidable (_ ∧ _))
  | method _ _ _ => inferInstanceAs (Decidable (_ ∧ _))
  | abstractMethod _ _ => inferInstanceAs (Decidable (_ ∧ _))
  | invokes _ _ _ => inferInstanceAs (Decidable (_ ∧ _))
  | invokesInterface _ _ _ => inferInstanceAs (Decidable (_ ∧ _))
  | readsField _ _ _ => inferInstanceAs (Decidable (_ ∧ _))
  | referencesClass _ => inferInstanceAs (Decidable (_ ∧ _))
  | innerClass _ _ _ => inferInstanceAs (Decidable (_ ∧ _))
  | catches _ => inferInstanceAs (Decidable (_ ∧ _))
  | corruptMember => inferInstanceAs (Decidable False)

end Declaration

/-- What declarations say of a class, in the order in which they say it. -/
structure Summary where
  access : Access
  superClass : String
  interfaces : List String
  fields : List FieldInfo
  methods : List MethodInfo
  innerClasses : List InnerClass
  catchTypes : List String
  /-- The members that are mentioned, as often as they are mentioned. -/
  members : List MemberReference
  /-- The classes and arrays that are plainly referred to. -/
  references : List String

namespace Summary

/-- The summary of some declarations of a class, which has some access at first. Of several access
flags or superclasses the last ones count. -/
def of (access : Access) (declarations : List Declaration) : Summary where
  access := (declarations.filterMap Declaration.access?).getLastD access
  superClass := (declarations.filterMap Declaration.superClass?).getLastD "java.lang.Object"
  interfaces := declarations.filterMap Declaration.interface?
  fields := declarations.filterMap Declaration.field?
  methods := declarations.filterMap Declaration.method?
  innerClasses := declarations.filterMap Declaration.innerClass?
  catchTypes := declarations.filterMap Declaration.catchType?
  members := declarations.filterMap Declaration.member?
  references := declarations.filterMap Declaration.reference?

def add (summary : Summary) : Declaration → Summary
  | .access flags => { summary with access := flags }
  | .superClass name => { summary with superClass := name }
  | .interface name => { summary with interfaces := summary.interfaces ++ [name] }
  | .field access name descriptor =>
    { summary with fields := summary.fields ++ [⟨name, descriptor, access⟩] }
  | .method access name descriptor =>
    { summary with
      methods := summary.methods ++
        [⟨name, descriptor, access, !(access.isAbstract || access.isNative), []⟩] }
  | .abstractMethod name descriptor =>
    { summary with
      methods := summary.methods ++ [⟨name, descriptor, .public ||| .abstract, false, []⟩] }
  | .invokes owner name descriptor =>
    { summary with members := summary.members ++ [.method owner name descriptor false] }
  | .invokesInterface owner name descriptor =>
    { summary with members := summary.members ++ [.method owner name descriptor true] }
  | .readsField owner name descriptor =>
    { summary with members := summary.members ++ [.field owner name descriptor] }
  | .referencesClass name => { summary with references := summary.references ++ [name] }
  | .innerClass inner outer access =>
    { summary with
      innerClasses := summary.innerClasses ++
        [⟨inner, outer, some (ClassDraft.simpleName inner), access⟩] }
  | .catches exceptionType =>
    { summary with catchTypes := summary.catchTypes ++ [exceptionType] }
  | .corruptMember => summary

private theorem of_concat (access : Access) (declarations : List Declaration) (declaration : Declaration) :
    of access (declarations ++ [declaration]) = (of access declarations).add declaration := by
  cases declaration <;>
    simp only [of, add, List.filterMap_append, List.filterMap_cons, List.filterMap_nil,
      List.append_nil, List.getLastD_concat, Declaration.access?, Declaration.superClass?,
      Declaration.interface?, Declaration.field?, Declaration.method?, Declaration.innerClass?,
      Declaration.catchType?, Declaration.member?, Declaration.reference?]

end Summary

namespace DraftPool

variable {pool later : DraftPool}

/-- Whether a number stands for a class with an ordinary name. -/
def NamedAt (pool : DraftPool) (index : Nat) (className : String) : Prop :=
  pool.ClassAt index className ∧ IsClassName className

def FieldAt (pool : DraftPool) (member : DraftMember) (field : FieldInfo) : Prop :=
  member.access = field.access ∧ pool.At member.name (.utf8 field.name) ∧
    pool.At member.descriptor (.utf8 field.descriptor)

/-- Whether a member of a draft stands for a method that is written with an empty body, if any. -/
def MethodAt (pool : DraftPool) (member : DraftMember) (method : MethodInfo) : Prop :=
  pool.FieldAt member ⟨method.name, method.descriptor, method.access⟩ ∧
    method.hasCode = !(method.access.isAbstract || method.access.isNative) ∧ method.catchTypes = []

/-- Whether a number stands for the class around a nested one, or is zero if there is none. -/
def OuterAt (pool : DraftPool) (index : Nat) : Option String → Prop
  | some outer => pool.NamedAt index outer
  | none => index = 0

def InnerClassAt (pool : DraftPool) (record : DraftInnerClass) (inner : InnerClass) : Prop :=
  record.access = inner.access ∧ pool.NamedAt record.inner inner.inner ∧
    pool.OuterAt record.outer inner.outer ∧
    ∃ simpleName, inner.simpleName = some simpleName ∧
      pool.At record.simpleName (.utf8 simpleName)

theorem NamedAt.mono {index : Nat} {className : String} (at_ : pool.NamedAt index className)
    (continued : pool.Extends later) : later.NamedAt index className :=
  ⟨at_.1.mono continued, at_.2⟩

theorem FieldAt.mono {member : DraftMember} {field : FieldInfo} (at_ : pool.FieldAt member field)
    (continued : pool.Extends later) : later.FieldAt member field :=
  ⟨at_.1, at_.2.1.mono continued, at_.2.2.mono continued⟩

theorem MethodAt.mono {member : DraftMember} {method : MethodInfo}
    (at_ : pool.MethodAt member method) (continued : pool.Extends later) :
    later.MethodAt member method :=
  ⟨at_.1.mono continued, at_.2⟩

theorem OuterAt.mono {index : Nat} {outer : Option String} (at_ : pool.OuterAt index outer)
    (continued : pool.Extends later) : later.OuterAt index outer := by
  cases outer with
  | none => exact at_
  | some outer => exact NamedAt.mono at_ continued

theorem InnerClassAt.mono {record : DraftInnerClass} {inner : InnerClass}
    (at_ : pool.InnerClassAt record inner) (continued : pool.Extends later) :
    later.InnerClassAt record inner := by
  obtain ⟨access, isInner, isOuter, simpleName, same, isName⟩ := at_
  exact ⟨access, isInner.mono continued, isOuter.mono continued, simpleName, same,
    isName.mono continued⟩

end DraftPool

namespace ClassDraft

variable {draft : ClassDraft} {name : String} {summary : Summary} {pool later : DraftPool}

/-- Whether the numbers of a draft stand for what its declarations say. -/
structure Shows (pool : DraftPool) (draft : ClassDraft) (name : String) (summary : Summary) :
    Prop where
  access : draft.access = summary.access
  thisClass : pool.NamedAt draft.thisClass name
  superClass : pool.NamedAt draft.superClass summary.superClass
  interfaces : List.Forall₂ pool.NamedAt draft.interfaces summary.interfaces
  fields : List.Forall₂ pool.FieldAt draft.fields summary.fields
  methods : List.Forall₂ pool.MethodAt draft.methods summary.methods
  innerClasses : List.Forall₂ pool.InnerClassAt draft.innerClasses summary.innerClasses
  catchTypes : List.Forall₂ pool.NamedAt draft.catchTypes summary.catchTypes
  operands : ∃ operands, List.Forall₂ pool.ClassAt operands summary.references ∧
    Bytecode.Runs draft.initializer operands
  isEmpty : draft.initializer = [] ↔ summary.members = [] ∧ summary.references = []

/-- What a draft shows it shows in every later pool. -/
theorem Shows.mono (shows : Shows pool draft name summary) (continued : pool.Extends later) :
    Shows later draft name summary := by
  refine ⟨shows.access, shows.thisClass.mono continued, shows.superClass.mono continued,
    ?_, ?_, ?_, ?_, ?_, ?_, shows.isEmpty⟩
  · exact shows.interfaces.imp fun _ _ at_ => at_.mono continued
  · exact shows.fields.imp fun _ _ at_ => at_.mono continued
  · exact shows.methods.imp fun _ _ at_ => at_.mono continued
  · exact shows.innerClasses.imp fun _ _ at_ => at_.mono continued
  · exact shows.catchTypes.imp fun _ _ at_ => at_.mono continued
  · obtain ⟨operands, classes, runs⟩ := shows.operands
    exact ⟨operands, classes.imp fun _ _ at_ => at_.mono continued, runs⟩

/-- Whether a draft is in the state that its declarations lead to. -/
structure Follows (draft : ClassDraft) (name : String) (summary : Summary) : Prop where
  holds : draft.pool.Holds summary.members
  shows : Shows draft.pool draft name summary

theorem forall₂_concat {α β : Type} {related : α → β → Prop} {left : List α} {right : List β}
    (all : List.Forall₂ related left right) {a : α} {b : β} (last : related a b) :
    List.Forall₂ related (left ++ [a]) (right ++ [b]) :=
  List.rel_append all (.cons last .nil)

attribute [local irreducible] DraftPool.add

private theorem extends_declare (draft : ClassDraft) {declaration : Declaration}
    (allowed : declaration.Allowed) : draft.pool.Extends (draft.declare declaration).pool := by
  cases declaration with
  | access flags => exact .refl _
  | superClass name => exact DraftPool.extends_addClass _ _
  | interface name => exact DraftPool.extends_addClass _ _
  | field flags name descriptor =>
    exact (DraftPool.extends_addUtf8 _ _).trans (DraftPool.extends_addUtf8 _ _)
  | method flags name descriptor =>
    exact (DraftPool.extends_addUtf8 _ _).trans (DraftPool.extends_addUtf8 _ _)
  | abstractMethod name descriptor =>
    exact (DraftPool.extends_addUtf8 _ _).trans (DraftPool.extends_addUtf8 _ _)
  | invokes owner name descriptor => exact DraftPool.extends_addMember _ _ _ _ _
  | invokesInterface owner name descriptor => exact DraftPool.extends_addMember _ _ _ _ _
  | readsField owner name descriptor => exact DraftPool.extends_addMember _ _ _ _ _
  | referencesClass name => exact DraftPool.extends_addClass _ _
  | innerClass inner outer flags =>
    cases outer with
    | none => exact (DraftPool.extends_addClass _ _).trans (DraftPool.extends_addUtf8 _ _)
    | some outer =>
      exact (DraftPool.extends_addClass _ inner).trans
        ((DraftPool.extends_addClass _ outer).trans (DraftPool.extends_addUtf8 _ _))
  | catches exceptionType => exact DraftPool.extends_addClass _ _
  | corruptMember => exact allowed.elim

section Parts

variable (shows : Shows pool draft name summary)

include shows

private theorem Shows.setSuperClass {index : Nat} {className : String}
    (at_ : pool.NamedAt index className) :
    Shows pool { draft with pool, superClass := index } name
      { summary with superClass := className } :=
  { shows with superClass := at_ }

private theorem Shows.addInterface {index : Nat} {className : String}
    (at_ : pool.NamedAt index className) :
    Shows pool { draft with pool, interfaces := draft.interfaces ++ [index] } name
      { summary with interfaces := summary.interfaces ++ [className] } :=
  { shows with interfaces := forall₂_concat shows.interfaces at_ }

private theorem Shows.addField {member : DraftMember} {field : FieldInfo}
    (at_ : pool.FieldAt member field) :
    Shows pool { draft with pool, fields := draft.fields ++ [member] } name
      { summary with fields := summary.fields ++ [field] } :=
  { shows with fields := forall₂_concat shows.fields at_ }

private theorem Shows.addMethod {member : DraftMember} {method : MethodInfo}
    (at_ : pool.MethodAt member method) :
    Shows pool { draft with pool, methods := draft.methods ++ [member] } name
      { summary with methods := summary.methods ++ [method] } :=
  { shows with methods := forall₂_concat shows.methods at_ }

private theorem Shows.addInnerClass {record : DraftInnerClass} {inner : InnerClass}
    (at_ : pool.InnerClassAt record inner) :
    Shows pool { draft with pool, innerClasses := draft.innerClasses ++ [record] } name
      { summary with innerClasses := summary.innerClasses ++ [inner] } :=
  { shows with innerClasses := forall₂_concat shows.innerClasses at_ }

private theorem Shows.addCatchType {index : Nat} {className : String}
    (at_ : pool.NamedAt index className) :
    Shows pool { draft with pool, catchTypes := draft.catchTypes ++ [index] } name
      { summary with catchTypes := summary.catchTypes ++ [className] } :=
  { shows with catchTypes := forall₂_concat shows.catchTypes at_ }

/-- A mentioned member becomes an instruction that refers to no class. -/
theorem Shows.mention {opcode : UInt8} {arguments : Bytes}
    (fixed : Bytecode.layout? opcode = some (.fixed (arguments.length + 2)))
    (silent : ∀ rest, Bytecode.classOperand? opcode rest = .ok none) (index : Nat)
    (reference : MemberReference) :
    Shows pool (draft.emit (pool, index) opcode arguments) name
      { summary with members := summary.members ++ [reference] } := by
  obtain ⟨operands, classes, runs⟩ := shows.operands
  refine { shows with operands := ⟨operands, classes, ?_⟩, isEmpty := ?_ }
  · have last : Bytecode.Runs (opcode :: (bytes2 index ++ arguments)) [] :=
      @Bytecode.runs_instruction opcode (bytes2 index ++ arguments) none fixed fun _ => silent _
    simpa [emit] using runs.append last
  · simp [emit]

/-- A plain reference to a class becomes a cast. -/
theorem Shows.refer {index : Nat} {className : String} (at_ : pool.ClassAt index className)
    (fits : index < 65536) :
    Shows pool (draft.emit (pool, index) 0xc0 []) name
      { summary with references := summary.references ++ [className] } := by
  obtain ⟨operands, classes, runs⟩ := shows.operands
  refine { shows with operands := ⟨_, forall₂_concat classes at_, ?_⟩, isEmpty := ?_ }
  · simpa [emit] using runs.append (Bytecode.runs_cast fits)
  · simp [emit]

end Parts

section Step

variable (follows : draft.Follows name summary)

include follows

theorem Follows.addMember {flags : Access} {memberName descriptor : String}
    (short : Declaration.Short memberName) (short' : Declaration.Short descriptor)
    (small : (draft.addMember flags memberName descriptor).1.constants.length ≤ 65534) :
    let declared := draft.addMember flags memberName descriptor
    declared.1.Holds summary.members ∧ Shows declared.1 draft name summary ∧
      declared.1.FieldAt declared.2 ⟨memberName, descriptor, flags⟩ := by
  let named := draft.pool.addUtf8 memberName
  have stays : named.1.Extends (draft.addMember flags memberName descriptor).1 :=
    DraftPool.extends_addUtf8 _ _
  obtain ⟨holds, isName⟩ := follows.holds.addUtf8 short (Nat.le_trans stays.length_le small)
  obtain ⟨holds, isDescriptor⟩ := holds.addUtf8 short' small
  refine ⟨holds, follows.shows.mono ?_, rfl, isName.mono stays, isDescriptor⟩
  exact (DraftPool.extends_addUtf8 _ _).trans stays

theorem Follows.addClass {className : String} (short : Declaration.Short className)
    (small : (draft.pool.addClass className).1.constants.length ≤ 65534) :
    let added := draft.pool.addClass className
    added.1.Holds summary.members ∧ Shows added.1 draft name summary ∧
      added.1.ClassAt added.2 className := by
  obtain ⟨holds, at_⟩ := follows.holds.addClass short small
  exact ⟨holds, follows.shows.mono (DraftPool.extends_addClass _ className), at_⟩

theorem Follows.mention {reference : MemberReference} {opcode : UInt8} {arguments : Bytes}
    (fixed : Bytecode.layout? opcode = some (.fixed (arguments.length + 2)))
    (silent : ∀ rest, Bytecode.classOperand? opcode rest = .ok none)
    (valid : IsClassName reference.owner) (short : Declaration.Short reference.owner)
    (short' : Declaration.Short reference.name) (short'' : Declaration.Short reference.descriptor)
    (small : (draft.pool.addMember reference.constant reference.owner reference.name
      reference.descriptor).1.constants.length ≤ 65534) :
    (draft.emit (draft.pool.addMember reference.constant reference.owner reference.name
      reference.descriptor) opcode arguments).Follows name
      { summary with members := summary.members ++ [reference] } := by
  have holds := follows.holds.addMember valid short short' short'' small
  have shows := follows.shows.mono (DraftPool.extends_addMember draft.pool reference.constant
    reference.owner reference.name reference.descriptor)
  exact ⟨holds, shows.mention fixed silent _ reference⟩

theorem Follows.innerClass {inner : String} {outer : Option String} (flags : Access)
    (allowed : (Declaration.innerClass inner outer flags).Allowed)
    (small : (draft.declare (.innerClass inner outer flags)).pool.constants.length ≤ 65534) :
    (draft.declare (.innerClass inner outer flags)).Follows name
      (summary.add (.innerClass inner outer flags)) := by
  obtain ⟨⟨valid, short⟩, validOuter⟩ := allowed
  let nested := draft.pool.addClass inner
  have shortName : Declaration.Short (simpleName inner) :=
    Nat.le_trans (utf8ByteSize_simpleName inner) short
  cases outer with
  | none =>
    have stays : nested.1.Extends (nested.1.addUtf8 (simpleName inner)).1 :=
      DraftPool.extends_addUtf8 _ _
    obtain ⟨holds, shows, isInner⟩ := follows.addClass short (Nat.le_trans stays.length_le small)
    obtain ⟨holds, isName⟩ := holds.addUtf8 shortName small
    exact ⟨holds, (shows.mono stays).addInnerClass
      ⟨rfl, ⟨isInner.mono stays, valid⟩, rfl, _, rfl, isName⟩⟩
  | some outer =>
    obtain ⟨valid', short'⟩ := validOuter outer rfl
    let enclosing := nested.1.addClass outer
    have stays : enclosing.1.Extends (enclosing.1.addUtf8 (simpleName inner)).1 :=
      DraftPool.extends_addUtf8 _ _
    have stays' : nested.1.Extends enclosing.1 := DraftPool.extends_addClass _ _
    have small' := Nat.le_trans stays.length_le small
    obtain ⟨holds, shows, isInner⟩ := follows.addClass short (Nat.le_trans stays'.length_le small')
    obtain ⟨holds, isOuter⟩ := holds.addClass short' small'
    obtain ⟨holds, isName⟩ := holds.addUtf8 shortName small
    exact ⟨holds, (shows.mono (stays'.trans stays)).addInnerClass
      ⟨rfl, ⟨isInner.mono (stays'.trans stays), valid⟩, ⟨isOuter.mono stays, valid'⟩, _, rfl,
        isName⟩⟩

end Step

theorem Follows.declare (follows : draft.Follows name summary) {declaration : Declaration}
    (allowed : declaration.Allowed)
    (small : (draft.declare declaration).pool.constants.length ≤ 65534) :
    (draft.declare declaration).Follows name (summary.add declaration) := by
  cases declaration with
  | access flags => exact ⟨follows.holds, { follows.shows with access := rfl }⟩
  | superClass superName =>
    obtain ⟨valid, short⟩ := allowed
    obtain ⟨holds, shows, at_⟩ := follows.addClass short small
    exact ⟨holds, shows.setSuperClass ⟨at_, valid⟩⟩
  | interface interfaceName =>
    obtain ⟨valid, short⟩ := allowed
    obtain ⟨holds, shows, at_⟩ := follows.addClass short small
    exact ⟨holds, shows.addInterface ⟨at_, valid⟩⟩
  | field flags fieldName descriptor =>
    obtain ⟨short, short'⟩ := allowed
    obtain ⟨holds, shows, at_⟩ := follows.addMember short short' small
    exact ⟨holds, shows.addField at_⟩
  | method flags methodName descriptor =>
    obtain ⟨short, short'⟩ := allowed
    obtain ⟨holds, shows, at_⟩ := follows.addMember short short' small
    exact ⟨holds, shows.addMethod ⟨at_, rfl, rfl⟩⟩
  | abstractMethod methodName descriptor =>
    obtain ⟨short, short'⟩ := allowed
    obtain ⟨holds, shows, at_⟩ := follows.addMember short short' small
    have bodiless : false = !((Access.public ||| Access.abstract).isAbstract ||
      (Access.public ||| Access.abstract).isNative) := by decide
    exact ⟨holds, shows.addMethod ⟨at_, bodiless, rfl⟩⟩
  | invokes owner memberName descriptor =>
    obtain ⟨valid, short, short', short''⟩ := allowed
    exact @Follows.mention draft name summary follows (.method owner memberName descriptor false)
      0xb8 [] rfl (fun _ => rfl) valid short short' short'' small
  | invokesInterface owner memberName descriptor =>
    obtain ⟨valid, short, short', short''⟩ := allowed
    exact @Follows.mention draft name summary follows (.method owner memberName descriptor true)
      0xb9 [1, 0] rfl (fun _ => rfl) valid short short' short'' small
  | readsField owner memberName descriptor =>
    obtain ⟨valid, short, short', short''⟩ := allowed
    exact @Follows.mention draft name summary follows (.field owner memberName descriptor)
      0xb2 [] rfl (fun _ => rfl) valid short short' short'' small
  | referencesClass className =>
    obtain ⟨_, short⟩ := allowed
    obtain ⟨holds, shows, at_⟩ := follows.addClass short small
    have fits : (draft.pool.addClass className).2 < 65536 := by
      obtain ⟨number, isClass, _⟩ := at_
      exact Nat.lt_of_le_of_lt (Nat.le_trans isClass.le_length small) (by decide)
    exact ⟨holds, shows.refer at_ fits⟩
  | innerClass inner outer flags => exact follows.innerClass flags allowed small
  | catches exceptionType =>
    obtain ⟨valid, short⟩ := allowed
    obtain ⟨holds, shows, at_⟩ := follows.addClass short small
    exact ⟨holds, shows.addCatchType ⟨at_, valid⟩⟩
  | corruptMember => exact allowed.elim

section Run

variable {access : Access} {declarations : List Declaration}

theorem declareAll_concat (start : ClassDraft) (declarations : List Declaration)
    (declaration : Declaration) :
    start.declareAll (declarations ++ [declaration]) =
      (start.declareAll declarations).declare declaration :=
  List.foldl_append

theorem extends_declareAll (start : ClassDraft)
    (allowed : ∀ declaration ∈ declarations, declaration.Allowed) :
    start.pool.Extends (start.declareAll declarations).pool := by
  induction declarations using List.reverseRecOn with
  | nil => exact .refl _
  | append_singleton declarations declaration ih =>
    rw [declareAll_concat]
    refine (ih fun other member => allowed other (List.mem_append_left _ member)).trans ?_
    exact extends_declare _ (allowed declaration (by simp))

/-- A draft shows all of its declarations, if there is room for their constants. -/
theorem Follows.declareAll {start : ClassDraft} (follows : start.Follows name (.of access []))
    (allowed : ∀ declaration ∈ declarations, declaration.Allowed)
    (small : (start.declareAll declarations).pool.constants.length ≤ 65534) :
    (start.declareAll declarations).Follows name (.of access declarations) := by
  induction declarations using List.reverseRecOn with
  | nil => exact follows
  | append_singleton declarations declaration ih =>
    rw [declareAll_concat] at small ⊢
    have last := allowed declaration (by simp)
    have before := ih (fun other member => allowed other (List.mem_append_left _ member))
      (Nat.le_trans (extends_declare _ last).length_le small)
    rw [Summary.of_concat]
    exact before.declare last small

theorem follows_ofClass (valid : IsClassName name) (short : Declaration.Short name)
    (small : (ofClass name).pool.constants.length ≤ 65534) :
    (ofClass name).Follows name (.of (.public ||| .super) []) := by
  let named := DraftPool.empty.addClass name
  have stays : named.1.Extends (ofClass name).pool := DraftPool.extends_addClass _ _
  obtain ⟨holds, isName⟩ :=
    DraftPool.holds_empty.addClass short (Nat.le_trans stays.length_le small)
  have shortObject : Declaration.Short "java.lang.Object" := by decide
  have isObject : IsClassName "java.lang.Object" := by decide
  obtain ⟨holds, isSuper⟩ := holds.addClass shortObject small
  refine ⟨holds, ⟨rfl, ⟨isName.mono stays, valid⟩, ⟨isSuper, isObject⟩, .nil, .nil, .nil, .nil,
    .nil, ⟨[], .nil, Bytecode.runs_nil⟩, ?_⟩⟩
  simp [ofClass, Summary.of]

theorem follows_ofInterface (valid : IsClassName name) (short : Declaration.Short name)
    (small : (ofInterface name).pool.constants.length ≤ 65534) :
    (ofInterface name).Follows name (.of (.public ||| .interface ||| .abstract) []) := by
  obtain ⟨holds, shows⟩ := follows_ofClass valid short small
  exact ⟨holds, { shows with access := rfl }⟩

private theorem length_initializer_declare (draft : ClassDraft) (declaration : Declaration) :
    (draft.declare declaration).initializer.length ≤ draft.initializer.length + 5 := by
  cases declaration with
  | invokes | invokesInterface | readsField | referencesClass =>
    refine Nat.le_trans (Nat.le_of_eq List.length_append) (Nat.add_le_add_left ?_ _)
    simp [bytes2]
  | _ => exact Nat.le_add_right _ _

theorem length_initializer_declareAll {start : ClassDraft} (empty : start.initializer = [])
    (declarations : List Declaration) :
    (start.declareAll declarations).initializer.length ≤ 5 * declarations.length := by
  induction declarations using List.reverseRecOn with
  | nil => simp [declareAll, empty]
  | append_singleton declarations declaration ih =>
    rw [declareAll_concat, List.length_append, List.length_singleton]
    have step := length_initializer_declare (start.declareAll declarations) declaration
    omega

end Run

end ClassDraft

end Linkage
