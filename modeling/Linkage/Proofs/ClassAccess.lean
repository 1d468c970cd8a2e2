import Linkage.Proofs.MethodResolution

/-!
Which classes can be used from a class.

A class can be used if it is open to the class that refers to it, and so are all classes around it.
The class around a class is the one that its own record names, whatever is stored there. A protected
class is open to the subclasses of the class around it. The search for a superclass stops where it
meets a name for the second time, which is no loss: all that lies above has been passed by then.
-/

set_option autoImplicit false

namespace Linkage

theorem IsSuperclass.mem_of_closed {look : Look} {start : ClassInfo} {names : List String}
    {name : String} (direct : ∀ above, start.superName = some above → above ∈ names)
    (closed : ∀ lower ∈ names, ∀ loaded, look lower = .ok (.found loaded) →
      ∀ above, loaded.info.superName = some above → above ∈ names)
    (superclass : IsSuperclass look start name) : name ∈ names := by
  induction superclass with
  | direct named => exact direct _ named
  | above _ found named ih => exact closed _ ih _ found _ named

section Search

variable {look : Look} {start : ClassInfo} {className : String}

/-- A search for a superclass that has passed some names and goes on with the next one. -/
structure SearchedUpTo (look : Look) (start : ClassInfo) (className : String) (seen : List String)
    (next : Option String) : Prop where
  unmet : className ∉ seen
  above : ∀ name, next = some name → IsSuperclass look start name
  direct : ∀ name, start.superName = some name → name ∈ seen ∨ next = some name
  followed : ∀ lower ∈ seen, ∀ loaded, look lower = .ok (.found loaded) →
    ∀ name, loaded.info.superName = some name → name ∈ seen ∨ next = some name

private theorem searchedUpTo_start (look : Look) (start : ClassInfo) (className : String) :
    SearchedUpTo look start className [] start.superName where
  unmet := List.not_mem_nil
  above := fun _ named => .direct named
  direct := fun _ named => .inr named
  followed := fun _ member => absurd member List.not_mem_nil

theorem SearchedUpTo.found {seen : List String} {name : String} {loaded : LoadedClass}
    (searched : SearchedUpTo look start className seen (some name)) (other : name ≠ className)
    (known : look name = .ok (.found loaded)) :
    SearchedUpTo look start className (name :: seen) loaded.info.superName where
  unmet := by simp [searched.unmet, other.symm]
  above := fun _ named => .above (searched.above name rfl) known named
  direct := by
    intro above named
    rcases searched.direct above named with passed | same
    · exact .inl (List.mem_cons_of_mem _ passed)
    · cases same
      exact .inl List.mem_cons_self
  followed := by
    intro lower member other found above named
    rcases List.mem_cons.1 member with same | passed
    · subst same
      cases known.symm.trans found
      exact .inr named
    · rcases searched.followed lower passed other found above named with seen | same
      · exact .inl (List.mem_cons_of_mem _ seen)
      · cases same
        exact .inl List.mem_cons_self

/-- A search that can go no further has passed all superclasses. -/
theorem SearchedUpTo.not_superclass {seen : List String} {next : Option String}
    (searched : SearchedUpTo look start className seen next)
    (ends : ∀ name, next = some name → name ∈ seen) : ¬ IsSuperclass look start className := by
  intro superclass
  apply searched.unmet
  refine superclass.mem_of_closed ?_ ?_
  · intro above named
    exact (searched.direct above named).elim id (ends above)
  · intro lower member loaded found above named
    exact (searched.followed lower member loaded found above named).elim id (ends above)

/-- The last name of a search leads to no class that could name another one. -/
theorem SearchedUpTo.not_superclass_of_unfound {seen : List String} {name : String}
    (searched : SearchedUpTo look start className seen (some name)) (other : name ≠ className)
    (unfound : ∀ loaded, look name ≠ .ok (.found loaded)) :
    ¬ IsSuperclass look start className := by
  have passed : SearchedUpTo look start className (name :: seen) none := by
    refine ⟨by simp [searched.unmet, other.symm], by simp, ?_, ?_⟩
    · intro above named
      simpa [or_comm, eq_comm] using searched.direct above named
    · intro lower member loaded found above named
      rcases List.mem_cons.1 member with same | earlier
      · exact absurd found (same ▸ unfound loaded)
      · simpa [or_comm, eq_comm] using searched.followed lower earlier loaded found above named
  exact passed.not_superclass (by simp)

private theorem isSuperclassFrom_iff {names : List String}
    (listed : ∀ {name loaded}, look name = .ok (.found loaded) → name ∈ names) {steps : Nat}
    {seen : List String} {next : Option String} {result : Bool}
    (searched : SearchedUpTo look start className seen next)
    (enough : unvisited names seen < steps)
    (answered : (isSuperclassFrom className steps seen next).answer look = .ok result) :
    result = true ↔ IsSuperclass look start className := by
  induction steps generalizing seen next with
  | zero => exact absurd enough (Nat.not_lt_zero _)
  | succ steps ih =>
    cases next with
    | none =>
      cases answered
      exact iff_of_false Bool.false_ne_true (searched.not_superclass (by simp))
    | some name =>
      simp only [isSuperclassFrom] at answered
      split at answered
      · next same =>
        cases answered
        exact iff_of_true rfl (same ▸ searched.above name rfl)
      · next other =>
        split at answered
        · next visited =>
          cases answered
          refine iff_of_false Bool.false_ne_true (searched.not_superclass ?_)
          intro again same
          cases same
          exact List.contains_iff_mem.1 visited
        · next fresh =>
          have unseen : name ∉ seen := fun member => fresh (List.contains_iff_mem.2 member)
          obtain ⟨lookup, known, answered⟩ := Inquiry.answer_find_bind_ok answered
          cases lookup with
          | found loaded =>
            apply ih (searched.found other known) ?_ answered
            exact Nat.lt_of_lt_of_le (unvisited_cons_lt (listed known) unseen)
              (Nat.le_of_lt_succ enough)
          | system =>
            cases answered
            apply iff_of_false Bool.false_ne_true
            exact searched.not_superclass_of_unfound other (by simp [known])
          | notFound =>
            cases answered
            apply iff_of_false Bool.false_ne_true
            exact searched.not_superclass_of_unfound other (by simp [known])

private theorem isSubclass_iff {names : List String}
    (listed : ∀ {name loaded}, look name = .ok (.found loaded) → name ∈ names) {result : Bool}
    (answered : (isSubclass names.length start className).answer look = .ok result) :
    result = true ↔ IsSuperclass look start className := by
  refine isSuperclassFrom_iff listed (searchedUpTo_start look start className) ?_ answered
  exact Nat.lt_succ_of_le (unvisited_le_length _ _)

private theorem isSuperclassFrom_answers
    (known : ∀ {name}, IsSuperclass look start name → ∃ lookup, look name = .ok lookup)
    (steps : Nat) (seen : List String) {next : Option String}
    (above : ∀ name, next = some name → IsSuperclass look start name) :
    ∃ result, (isSuperclassFrom className steps seen next).answer look = .ok result := by
  induction steps generalizing seen next with
  | zero => exact ⟨false, rfl⟩
  | succ steps ih =>
    cases next with
    | none => exact ⟨false, rfl⟩
    | some name =>
      have superclass := above name rfl
      obtain ⟨lookup, isKnown⟩ := known superclass
      simp only [isSuperclassFrom]
      split
      · exact ⟨true, rfl⟩
      · split
        · exact ⟨false, rfl⟩
        · rw [Inquiry.answer_bind_of_ok ((Inquiry.answer_find name).trans isKnown)]
          cases lookup with
          | found loaded => exact ih _ fun higher named => .above superclass isKnown named
          | system => exact ⟨false, rfl⟩
          | notFound => exact ⟨false, rfl⟩

end Search

/-- Whether a class is open to another one by its own access, without regard to the classes around
it. The first of public, private and protected that is set decides. -/
inductive ClassInfo.IsOpenTo (look : Look) (target source : ClassInfo) : Prop where
  | ofPublic (isPublic : target.effectiveAccess.isPublic = true)
  | ofPrivate (notPublic : target.effectiveAccess.isPublic = false)
      (isPrivate : target.effectiveAccess.isPrivate = true)
      (same : topLevelName source.name = topLevelName target.name)
  | ofPackage (notPublic : target.effectiveAccess.isPublic = false)
      (notPrivate : target.effectiveAccess.isPrivate = false)
      (same : packageOf source.name = packageOf target.name)
  | ofProtected {outer : String} (notPublic : target.effectiveAccess.isPublic = false)
      (notPrivate : target.effectiveAccess.isPrivate = false)
      (isProtected : target.effectiveAccess.isProtected = true)
      (around : target.enclosingClass? = some outer) (above : IsSuperclass look source outer)

/-- The classes around a class, from the class itself to the last one that can be found, and the
class around that one if it is absent. The way ends at a class that is not a member of another one,
that is said to be a member of itself, or that is a member of a class of which nothing is known. -/
inductive EnclosingChain (look : Look) : ClassInfo → List ClassInfo → Option String → Prop where
  | outermost {info : ClassInfo} (ends : info.enclosingClass? = none) :
      EnclosingChain look info [info] none
  | itself {info : ClassInfo} (ends : info.enclosingClass? = some info.name) :
      EnclosingChain look info [info] none
  | hidden {info : ClassInfo} {outer : String} (around : info.enclosingClass? = some outer)
      (other : outer ≠ info.name) (known : look outer = .ok .system) :
      EnclosingChain look info [info] none
  | absent {info : ClassInfo} {outer : String} (around : info.enclosingClass? = some outer)
      (other : outer ≠ info.name) (known : look outer = .ok .notFound) :
      EnclosingChain look info [info] (some outer)
  | inside {info : ClassInfo} {outer : String} {loaded : LoadedClass} {classes : List ClassInfo}
      {missing : Option String} (around : info.enclosingClass? = some outer)
      (other : outer ≠ info.name) (known : look outer = .ok (.found loaded))
      (rest : EnclosingChain look loaded.info classes missing) :
      EnclosingChain look info (info :: classes) missing

private theorem EnclosingChain.length_pos {look : Look} {target : ClassInfo} {classes : List ClassInfo}
    {missing : Option String} (chain : EnclosingChain look target classes missing) :
    0 < classes.length := by
  cases chain <;> simp

section Access

variable {look : Look} {names : List String} {source target : ClassInfo}

private theorem isOpenTo_iff
    (listed : ∀ {name loaded}, look name = .ok (.found loaded) → name ∈ names) {result : Bool}
    (answered : (isOpenTo names.length source target).answer look = .ok result) :
    result = true ↔ target.IsOpenTo look source := by
  have inPackage : samePackage source target = true ↔
      packageOf source.name = packageOf target.name := by
    simp [samePackage, ClassInfo.package]
  unfold isOpenTo at answered
  dsimp only at answered
  split at answered
  · next isPublic =>
    cases answered
    exact iff_of_true rfl (.ofPublic isPublic)
  · next notPublic =>
    have notPublic := Bool.eq_false_iff.2 notPublic
    split at answered
    · next isPrivate =>
      cases answered
      constructor
      · intro same
        exact .ofPrivate notPublic isPrivate (by simpa [sameTopLevel] using same)
      · intro isOpen
        cases isOpen <;> simp_all [sameTopLevel]
    · next notPrivate =>
      have notPrivate := Bool.eq_false_iff.2 notPrivate
      split at answered
      · next isProtected =>
        split at answered
        · next same =>
          cases answered
          exact iff_of_true rfl (.ofPackage notPublic notPrivate (inPackage.1 same))
        · next foreign =>
          rw [inPackage] at foreign
          split at answered
          · next outer around =>
            rw [isSubclass_iff listed answered]
            constructor
            · intro above
              exact .ofProtected notPublic notPrivate isProtected around above
            · intro isOpen
              cases isOpen <;> simp_all
          · next unnested =>
            cases answered
            refine iff_of_false Bool.false_ne_true fun isOpen => ?_
            cases isOpen <;> simp_all
      · next unprotected =>
        cases answered
        rw [inPackage]
        constructor
        · intro same
          exact .ofPackage notPublic notPrivate same
        · intro isOpen
          cases isOpen <;> simp_all

private theorem isOpenTo_answers
    (known : ∀ {name}, IsSuperclass look source name → ∃ lookup, look name = .ok lookup)
    (bound : Nat) (target : ClassInfo) :
    ∃ result, (isOpenTo bound source target).answer look = .ok result := by
  unfold isOpenTo
  dsimp only
  split
  · exact ⟨true, rfl⟩
  · split
    · exact ⟨_, rfl⟩
    · split
      · split
        · exact ⟨true, rfl⟩
        · split
          · exact isSuperclassFrom_answers known _ _ fun _ named => .direct named
          · exact ⟨false, rfl⟩
      · exact ⟨_, rfl⟩

/-- The verdict on a class that is open by itself, which the class around it decides. -/
def accessAround (bound : Nat) (source : ClassInfo) (levels : Nat) (target : ClassInfo) :
    Inquiry ClassAccess :=
  match target.enclosingClass? with
  | none => pure .accessible
  | some outer =>
    if outer = target.name then pure .accessible
    else do
      match ← Inquiry.find outer with
      | .found loaded => classAccessWithin bound source levels loaded.info
      | .system => pure .accessible
      | .notFound => pure (.missingEnclosing outer)

private theorem classAccessWithin_succ (bound levels : Nat) :
    (classAccessWithin bound source (levels + 1) target).answer look =
      (isOpenTo bound source target).answer look >>= fun isOpen =>
        if isOpen then (accessAround bound source levels target).answer look
        else .ok .inaccessible := by
  rw [classAccessWithin, Inquiry.answer_bind]
  congr 1
  funext isOpen
  cases isOpen <;> rfl

theorem accessAround_of_lookup {outer : String} {lookup : ClassLookup} (bound levels : Nat)
    (around : target.enclosingClass? = some outer) (other : outer ≠ target.name)
    (known : look outer = .ok lookup) :
    (accessAround bound source levels target).answer look =
      match lookup with
      | .found loaded => (classAccessWithin bound source levels loaded.info).answer look
      | .system => .ok .accessible
      | .notFound => .ok (.missingEnclosing outer) := by
  simp only [accessAround, around, if_neg other]
  rw [Inquiry.answer_bind_of_ok ((Inquiry.answer_find outer).trans known)]
  cases lookup <;> rfl

theorem accessAround_of_end (bound levels : Nat)
    (ends : target.enclosingClass? = none ∨ target.enclosingClass? = some target.name) :
    (accessAround bound source levels target).answer look = .ok .accessible := by
  rcases ends with unnested | itself
  · simp only [accessAround, unnested]
    rfl
  · simp only [accessAround, itself, if_true]
    rfl

/-- Whether a verdict is the one that a chain of classes and what is missing around it lead to. -/
def ClassAccess.SettledBy (verdict : ClassAccess) (look : Look) (source : ClassInfo)
    (classes : List ClassInfo) (missing : Option String) : Prop :=
  (∃ info ∈ classes, ¬ info.IsOpenTo look source) ∧ verdict = .inaccessible ∨
    (∀ info ∈ classes, info.IsOpenTo look source) ∧
      verdict = missing.elim .accessible .missingEnclosing

section Levels

variable (listed : ∀ {name loaded}, look name = .ok (.found loaded) → name ∈ names)

include listed

/-- One level of the check: a class that is not open settles it, and otherwise the class around it
does. -/
theorem settledBy_of_around {levels : Nat} {classes : List ClassInfo} {missing : Option String}
    {verdict : ClassAccess}
    (answered : (classAccessWithin names.length source (levels + 1) target).answer look =
      .ok verdict)
    (around : (accessAround names.length source levels target).answer look = .ok verdict →
      verdict.SettledBy look source classes missing) :
    verdict.SettledBy look source (target :: classes) missing := by
  rw [classAccessWithin_succ] at answered
  obtain ⟨isOpen, opened, answered⟩ := bind_ok answered
  have exact_ := isOpenTo_iff listed opened
  cases isOpen with
  | false =>
    cases answered
    exact .inl ⟨⟨target, List.mem_cons_self, by simpa using exact_⟩, rfl⟩
  | true =>
    rcases around answered with ⟨⟨info, member, closed⟩, same⟩ | ⟨others, same⟩
    · exact .inl ⟨⟨info, List.mem_cons_of_mem _ member, closed⟩, same⟩
    · exact .inr ⟨List.forall_mem_cons.2 ⟨exact_.1 rfl, others⟩, same⟩

/-- The check of a class with `levels` classes around it at most follows the chain. -/
theorem classAccessWithin_settled {classes : List ClassInfo} {missing : Option String}
    (chain : EnclosingChain look target classes missing) {levels : Nat}
    (enough : classes.length ≤ levels + 1) {verdict : ClassAccess}
    (answered : (classAccessWithin names.length source (levels + 1) target).answer look =
      .ok verdict) : verdict.SettledBy look source classes missing := by
  -- Around the last class of a chain there is nothing more to be open.
  have last : ∀ {missing : Option String}, missing.elim .accessible .missingEnclosing = verdict →
      verdict.SettledBy look source [] missing :=
    fun same => .inr ⟨fun _ none => absurd none List.not_mem_nil, same.symm⟩
  induction chain generalizing levels with
  | outermost ends =>
    apply settledBy_of_around listed answered
    rw [accessAround_of_end _ _ (.inl ends)]
    exact fun same => last (Except.ok.inj same)
  | itself ends =>
    apply settledBy_of_around listed answered
    rw [accessAround_of_end _ _ (.inr ends)]
    exact fun same => last (Except.ok.inj same)
  | hidden around other known =>
    apply settledBy_of_around listed answered
    rw [accessAround_of_lookup _ _ around other known]
    exact fun same => last (Except.ok.inj same)
  | absent around other known =>
    apply settledBy_of_around listed answered
    rw [accessAround_of_lookup _ _ around other known]
    exact fun same => last (Except.ok.inj same)
  | inside around other known rest ih =>
    apply settledBy_of_around listed answered
    rw [accessAround_of_lookup _ _ around other known]
    have outer := Nat.le_of_succ_le_succ enough
    obtain ⟨fewer, rfl⟩ := Nat.exists_eq_succ_of_ne_zero
      (Nat.ne_of_gt (Nat.lt_of_lt_of_le rest.length_pos outer))
    exact ih outer

end Levels

theorem classAccessWithin_answers {classes : List ClassInfo} {missing : Option String}
    (known : ∀ {name}, IsSuperclass look source name → ∃ lookup, look name = .ok lookup)
    (bound : Nat) (chain : EnclosingChain look target classes missing) (levels : Nat) :
    ∃ verdict, (classAccessWithin bound source levels target).answer look = .ok verdict := by
  induction levels generalizing target classes with
  | zero => exact ⟨.accessible, rfl⟩
  | succ levels ih =>
    obtain ⟨isOpen, opened⟩ := isOpenTo_answers known bound target
    rw [classAccessWithin_succ, opened]
    cases isOpen with
    | false => exact ⟨.inaccessible, rfl⟩
    | true =>
      simp only [bind, Except.bind, if_true]
      cases chain with
      | outermost ends => exact ⟨_, accessAround_of_end _ _ (.inl ends)⟩
      | itself ends => exact ⟨_, accessAround_of_end _ _ (.inr ends)⟩
      | hidden around other known => exact ⟨_, accessAround_of_lookup _ _ around other known⟩
      | absent around other known => exact ⟨_, accessAround_of_lookup _ _ around other known⟩
      | inside around other known rest =>
        rw [accessAround_of_lookup _ _ around other known]
        exact ih rest

end Access

namespace Checker

/-- The verdict on a class follows the classes around it, as long as there are no more than are
looked at. It is inaccessible exactly if one of the classes is not open to the source; otherwise the
class around the last one is missing exactly if it is absent. There is a verdict whenever the
superclasses of the source can be looked up. -/
theorem classAccess_follows_chain {β : Type} (checker : Checker) (fs : FileSystem)
    (earlier : Inquiry β) (source : ClassInfo) {target : ClassInfo} {classes : List ClassInfo}
    {missing : Option String}
    (chain : EnclosingChain (checker.loader.load fs) target classes missing)
    (nested : classes.length ≤ maxNesting) :
    let look := checker.loader.load fs
    let repository :=
      (earlier.run fs (.ofCapacity checker.loader checker.cacheCapacity)).2
    let result := ((classAccess (checker.context fs).bound source target).run fs repository).1
    (∀ verdict, result = .ok verdict →
      (verdict = .inaccessible ↔ ∃ info ∈ classes, ¬ info.IsOpenTo look source) ∧
      ((∀ info ∈ classes, info.IsOpenTo look source) →
        (∀ outer, verdict = .missingEnclosing outer ↔ missing = some outer) ∧
        (verdict = .accessible ↔ missing = none))) ∧
    ((∀ name, IsSuperclass look source name → ∃ lookup, look name = .ok lookup) →
      ∃ verdict, result = .ok verdict) := by
  intro look repository result
  have result_eq : result = (classAccess (checker.context fs).bound source target).answer look :=
    Inquiry.run_after_eq_answer _ earlier checker.cacheCapacity
  rw [result_eq]
  constructor
  · intro verdict answered
    have settled : verdict.SettledBy look source classes missing :=
      classAccessWithin_settled Loader.mem_classNames_of_load chain nested answered
    rcases settled with ⟨closed, rfl⟩ | ⟨isOpen, rfl⟩
    · refine ⟨iff_of_true rfl closed, fun isOpen => ?_⟩
      obtain ⟨info, member, isClosed⟩ := closed
      exact absurd (isOpen info member) isClosed
    · refine ⟨iff_of_false ?_ ?_, fun _ => ?_⟩
      · cases missing <;> simp
      · exact fun closed => closed.elim fun info both => both.2 (isOpen info both.1)
      · cases missing <;> simp
  · intro known
    exact classAccessWithin_answers (fun {name} => known name) _ chain maxNesting

end Checker

/-! A public class inside of a protected one. -/

namespace NestingSample

open LibrarySample

def inner : ClassInfo :=
  { (Platform.Description.mk "p.O$I$J" Platform.classAccess (some objectClass) [] []).info with
    innerClasses := [⟨"p.O$I$J", some "p.O$I", some "J", .public⟩] }

def extending : ClassInfo := (sourceOf "a.S" "p.O" []).info

/-- The class is open to a subclass of its outermost class, and to no class of another package that
extends something else. -/
theorem classAccess_of_protected_nesting :
    let verdict := fun source : ClassInfo =>
      ((classAccess (checker.context files).bound source inner).run files (afterAsking "p.O")).1
    EnclosingChain (checker.loader.load files) inner [inner, protectedInner.info, outer.info] none ∧
      verdict extending = .ok .accessible ∧ verdict source.info = .ok .inaccessible := by
  intro verdict
  have load_middle := load_rows ("p.O$I", .found protectedInner) (by decide)
  have load_outer := load_rows ("p.O", .found outer) (by decide)
  have chain : EnclosingChain (checker.loader.load files) inner
      [inner, protectedInner.info, outer.info] none :=
    .inside (by decide) (by decide) load_middle
      (.inside (by decide) (by decide) load_outer (.outermost (by decide)))
  refine ⟨chain, ?_, ?_⟩
  · obtain ⟨follows, answers⟩ := Checker.classAccess_follows_chain checker files
      (Inquiry.find "p.O") extending chain (by decide)
    obtain ⟨access, answered⟩ := answers fun name above =>
      (above.mem_rows load_rows (by decide)).imp fun _ => And.right
    have isOpen : ∀ info ∈ [inner, protectedInner.info, outer.info],
        info.IsOpenTo (checker.loader.load files) extending := by
      intro info member
      simp only [List.mem_cons, List.not_mem_nil, or_false] at member
      rcases member with same | same | same
      · exact .ofPublic (same ▸ by decide)
      · subst same
        exact .ofProtected (by decide) (by decide) (by decide) rfl (.direct rfl)
      · exact .ofPublic (same ▸ by decide)
    have accessible := (((follows access answered).2 isOpen).2).2 rfl
    exact accessible ▸ answered
  · obtain ⟨follows, answers⟩ := Checker.classAccess_follows_chain checker files
      (Inquiry.find "p.O") source.info chain (by decide)
    have within : source.info.SupertypesWithin (among [objectClass]) := by decide
    obtain ⟨access, answered⟩ := answers fun name above =>
      (above.mem_rows (load_among _) within).imp fun _ => And.right
    have closed : ¬ protectedInner.info.IsOpenTo (checker.loader.load files) source.info := by
      intro isOpen
      cases isOpen with
      | ofPublic isPublic => exact absurd isPublic (by decide)
      | ofPrivate _ isPrivate _ => exact absurd isPrivate (by decide)
      | ofPackage _ _ same => exact absurd same (by decide)
      | ofProtected _ _ _ around above =>
        cases around
        have unlisted : ∀ row ∈ among [objectClass], row.1 ≠ "p.O" := by decide
        obtain ⟨lookup, member, _⟩ := above.mem_rows (load_among _) within
        exact unlisted _ member rfl
    have inaccessible := (follows access answered).1.2 ⟨protectedInner.info, by simp, closed⟩
    exact inaccessible ▸ answered

end NestingSample

end Linkage
