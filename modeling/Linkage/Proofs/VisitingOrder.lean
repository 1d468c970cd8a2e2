import Linkage.Proofs.Superclasses

/-!
The order in which a hierarchy visits the supertypes of a class.

First come the superclasses from the bottom up, then what the interfaces of all these lead to, level
by level, and at the end the class that all classes extend if an interface is to see it. A name that
comes up again is passed over, so cycles end where they close. The hierarchy lists what is found in
that order. The first name that is not found is noted as missing; the class that an interface is
made to see does not count for this.
-/

set_option autoImplicit false

namespace Linkage

namespace ClassLookup

def loaded? : ClassLookup → Option LoadedClass
  | found loaded => some loaded
  | _ => none

def isNotFound : ClassLookup → Bool
  | notFound => true
  | _ => false

/-- Whether the class comes with the platform, and nothing more is known. -/
def isSystem : ClassLookup → Bool
  | system => true
  | _ => false

def superName : ClassLookup → Option String
  | found loaded => loaded.info.superName
  | _ => none

def interfaces : ClassLookup → List String
  | found loaded => loaded.info.interfaces
  | _ => []

end ClassLookup

namespace Look

/-- The class that a name leads to. -/
def found? (look : Look) (name : String) : Option LoadedClass :=
  (look name).toOption.bind (·.loaded?)

def isAbsent (look : Look) (name : String) : Bool := (look name).toOption.any (·.isNotFound)

/-- Whether nothing is known of a class but that it comes with the platform. -/
def isHidden (look : Look) (name : String) : Bool := (look name).toOption.any (·.isSystem)

variable {look : Look} {name : String} {lookup : ClassLookup}

theorem found?_of_ok (known : look name = .ok lookup) : look.found? name = lookup.loaded? := by
  rw [found?, known]
  rfl

private theorem found?_eq_some_iff {loaded : LoadedClass} :
    look.found? name = some loaded ↔ look name = .ok (.found loaded) := by
  cases known : look name with
  | error error => simp [found?, known, Except.toOption]
  | ok lookup => cases lookup <;> simp [found?, known, Except.toOption, ClassLookup.loaded?]

private theorem isAbsent_of_ok (known : look name = .ok lookup) :
    look.isAbsent name = lookup.isNotFound := by
  rw [isAbsent, known]
  rfl

private theorem isHidden_of_ok (known : look name = .ok lookup) : look.isHidden name = lookup.isSystem := by
  rw [isHidden, known]
  rfl

private theorem isHidden_iff : look.isHidden name = true ↔ look name = .ok .system := by
  cases known : look name with
  | error error => simp [isHidden, known, Except.toOption]
  | ok lookup => cases lookup <;> simp [isHidden_of_ok known, ClassLookup.isSystem]

/-- Classes that declare the names they are found under are found under distinct names. -/
theorem map_name_found?_sublist
    (declares : ∀ {name loaded}, look name = .ok (.found loaded) → loaded.info.name = name)
    (names : List String) : ((names.filterMap look.found?).map (·.info.name)).Sublist names := by
  induction names with
  | nil => exact List.Sublist.refl _
  | cons name rest ih =>
    rw [List.filterMap_cons]
    cases known : look.found? name with
    | none => exact ih.cons name
    | some loaded =>
      have declared : loaded.info.name = name := declares (found?_eq_some_iff.1 known)
      rw [List.map_cons, declared]
      exact ih.cons_cons name

/-- The interfaces of the classes that some names lead to, in that order. -/
def interfacesOf (look : Look) (names : List String) : List String :=
  (names.filterMap look.found?).flatMap (·.info.interfaces)

private theorem interfacesOf_cons (known : look name = .ok lookup) (rest : List String) :
    look.interfacesOf (name :: rest) = lookup.interfaces ++ look.interfacesOf rest := by
  rw [interfacesOf, interfacesOf, List.filterMap_cons, found?_of_ok known]
  cases lookup <;> rfl

end Look

namespace Inquiry

variable {α β : Type} {look : Look}

/-- The classes that an inquiry looks up, one after another. -/
def asked (look : Look) : Inquiry α → List String
  | done _ => []
  | lookUp className next =>
    className ::
      match look className with
      | .ok lookup => (next lookup).asked look
      | .error _ => []

theorem asked_lookUp_of_ok {className : String} {lookup : ClassLookup}
    {next : ClassLookup → Inquiry α} (known : look className = .ok lookup) :
    (lookUp className next).asked look = className :: (next lookup).asked look := by
  simp only [asked, known]

theorem asked_bind_of_ok {inquiry : Inquiry α} {next : α → Inquiry β} {value : α}
    (answered : inquiry.answer look = .ok value) :
    (inquiry >>= next).asked look = inquiry.asked look ++ (next value).asked look := by
  change (inquiry.bind next).asked look = _
  induction inquiry with
  | done result =>
    cases answered
    rfl
  | lookUp className continue_ ih =>
    cases known : look className with
    | error error =>
      simp only [answer, known] at answered
      cases answered
    | ok lookup =>
      rw [answer_lookUp_ok known] at answered
      rw [Inquiry.bind, asked_lookUp_of_ok known, asked_lookUp_of_ok known, ih lookup answered,
        List.cons_append]

private theorem asked_find_bind_of_ok {className : String} {lookup : ClassLookup}
    {next : ClassLookup → Inquiry β} (known : look className = .ok lookup) :
    (find className >>= next).asked look = className :: (next lookup).asked look := by
  have found : (find className).answer look = .ok lookup := (answer_find className).trans known
  rw [asked_bind_of_ok found, find, asked_lookUp_of_ok known]
  rfl

end Inquiry

def Hierarchy.addAll (hierarchy : Hierarchy) (classes : List LoadedClass) : Hierarchy :=
  { hierarchy with classes := hierarchy.classes ++ classes }

theorem Hierarchy.addAll_nil (hierarchy : Hierarchy) : hierarchy.addAll [] = hierarchy := by
  rw [addAll, List.append_nil]

namespace Ascent

variable {look : Look} {hide : Ascent → String → Ascent} {ascent final : Ascent} {name : String}
  {lookup : ClassLookup} {visited queue : List String} {next : Option String}

/-- Visits a name, where `hide` notes a class of which nothing is known. -/
def note (hide : Ascent → String → Ascent) (ascent : Ascent) (name : String) :
    ClassLookup → Ascent
  | .found loaded => ascent.withFound name loaded
  | .system => hide ascent name
  | .notFound => ascent.withMissing name

/-- Noting a class in a way that adds nothing but a mark that something is hidden. -/
structure OnlyHides (hide : Ascent → String → Ascent) : Prop extends ListsNone hide where
  missing : ∀ ascent name, (hide ascent name).hierarchy.missing = ascent.hierarchy.missing

theorem withHiddenSuperclass_onlyHides : OnlyHides withHiddenSuperclass :=
  ⟨withHiddenSuperclass_listsNone, fun _ _ => rfl⟩

theorem withHiddenInterface_onlyHides : OnlyHides withHiddenInterface :=
  ⟨withHiddenInterface_listsNone, fun _ _ => rfl⟩

theorem seen_note (onlyHides : OnlyHides hide) (ascent : Ascent) (name : String)
    (lookup : ClassLookup) : (ascent.note hide name lookup).seen = name :: ascent.seen := by
  cases lookup with
  | found loaded => rfl
  | system => exact onlyHides.seen ascent name
  | notFound => rfl

private theorem classes_note (onlyHides : OnlyHides hide) (ascent : Ascent) (name : String)
    (lookup : ClassLookup) :
    (ascent.note hide name lookup).hierarchy.classes =
      ascent.hierarchy.classes ++ lookup.loaded?.toList := by
  cases lookup with
  | found loaded => rfl
  | system => exact (onlyHides.classes ascent name).trans (List.append_nil _).symm
  | notFound => exact (List.append_nil _).symm

/-- Names that are visited one after another, each of which is fresh. -/
inductive Visits (look : Look) (hide : Ascent → String → Ascent) :
    Ascent → List String → Ascent → Prop where
  | done {ascent : Ascent} : Visits look hide ascent [] ascent
  | next {ascent final : Ascent} {name : String} {lookup : ClassLookup} {visited : List String}
      (fresh : name ∉ ascent.seen) (known : look name = .ok lookup)
      (rest : Visits look hide (ascent.note hide name lookup) visited final) :
      Visits look hide ascent (name :: visited) final

section Noted

variable (onlyHides : OnlyHides hide) (visits : Visits look hide ascent visited final)

include onlyHides visits

private theorem Visits.seen_eq : final.seen = visited.reverse ++ ascent.seen := by
  induction visits with
  | done => rfl
  | next fresh known rest ih =>
    rw [ih, seen_note onlyHides, List.reverse_cons, List.append_assoc, List.singleton_append]

theorem Visits.nodup (distinct : ascent.seen.Nodup) : final.seen.Nodup := by
  induction visits with
  | done => exact distinct
  | next fresh known rest ih =>
    apply ih
    rw [seen_note onlyHides]
    exact List.nodup_cons.2 ⟨fresh, distinct⟩

private theorem Visits.classes_eq :
    final.hierarchy.classes = ascent.hierarchy.classes ++ visited.filterMap look.found? := by
  induction visits with
  | done => exact (List.append_nil _).symm
  | next fresh known rest ih =>
    rw [ih, classes_note onlyHides, List.filterMap_cons, Look.found?_of_ok known, List.append_assoc]
    cases ClassLookup.loaded? _ <;> rfl

private theorem Visits.missing_eq :
    final.hierarchy.missing = ascent.hierarchy.missing.or (visited.find? look.isAbsent) := by
  induction visits with
  | done => exact (Option.or_none).symm
  | @next ascent _ name lookup _ fresh known rest ih =>
    rw [ih, List.find?_cons, Look.isAbsent_of_ok known]
    cases lookup with
    | found loaded => rfl
    | system => exact congrArg (Option.or · _) (onlyHides.missing ascent name)
    | notFound => simp [ClassLookup.isNotFound, note, withMissing]

end Noted

/-- Noting a class sets a mark, and what is found or missing leaves the mark as it is. -/
structure Marks (hide : Ascent → String → Ascent) (mark : Hierarchy → Bool) : Prop where
  found : ∀ (ascent : Ascent) (name : String) (loaded : LoadedClass),
    mark (ascent.withFound name loaded).hierarchy = mark ascent.hierarchy
  hidden : ∀ ascent name, mark (hide ascent name).hierarchy = true
  missing : ∀ (ascent : Ascent) (name : String),
    mark (ascent.withMissing name).hierarchy = mark ascent.hierarchy

private theorem withHiddenSuperclass_marks : Marks withHiddenSuperclass (·.hiddenSuperclass) :=
  ⟨fun _ _ _ => rfl, fun _ _ => rfl, fun _ _ => rfl⟩

private theorem withHiddenInterface_marks : Marks withHiddenInterface (·.hiddenInterface) :=
  ⟨fun _ _ _ => rfl, fun _ _ => rfl, fun _ _ => rfl⟩

private theorem Visits.mark_eq {mark : Hierarchy → Bool} (marks : Marks hide mark)
    (visits : Visits look hide ascent visited final) :
    mark final.hierarchy = (mark ascent.hierarchy || visited.any look.isHidden) := by
  induction visits with
  | done => simp
  | @next ascent _ name lookup _ fresh known rest ih =>
    rw [ih, List.any_cons, Look.isHidden_of_ok known]
    cases lookup with
    | found loaded => exact congrArg (· || _) (marks.found ascent name loaded)
    | system => simp [ClassLookup.isSystem, note, marks.hidden]
    | notFound => exact congrArg (· || _) (marks.missing ascent name)

/-- A way up along superclasses: it ends where a class names none, and at a name that has been
visited. -/
inductive ClimbsBy (look : Look) : Option String → Ascent → List String → Ascent → Prop where
  | top {ascent : Ascent} : ClimbsBy look none ascent [] ascent
  | closed {ascent : Ascent} {name : String} (visited : name ∈ ascent.seen) :
      ClimbsBy look (some name) ascent [] ascent
  | visit {ascent final : Ascent} {name : String} {lookup : ClassLookup} {visited : List String}
      (fresh : name ∉ ascent.seen) (known : look name = .ok lookup)
      (rest : ClimbsBy look lookup.superName (ascent.note withHiddenSuperclass name lookup) visited
        final) :
      ClimbsBy look (some name) ascent (name :: visited) final

/-- A way through a queue of interfaces, to whose end the interfaces of those that are found are
added. -/
inductive SpreadsBy (look : Look) : List String → Ascent → List String → Ascent → Prop where
  | done {ascent : Ascent} : SpreadsBy look [] ascent [] ascent
  | pass {ascent final : Ascent} {name : String} {queue visited : List String}
      (seen : name ∈ ascent.seen) (rest : SpreadsBy look queue ascent visited final) :
      SpreadsBy look (name :: queue) ascent visited final
  | visit {ascent final : Ascent} {name : String} {lookup : ClassLookup}
      {queue visited : List String} (fresh : name ∉ ascent.seen) (known : look name = .ok lookup)
      (rest : SpreadsBy look (queue ++ lookup.interfaces)
        (ascent.note withHiddenInterface name lookup) visited final) :
      SpreadsBy look (name :: queue) ascent (name :: visited) final

section Bounded

variable {names : List String}
  (listed : ∀ {name loaded}, look name = .ok (.found loaded) → name ∈ names)

include listed

private theorem climb_climbsBy {steps : Nat} (enough : unvisited names ascent.seen < steps)
    (answered : (climb steps next ascent).answer look = .ok final) :
    ClimbsBy look next ascent ((climb steps next ascent).asked look) final := by
  -- Each class that is found is one less that is left, so the steps never run out on the way.
  induction steps generalizing next ascent with
  | zero => exact absurd enough (Nat.not_lt_zero _)
  | succ steps ih =>
    cases next with
    | none =>
      cases answered
      exact .top
    | some name =>
      simp only [climb] at answered ⊢
      split at answered
      · next marked =>
        cases answered
        rw [if_pos marked]
        exact .closed (List.contains_iff_mem.1 marked)
      · next unmarked =>
        have fresh : name ∉ ascent.seen := fun seen => unmarked (List.contains_iff_mem.2 seen)
        obtain ⟨lookup, known, answered⟩ := Inquiry.answer_find_bind_ok answered
        rw [if_neg unmarked, Inquiry.asked_find_bind_of_ok known]
        refine .visit fresh known ?_
        cases lookup with
        | found loaded =>
          have fewer := unvisited_cons_lt (listed known) fresh
          exact ih (Nat.lt_of_lt_of_le fewer (Nat.le_of_lt_succ enough)) answered
        | system =>
          cases answered
          exact .top
        | notFound =>
          cases answered
          exact .top

private theorem spreadTo_spreadsBy {onFound : List String → Ascent → Inquiry Ascent} {more : Nat}
    (goesOn : ∀ {queue ascent}, unvisited names ascent.seen < more →
      (onFound queue ascent).answer look = .ok final →
      SpreadsBy look queue ascent ((onFound queue ascent).asked look) final)
    (enough : unvisited names ascent.seen ≤ more)
    (answered : (spreadTo onFound queue ascent).answer look = .ok final) :
    SpreadsBy look queue ascent ((spreadTo onFound queue ascent).asked look) final := by
  induction queue generalizing ascent with
  | nil =>
    cases answered
    exact .done
  | cons name rest ih =>
    have fewer := unvisited_cons_le names ascent.seen name
    simp only [spreadTo] at answered ⊢
    split at answered
    · next marked =>
      rw [if_pos marked]
      exact .pass (List.contains_iff_mem.1 marked) (ih enough answered)
    · next unmarked =>
      have fresh : name ∉ ascent.seen := fun seen => unmarked (List.contains_iff_mem.2 seen)
      rw [if_neg unmarked]
      cases known : look name with
      | error error => simp [Inquiry.answer, known] at answered
      | ok lookup =>
        rw [Inquiry.answer_lookUp_ok known] at answered
        rw [Inquiry.asked_lookUp_of_ok known]
        refine .visit fresh known ?_
        cases lookup with
        | found loaded =>
          have found := unvisited_cons_lt (listed known) fresh
          exact goesOn (Nat.lt_of_lt_of_le found enough) answered
        | system =>
          change SpreadsBy look (rest ++ []) _ _ final
          rw [List.append_nil]
          exact ih (Nat.le_trans fewer enough) answered
        | notFound =>
          change SpreadsBy look (rest ++ []) _ _ final
          rw [List.append_nil]
          exact ih (Nat.le_trans fewer enough) answered

private theorem spread_spreadsBy {more : Nat} (enough : unvisited names ascent.seen ≤ more)
    (answered : (spread more queue ascent).answer look = .ok final) :
    SpreadsBy look queue ascent ((spread more queue ascent).asked look) final := by
  induction more generalizing queue ascent with
  | zero =>
    refine spreadTo_spreadsBy listed ?_ enough answered
    intro _ _ none _
    exact absurd none (Nat.not_lt_zero _)
  | succ more ih =>
    refine spreadTo_spreadsBy listed ?_ enough answered
    intro _ _ fewer found
    exact ih (Nat.le_of_lt_succ fewer) found

end Bounded

/-- A class that is found under one name and names another one as its superclass. -/
def NamesSuperclass (look : Look) (lower upper : String) : Prop :=
  ∃ loaded, look lower = .ok (.found loaded) ∧ loaded.info.superName = some upper

namespace ClimbsBy

variable (climbs : ClimbsBy look next ascent visited final)

include climbs

theorem visits : Visits look withHiddenSuperclass ascent visited final := by
  induction climbs with
  | top => exact .done
  | closed _ => exact .done
  | visit fresh known _ ih => exact .next fresh known ih

theorem starts {name : String} (first : visited.head? = some name) : next = some name := by
  cases climbs with
  | top => cases first
  | closed _ => cases first
  | visit _ _ _ => exact first

theorem linked : visited.IsChain (NamesSuperclass look) := by
  induction climbs with
  | top => exact List.isChain_nil
  | closed _ => exact List.isChain_nil
  | @visit _ _ name lookup _ _ known rest ih =>
    refine List.isChain_cons.2 ⟨fun upper isFirst => ?_, ih⟩
    have named := rest.starts isFirst
    cases lookup with
    | found loaded => exact ⟨loaded, known, named⟩
    | system => cases named
    | notFound => cases named

theorem isSuperclass {start : ClassInfo}
    (above : ∀ name, next = some name → IsSuperclass look start name) :
    ∀ name ∈ visited, IsSuperclass look start name := by
  induction climbs with
  | top => exact fun _ member => absurd member List.not_mem_nil
  | closed _ => exact fun _ member => absurd member List.not_mem_nil
  | @visit _ _ name lookup _ _ known _ ih =>
    have isSuperclass := above name rfl
    refine List.forall_mem_cons.2 ⟨isSuperclass, ih fun upper named => ?_⟩
    cases lookup with
    | found loaded => exact .above isSuperclass known named
    | system => cases named
    | notFound => cases named

end ClimbsBy

namespace SpreadsBy

variable (spreads : SpreadsBy look queue ascent visited final)

include spreads

theorem visits : Visits look withHiddenInterface ascent visited final := by
  induction spreads with
  | done => exact .done
  | pass _ _ ih => exact ih
  | visit fresh known _ ih => exact .next fresh known ih

private theorem isSuperinterface {start : ClassInfo}
    (above : ∀ name ∈ queue, IsSuperinterface look start name) :
    ∀ name ∈ visited, IsSuperinterface look start name := by
  induction spreads with
  | done => exact fun _ member => absurd member List.not_mem_nil
  | pass _ _ ih => exact ih (List.forall_mem_cons.1 above).2
  | @visit _ _ name lookup queue _ _ known _ ih =>
    obtain ⟨isInterface, waiting⟩ := List.forall_mem_cons.1 above
    refine List.forall_mem_cons.2 ⟨isInterface, ih fun other member => ?_⟩
    rcases List.mem_append.1 member with old | new
    · exact waiting other old
    · cases lookup with
      | found loaded => exact .ofInterface isInterface known new
      | system => cases new
      | notFound => cases new

/-- The names are visited level by level: in the order in which they first occur in the queue and
in the interfaces of the classes that are visited, one after another. -/
theorem levels :
    visited =
      ((queue ++ look.interfacesOf visited).filter (!ascent.seen.contains ·)).eraseDups := by
  induction spreads with
  | done => rfl
  | @pass ascent _ name queue _ seen _ ih =>
    have passed : ¬ (!ascent.seen.contains name) = true := by
      simpa using seen
    rw [List.cons_append, List.filter_cons, if_neg passed]
    exact ih
  | @visit ascent _ name lookup queue visited fresh known _ ih =>
    have kept : (!ascent.seen.contains name) = true := by simpa using fresh
    -- The name is the first to be kept; the rest of the way passes over it like over those before.
    rw [seen_note withHiddenInterface_onlyHides, List.append_assoc,
      ← Look.interfacesOf_cons known] at ih
    rw [List.cons_append, List.filter_cons, if_pos kept, List.eraseDups_cons, List.filter_filter]
    have same : (fun other => !other == name && !ascent.seen.contains other) =
        fun other => !(name :: ascent.seen).contains other := by
      funext other
      rw [List.contains_cons, Bool.not_or]
    rw [same, ← ih]

end SpreadsBy

/-- The class that all classes extend, unless it has been visited. -/
def unseenObject (visited : List String) : List String :=
  if visited.contains objectClass then [] else [objectClass]

private theorem seeObject_parts (answered : ascent.seeObject.answer look = .ok final) :
    ascent.seeObject.asked look = unseenObject ascent.seen ∧
      final.hierarchy =
        ascent.hierarchy.addAll ((unseenObject ascent.seen).filterMap look.found?) := by
  unfold seeObject unseenObject at *
  split at answered
  · next marked =>
    cases answered
    rw [if_pos marked, if_pos marked]
    exact ⟨rfl, ascent.hierarchy.addAll_nil.symm⟩
  · next unmarked =>
    obtain ⟨lookup, known, answered⟩ := Inquiry.answer_find_bind_ok answered
    rw [if_neg unmarked, if_neg unmarked, Inquiry.asked_find_bind_of_ok known, List.filterMap_cons,
      Look.found?_of_ok known]
    cases lookup with
    | found loaded =>
      cases answered
      exact ⟨rfl, rfl⟩
    | system =>
      cases answered
      exact ⟨rfl, ascent.hierarchy.addAll_nil.symm⟩
    | notFound =>
      cases answered
      exact ⟨rfl, ascent.hierarchy.addAll_nil.symm⟩

end Ascent

namespace Hierarchy

variable {look : Look} {start : LoadedClass} {withObject : Bool} {hierarchy : Hierarchy}
  {chain spread object names : List String} {climbed final : Ascent} {bound : Nat}

/-- What an interface is made to see behind the names that have been visited. -/
def seenObject (start : LoadedClass) (withObject : Bool) (visited : List String) : List String :=
  if withObject && start.info.isInterface then Ascent.unseenObject visited else []

private theorem mem_seenObject_iff {visited : List String} {name : String} :
    name ∈ seenObject start withObject visited ↔ name = objectClass ∧ withObject = true ∧
      start.info.isInterface = true ∧ objectClass ∉ visited := by
  unfold seenObject Ascent.unseenObject
  by_cases both : (withObject && start.info.isInterface) = true
  · obtain ⟨asked, isInterface⟩ := Bool.and_eq_true_iff.1 both
    by_cases marked : objectClass ∈ visited <;> simp [asked, isInterface, marked]
  · rw [if_neg both]
    refine iff_of_false List.not_mem_nil ?_
    rintro ⟨_, asked, isInterface, _⟩
    exact both (Bool.and_eq_true_iff.2 ⟨asked, isInterface⟩)

/-- The order in which the supertypes of a class are visited: its superclasses in `chain`, what
interfaces lead to in `spread`, and what an interface is made to see in `object`. -/
structure VisitingOrder (look : Look) (start : LoadedClass) (withObject : Bool)
    (chain spread object : List String) : Prop where
  distinct : (start.info.name :: (chain ++ spread ++ object)).Nodup
  /-- Superclasses stand behind the classes that name them. -/
  first : ∀ name, chain.head? = some name → start.info.superName = some name
  linked : chain.IsChain (Ascent.NamesSuperclass look)
  mem_chain_iff : ∀ name, name ∈ chain ↔
    IsSuperclass look start.info name ∧ name ≠ start.info.name
  mem_spread_iff : ∀ name, name ∈ spread ↔
    IsSuperinterface look start.info name ∧ ¬ IsSuperclass look start.info name ∧
      name ≠ start.info.name
  /-- Interfaces stand in the order in which the visited classes name them. -/
  levels : spread = ((start.info.interfaces ++ look.interfacesOf (chain ++ spread)).filter
    (!(start.info.name :: chain).contains ·)).eraseDups
  object_eq : object = seenObject start withObject (start.info.name :: (chain ++ spread))

/-- A hierarchy that notes what is known of the names that are visited. -/
structure Notes (look : Look) (start : LoadedClass) (chain spread object : List String)
    (hierarchy : Hierarchy) : Prop where
  classes : hierarchy.classes = start :: (chain ++ spread ++ object).filterMap look.found?
  once : (hierarchy.classes.map (·.info.name)).Nodup
  missing : hierarchy.missing = (chain ++ spread).find? look.isAbsent
  hiddenSuperclass : hierarchy.hiddenSuperclass = true ↔
    ∃ name, IsSuperclass look start.info name ∧ look name = .ok .system
  hiddenInterface : hierarchy.hiddenInterface = true ↔
    ∃ name, IsSuperinterface look start.info name ∧ ¬ IsSuperclass look start.info name ∧
      look name = .ok .system

theorem VisitingOrder.mem_iff (order : VisitingOrder look start withObject chain spread object)
    (name : String) :
    name ∈ start.info.name :: (chain ++ spread ++ object) ↔
      name = start.info.name ∨ IsSupertype look start.info withObject name := by
  rw [List.mem_cons, List.mem_append, List.mem_append, order.mem_chain_iff, order.mem_spread_iff,
    order.object_eq, mem_seenObject_iff]
  constructor
  · rintro (own | (⟨above, _⟩ | ⟨above, _⟩) | ⟨rfl, asked, isInterface, _⟩)
    · exact .inl own
    · exact .inr (.superclass above)
    · exact .inr (.interface above)
    · exact .inr (.object asked isInterface)
  · rintro (own | above)
    · exact .inl own
    · by_cases own : name = start.info.name
      · exact .inl own
      by_cases superclass : IsSuperclass look start.info name
      · exact .inr (.inl (.inl ⟨superclass, own⟩))
      by_cases superinterface : IsSuperinterface look start.info name
      · exact .inr (.inl (.inr ⟨superinterface, superclass, own⟩))
      -- What is left is the class that an interface is made to see, which nothing else leads to.
      cases above with
      | superclass above => exact absurd above superclass
      | interface above => exact absurd above superinterface
      | object asked isInterface =>
        refine .inr (.inr ⟨rfl, asked, isInterface, ?_⟩)
        rw [List.mem_cons, List.mem_append, order.mem_chain_iff, order.mem_spread_iff]
        rintro (same | ⟨above, _⟩ | ⟨above, _⟩)
        · exact own same
        · exact superclass above
        · exact superinterface above

/-- The parts of a hierarchy: the way up, the way through the interfaces, and what is seen at the
end. -/
theorem of_parts (answered : (Hierarchy.of bound start withObject).answer look = .ok hierarchy) :
    ∃ climbed final, ∃ queue,
      queue = climbed.hierarchy.classes.flatMap (·.info.interfaces) ∧
      (Ascent.climb (bound + 1) start.info.superName (.ofClass start)).answer look =
        .ok climbed ∧
      (Ascent.spread bound queue climbed).answer look = .ok final ∧
      (Hierarchy.of bound start withObject).asked look =
        (Ascent.climb (bound + 1) start.info.superName (.ofClass start)).asked look ++
          (Ascent.spread bound queue climbed).asked look ++
          seenObject start withObject final.seen ∧
      hierarchy = final.hierarchy.addAll
        ((seenObject start withObject final.seen).filterMap look.found?) := by
  obtain ⟨climbed, climb, answered⟩ := Inquiry.answer_bind_ok answered
  obtain ⟨final, spread, answered⟩ := Inquiry.answer_bind_ok answered
  refine ⟨climbed, final, _, rfl, climb, spread, ?_⟩
  rw [Hierarchy.of, Inquiry.asked_bind_of_ok climb, Inquiry.asked_bind_of_ok spread,
    List.append_assoc]
  unfold seenObject
  split at answered
  · next both =>
    obtain ⟨seen, saw, answered⟩ := Inquiry.answer_bind_ok answered
    cases answered
    obtain ⟨asked, noted⟩ := Ascent.seeObject_parts saw
    rw [if_pos both, if_pos both, Inquiry.asked_bind_of_ok saw, asked]
    exact ⟨congrArg _ (congrArg _ (List.append_nil _)), noted⟩
  · next neither =>
    cases answered
    rw [if_neg neither, if_neg neither]
    exact ⟨rfl, final.hierarchy.addAll_nil.symm⟩

private theorem seenObject_reverse (visited : List String) :
    seenObject start withObject visited.reverse = seenObject start withObject visited := by
  rw [seenObject, seenObject, Ascent.unseenObject, Ascent.unseenObject, List.contains_reverse]

private theorem seenObject_nodup (start : LoadedClass) (withObject : Bool) (visited : List String) :
    (seenObject start withObject visited).Nodup := by
  unfold seenObject Ascent.unseenObject
  split
  · split
    · exact List.nodup_nil
    · exact List.nodup_singleton _
  · exact List.nodup_nil

private theorem nodup_append_seenObject {visited : List String} (distinct : visited.Nodup) :
    (visited ++ seenObject start withObject visited).Nodup := by
  refine distinct.append (seenObject_nodup start withObject visited) ?_
  intro name member isSeen
  obtain ⟨rfl, _, _, unseen⟩ := mem_seenObject_iff.1 isSeen
  exact unseen member

section Ways

variable (climbs : Ascent.ClimbsBy look start.info.superName (.ofClass start) chain climbed)

include climbs

theorem seen_of_climbsBy : climbed.seen = (start.info.name :: chain).reverse := by
  rw [climbs.visits.seen_eq Ascent.withHiddenSuperclass_onlyHides, List.reverse_cons]
  rfl

private theorem classes_of_climbsBy : climbed.hierarchy.classes = start :: chain.filterMap look.found? :=
  climbs.visits.classes_eq Ascent.withHiddenSuperclass_onlyHides

/-- The interfaces that wait at the end of the way up are those of the class and of its
superclasses. -/
theorem queue_of_climbsBy : climbed.hierarchy.classes.flatMap (·.info.interfaces) =
    start.info.interfaces ++ look.interfacesOf chain := by
  rw [classes_of_climbsBy climbs, List.flatMap_cons]
  rfl

variable (spreads : Ascent.SpreadsBy look
  (climbed.hierarchy.classes.flatMap (·.info.interfaces)) climbed spread final)

include spreads

theorem seen_of_spreadsBy : final.seen = (start.info.name :: (chain ++ spread)).reverse := by
  rw [spreads.visits.seen_eq Ascent.withHiddenInterface_onlyHides, seen_of_climbsBy climbs,
    ← List.reverse_append, List.cons_append]

private theorem nodup_of_spreadsBy : (start.info.name :: (chain ++ spread)).Nodup := by
  have alone : (Ascent.ofClass start).seen.Nodup := List.nodup_singleton _
  have climbed_nodup := climbs.visits.nodup Ascent.withHiddenSuperclass_onlyHides alone
  have final_nodup := spreads.visits.nodup Ascent.withHiddenInterface_onlyHides climbed_nodup
  rw [seen_of_spreadsBy climbs spreads] at final_nodup
  exact List.nodup_reverse.1 final_nodup

private theorem levels_of_spreadsBy :
    spread = ((start.info.interfaces ++ look.interfacesOf (chain ++ spread)).filter
      (!(start.info.name :: chain).contains ·)).eraseDups := by
  have levels := spreads.levels
  rw [queue_of_climbsBy climbs, seen_of_climbsBy climbs, List.append_assoc] at levels
  simp only [List.contains_reverse] at levels
  rw [Look.interfacesOf, List.filterMap_append, List.flatMap_append]
  exact levels

/-- Nothing is visited but supertypes, and all of them are: so the two ways give the order. -/
theorem visitingOrder_of_ways
    (waiting : ∀ name ∈ climbed.hierarchy.classes.flatMap (·.info.interfaces),
      IsSuperinterface look start.info name)
    (superclasses : ∀ {name}, IsSuperclass look start.info name → name ∈ climbed.seen)
    (interfaces : ∀ {name}, IsSuperinterface look start.info name → name ∈ final.seen) :
    VisitingOrder look start withObject chain spread (seenObject start withObject final.seen) := by
  have distinct := nodup_of_spreadsBy climbs spreads
  obtain ⟨own_fresh, apart⟩ := List.nodup_cons.1 distinct
  have disjoint := List.disjoint_of_nodup_append apart
  have chain_superclass : ∀ name ∈ chain, IsSuperclass look start.info name :=
    climbs.isSuperclass fun _ named => .direct named
  have mem_chain_iff : ∀ name, name ∈ chain ↔
      IsSuperclass look start.info name ∧ name ≠ start.info.name := by
    intro name
    constructor
    · intro member
      refine ⟨chain_superclass name member, ?_⟩
      rintro rfl
      exact own_fresh (List.mem_append_left _ member)
    · rintro ⟨above, other⟩
      have visited := superclasses above
      rw [seen_of_climbsBy climbs, List.mem_reverse] at visited
      exact List.mem_of_ne_of_mem other visited
  have object_eq : seenObject start withObject final.seen =
      seenObject start withObject (start.info.name :: (chain ++ spread)) := by
    rw [seen_of_spreadsBy climbs spreads, seenObject_reverse]
  refine ⟨?_, fun _ => climbs.starts, climbs.linked, mem_chain_iff, ?_,
    levels_of_spreadsBy climbs spreads, object_eq⟩
  · rw [object_eq]
    exact nodup_append_seenObject distinct
  · intro name
    constructor
    · intro member
      have other : name ≠ start.info.name := by
        rintro rfl
        exact own_fresh (List.mem_append_right _ member)
      refine ⟨spreads.isSuperinterface waiting name member, fun above => ?_, other⟩
      exact disjoint ((mem_chain_iff name).2 ⟨above, other⟩) member
    · rintro ⟨above, noSuperclass, other⟩
      have visited := interfaces above
      rw [seen_of_spreadsBy climbs spreads, List.mem_reverse] at visited
      rcases List.mem_append.1 (List.mem_of_ne_of_mem other visited) with inChain | inSpread
      · exact absurd (chain_superclass name inChain) noSuperclass
      · exact inSpread

end Ways

section Notes

variable (own : start.OwnsName look withObject)

include own

private theorem ne_of_hidden {name : String} (above : IsSupertype look start.info withObject name)
    (hidden : look name = .ok .system) : name ≠ start.info.name := by
  rintro rfl
  rw [own above] at hidden
  cases hidden

/-- Of names that are those of some supertypes but for the class itself, one is hidden exactly if
one of the supertypes is. -/
theorem any_isHidden_iff {above : String → Prop}
    (mem_iff : ∀ name, name ∈ names ↔ above name ∧ name ≠ start.info.name)
    (supertype : ∀ {name}, above name → IsSupertype look start.info withObject name) :
    names.any look.isHidden = true ↔ ∃ name, above name ∧ look name = .ok .system := by
  rw [List.any_eq_true]
  constructor
  · rintro ⟨name, member, hidden⟩
    exact ⟨name, ((mem_iff name).1 member).1, Look.isHidden_iff.1 hidden⟩
  · rintro ⟨name, isAbove, hidden⟩
    have other := ne_of_hidden own (supertype isAbove) hidden
    exact ⟨name, (mem_iff name).2 ⟨isAbove, other⟩, Look.isHidden_iff.2 hidden⟩

private theorem notes_of_ways
    (declares : ∀ {name loaded}, look name = .ok (.found loaded) → loaded.info.name = name)
    (climbs : Ascent.ClimbsBy look start.info.superName (.ofClass start) chain climbed)
    (spreads : Ascent.SpreadsBy look
      (climbed.hierarchy.classes.flatMap (·.info.interfaces)) climbed spread final)
    (order : VisitingOrder look start withObject chain spread object)
    (climbsPast : climbed.hierarchy.hiddenInterface = false)
    (spreadsPast : final.hierarchy.hiddenSuperclass = climbed.hierarchy.hiddenSuperclass) :
    Notes look start chain spread object
      (final.hierarchy.addAll (object.filterMap look.found?)) := by
  have climbsHidden := climbs.visits.mark_eq Ascent.withHiddenSuperclass_marks
  have spreadsHidden := spreads.visits.mark_eq Ascent.withHiddenInterface_marks
  have classes : (final.hierarchy.addAll (object.filterMap look.found?)).classes =
      start :: (chain ++ spread ++ object).filterMap look.found? := by
    rw [addAll, spreads.visits.classes_eq Ascent.withHiddenInterface_onlyHides,
      classes_of_climbsBy climbs, List.filterMap_append, List.filterMap_append]
    rfl
  refine ⟨classes, ?_, ?_, ?_, ?_⟩
  · rw [classes, List.map_cons]
    exact order.distinct.sublist ((Look.map_name_found?_sublist declares _).cons_cons _)
  · change final.hierarchy.missing = _
    rw [spreads.visits.missing_eq Ascent.withHiddenInterface_onlyHides,
      climbs.visits.missing_eq Ascent.withHiddenSuperclass_onlyHides, List.find?_append]
    rfl
  · rw [← any_isHidden_iff own order.mem_chain_iff .superclass]
    change final.hierarchy.hiddenSuperclass = true ↔ _
    rw [spreadsPast, climbsHidden]
    rfl
  · have hidden := any_isHidden_iff own
      (fun name => (order.mem_spread_iff name).trans and_assoc.symm)
      fun above => .interface above.1
    simp only [and_assoc] at hidden
    rw [← hidden]
    change final.hierarchy.hiddenInterface = true ↔ _
    rw [spreadsHidden, climbsPast, Bool.false_or]

end Notes

/-- The hierarchy of a class visits the closure of its supertypes, in one order, and notes what it
finds there. This holds also where superclasses or interfaces form cycles; `names` are the classes
that can be found. -/
theorem of_visits_closure
    (listed : ∀ {name loaded}, look name = .ok (.found loaded) → name ∈ names)
    (declares : ∀ {name loaded}, look name = .ok (.found loaded) → loaded.info.name = name)
    (own : start.OwnsName look withObject)
    (known : ∀ {name}, IsSupertype look start.info withObject name →
      ∃ lookup, look name = .ok lookup) :
    ∃ hierarchy chain spread object,
      (Hierarchy.of names.length start withObject).answer look = .ok hierarchy ∧
      (Hierarchy.of names.length start withObject).asked look = chain ++ spread ++ object ∧
      VisitingOrder look start withObject chain spread object ∧
      (∀ name, name ∈ start.info.name :: (chain ++ spread ++ object) ↔
        name = start.info.name ∨ IsSupertype look start.info withObject name) ∧
      Notes look start chain spread object hierarchy := by
  obtain ⟨hierarchy, answered⟩ := of_answers listed known
  obtain ⟨climbed, final, queue, rfl, climb, spread, asked, rfl⟩ := of_parts answered
  have climbs := Ascent.climb_climbsBy listed (Nat.lt_succ_of_le (unvisited_le_length _ _)) climb
  have spreads := Ascent.spread_spreadsBy listed (unvisited_le_length _ _) spread
  obtain ⟨valid, followed⟩ := climb_start listed climb
  have superclasses : ∀ {name}, IsSuperclass look start.info name → name ∈ climbed.seen :=
    Ascent.mem_seen_of_superclass valid own followed
  have queued := climb_queued withObject valid
  have closed := Ascent.spread_spreads listed queued (unvisited_le_length _ _) spread
  have order : VisitingOrder look start withObject _ _ (seenObject start withObject final.seen) :=
    visitingOrder_of_ways climbs spreads queued.above superclasses
      (closed.mem_seen_of_interface own superclasses)
  have climbsPast := Ascent.hiddenInterface_of_climb (Ascent.climb_steps climb)
  have spreadsPast := (Ascent.spread_keeps spread).hiddenSuperclass
  exact ⟨_, _, _, _, answered, asked, order, order.mem_iff,
    notes_of_ways own declares climbs spreads order climbsPast spreadsPast⟩

namespace VisitingSample

def declared (name : String) (access : Access) (superName : Option String)
    (interfaces : List String) : LoadedClass :=
  ⟨(Platform.Description.mk name access superName interfaces []).info,
    ⟨.ofPath ⟨"lib.jar"⟩, name⟩⟩

def lookIn (table : List LoadedClass) : Look := fun name =>
  match table.find? (·.info.name == name) with
  | some loaded => .ok (.found loaded)
  | none => .ok (if name = "q.Hidden" then .system else .notFound)

private theorem find?_of_found {table : List LoadedClass} {name : String} {loaded : LoadedClass}
    (found : lookIn table name = .ok (.found loaded)) :
    table.find? (·.info.name == name) = some loaded := by
  unfold lookIn at found
  split at found
  · next first =>
    cases found
    exact first
  · split at found <;> cases found

private theorem declares_of_found {table : List LoadedClass} {name : String} {loaded : LoadedClass}
    (found : lookIn table name = .ok (.found loaded)) : loaded.info.name = name := by
  have same := List.find?_some (find?_of_found found)
  exact beq_iff_eq.1 same

private theorem listed_of_found {table : List LoadedClass} {name : String} {loaded : LoadedClass}
    (found : lookIn table name = .ok (.found loaded)) : name ∈ table.map (·.info.name) :=
  List.mem_map.2 ⟨loaded, List.mem_of_find?_eq_some (find?_of_found found), declares_of_found found⟩

private theorem lookIn_answers (table : List LoadedClass) (name : String) :
    ∃ lookup, lookIn table name = .ok lookup := by
  unfold lookIn
  split
  · exact ⟨_, rfl⟩
  · exact ⟨_, rfl⟩

def lower : LoadedClass := declared "p.C" Platform.classAccess (some "p.D") ["p.I"]

/-- Two classes that extend each other, and two interfaces that do. -/
def cyclic : List LoadedClass := [
  lower,
  declared "p.D" Platform.classAccess (some "p.C") ["q.Absent", "p.J"],
  declared "p.I" Platform.interfaceAccess (some objectClass) ["p.J", "q.Hidden"],
  declared "p.J" Platform.interfaceAccess (some objectClass) ["p.I", "p.D", "q.Gone"]]

/-- The cycles are passed once, and of two absent interfaces the first one is noted. -/
theorem of_visits_cycles_once :
    lower.OwnsName (lookIn cyclic) false ∧
      ∃ hierarchy chain spread object,
        (Hierarchy.of 4 lower false).answer (lookIn cyclic) = .ok hierarchy ∧
        ["p.D", "p.I", "q.Absent", "p.J", "q.Hidden", "q.Gone"] = chain ++ spread ++ object ∧
        VisitingOrder (lookIn cyclic) lower false chain spread object ∧
        Notes (lookIn cyclic) lower chain spread object hierarchy := by
  have own : lower.OwnsName (lookIn cyclic) false := fun _ => rfl
  obtain ⟨hierarchy, chain, spread, object, answered, asked, order, _, notes⟩ :=
    of_visits_closure listed_of_found declares_of_found own fun _ => lookIn_answers cyclic _
  have visited : (Hierarchy.of 4 lower false).asked (lookIn cyclic) =
      ["p.D", "p.I", "q.Absent", "p.J", "q.Hidden", "q.Gone"] := by decide
  exact ⟨own, hierarchy, chain, spread, object, answered, visited.symm.trans asked, order, notes⟩

def selfExtending : LoadedClass := declared "p.I" Platform.interfaceAccess (some "p.I") []

/-- The class that all classes extend is not noted as missing where only an interface is made to see
it. -/
theorem of_overlooks_absent_object :
    (Hierarchy.of 1 selfExtending true).asked (lookIn [selfExtending]) = [objectClass] ∧
      lookIn [selfExtending] objectClass = .ok .notFound ∧
      ∃ hierarchy, (Hierarchy.of 1 selfExtending true).answer (lookIn [selfExtending]) =
        .ok hierarchy ∧ hierarchy.missing = none :=
  ⟨by decide, rfl, ⟨[selfExtending], none, false, false⟩, rfl, rfl⟩

end VisitingSample

end Hierarchy

end Linkage
