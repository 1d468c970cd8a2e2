import Linkage.Proofs.Lookup

/-!
The supertypes of a class, and the hierarchy that is computed for it.

Supertypes are defined by the names that lead to them, so that a supertype that is absent or of
which nothing is known counts as well. The classes may form cycles. A hierarchy visits every
supertype, as long as its bound is the number of classes that can be found: each class that is found
on the way is one that had not been visited.
-/

set_option autoImplicit false

namespace Linkage

/-- How classes are looked up. -/
abbrev Look : Type := String → Except CheckerError ClassLookup

/-- The superclasses of a class: the one that it names, and those that its superclasses name as far
as these can be found. -/
inductive IsSuperclass (look : Look) (start : ClassInfo) : String → Prop where
  | direct {name : String} (named : start.superName = some name) : IsSuperclass look start name
  | above {lower name : String} {loaded : LoadedClass} (below : IsSuperclass look start lower)
      (found : look lower = .ok (.found loaded)) (named : loaded.info.superName = some name) :
      IsSuperclass look start name

/-- The interfaces of a class: those that it names, that its superclasses name, and that its
interfaces name. -/
inductive IsSuperinterface (look : Look) (start : ClassInfo) : String → Prop where
  | direct {name : String} (named : name ∈ start.interfaces) : IsSuperinterface look start name
  | ofSuperclass {lower name : String} {loaded : LoadedClass}
      (below : IsSuperclass look start lower) (found : look lower = .ok (.found loaded))
      (named : name ∈ loaded.info.interfaces) : IsSuperinterface look start name
  | ofInterface {lower name : String} {loaded : LoadedClass}
      (below : IsSuperinterface look start lower) (found : look lower = .ok (.found loaded))
      (named : name ∈ loaded.info.interfaces) : IsSuperinterface look start name

/-- The supertypes of a class. If asked for, an interface also sees the class that all classes
extend. -/
inductive IsSupertype (look : Look) (start : ClassInfo) (withObject : Bool) : String → Prop where
  | superclass {name : String} (above : IsSuperclass look start name) :
      IsSupertype look start withObject name
  | interface {name : String} (above : IsSuperinterface look start name) :
      IsSupertype look start withObject name
  | object (asked : withObject = true) (isInterface : start.isInterface = true) :
      IsSupertype look start withObject objectClass

/-- All supertypes are among some names if these are closed under direct supertypes. -/
theorem IsSupertype.mem_of_closed {look : Look} {start : ClassInfo} {withObject : Bool}
    {names : List String} {name : String} (object : objectClass ∈ names)
    (direct : ∀ above ∈ start.superName.toList ++ start.interfaces, above ∈ names)
    (closed : ∀ lower ∈ names, ∀ loaded, look lower = .ok (.found loaded) →
      ∀ above ∈ loaded.info.superName.toList ++ loaded.info.interfaces, above ∈ names)
    (supertype : IsSupertype look start withObject name) : name ∈ names := by
  have superclass : ∀ {name}, IsSuperclass look start name → name ∈ names := by
    intro name above
    induction above with
    | direct named => exact direct _ (by simp [named])
    | above _ found named ih => exact closed _ ih _ found _ (by simp [named])
  cases supertype with
  | superclass above => exact superclass above
  | interface above =>
    induction above with
    | direct named => exact direct _ (List.mem_append_right _ named)
    | ofSuperclass below found named =>
      exact closed _ (superclass below) _ found _ (List.mem_append_right _ named)
    | ofInterface _ found named ih => exact closed _ ih _ found _ (List.mem_append_right _ named)
  | object _ _ => exact object

namespace Ascent

variable {look : Look} {start : LoadedClass} {above : String → Prop} {withObject : Bool}

/-- What is known of a visited name has been noted. -/
inductive Records (look : Look) (ascent : Ascent) (name : String) : Prop where
  | found {loaded : LoadedClass} (known : look name = .ok (.found loaded))
      (member : loaded ∈ ascent.hierarchy.classes) : Records look ascent name
  | hidden (known : look name = .ok .system) (noted : ascent.hierarchy.isHidden = true) :
      Records look ascent name
  | missing (known : look name = .ok .notFound) (noted : ascent.hierarchy.missing.isSome = true) :
      Records look ascent name

/-- What has been noted stays noted while more is added. -/
theorem Records.mono {ascent later : Ascent} {name : String} (records : ascent.Records look name)
    (classes : ascent.hierarchy.classes ⊆ later.hierarchy.classes)
    (hidden : ascent.hierarchy.isHidden = true → later.hierarchy.isHidden = true)
    (missing : ascent.hierarchy.missing.isSome = true → later.hierarchy.missing.isSome = true) :
    later.Records look name := by
  cases records with
  | found known member => exact .found known (classes member)
  | hidden known noted => exact .hidden known (hidden noted)
  | missing known noted => exact .missing known (missing noted)

theorem Records.found_mem {ascent : Ascent} {name : String} {loaded : LoadedClass}
    (records : ascent.Records look name) (known : look name = .ok (.found loaded)) :
    loaded ∈ ascent.hierarchy.classes := by
  cases records <;> simp_all

theorem Records.isHidden {ascent : Ascent} {name : String} (records : ascent.Records look name)
    (known : look name = .ok .system) : ascent.hierarchy.isHidden = true := by
  cases records <;> simp_all

private theorem Records.missing_isSome {ascent : Ascent} {name : String}
    (records : ascent.Records look name) (known : look name = .ok .notFound) :
    ascent.hierarchy.missing.isSome = true := by
  cases records <;> simp_all

/-- All that an ascent has noted stands above its class, and it has noted every name that it has
visited apart from the one that the class itself declares. -/
structure Valid (look : Look) (start : LoadedClass) (above : String → Prop) (ascent : Ascent) :
    Prop where
  starts : ∃ rest, ascent.hierarchy.classes = start :: rest
  classes : ∀ loaded ∈ ascent.hierarchy.classes, loaded = start ∨
    ∃ name, above name ∧ look name = .ok (.found loaded)
  missing : ∀ name, ascent.hierarchy.missing = some name →
    above name ∧ look name = .ok .notFound
  hidden : ascent.hierarchy.isHidden = true →
    ∃ name, above name ∧ look name = .ok .system
  recorded : ∀ name ∈ ascent.seen, name = start.info.name ∨ ascent.Records look name

theorem Valid.start_mem {ascent : Ascent} (valid : ascent.Valid look start above) :
    start ∈ ascent.hierarchy.classes := by
  obtain ⟨rest, same⟩ := valid.starts
  rw [same]
  exact List.mem_cons_self

private theorem ofClass_valid (look : Look) (start : LoadedClass) (above : String → Prop) :
    (ofClass start).Valid look start above where
  starts := ⟨[], rfl⟩
  classes := fun loaded member => .inl (List.mem_singleton.1 member)
  missing := fun name same => by cases same
  hidden := fun noted => by cases noted
  recorded := fun name member => .inl (List.mem_singleton.1 member)

theorem Valid.mono {ascent : Ascent} {higher : String → Prop}
    (valid : ascent.Valid look start above) (wider : ∀ {name}, above name → higher name) :
    ascent.Valid look start higher where
  starts := valid.starts
  classes := by
    intro loaded member
    rcases valid.classes loaded member with same | ⟨name, isAbove, known⟩
    · exact .inl same
    · exact .inr ⟨name, wider isAbove, known⟩
  missing := by
    intro name same
    obtain ⟨isAbove, known⟩ := valid.missing name same
    exact ⟨wider isAbove, known⟩
  hidden := by
    intro noted
    obtain ⟨name, isAbove, known⟩ := valid.hidden noted
    exact ⟨name, wider isAbove, known⟩
  recorded := valid.recorded

theorem Valid.recorded_cons {ascent later : Ascent} {name : String}
    (valid : ascent.Valid look start above) (records : later.Records look name)
    (classes : ascent.hierarchy.classes ⊆ later.hierarchy.classes)
    (hidden : ascent.hierarchy.isHidden = true → later.hierarchy.isHidden = true)
    (missing : ascent.hierarchy.missing.isSome = true → later.hierarchy.missing.isSome = true) :
    ∀ other ∈ name :: ascent.seen, other = start.info.name ∨ later.Records look other := by
  intro other member
  rcases List.mem_cons.1 member with rfl | old
  · exact .inr records
  · rcases valid.recorded other old with own | earlier
    · exact .inl own
    · exact .inr (earlier.mono classes hidden missing)

theorem Valid.withFound {ascent : Ascent} {name : String} {loaded : LoadedClass}
    (valid : ascent.Valid look start above) (isAbove : above name)
    (known : look name = .ok (.found loaded)) :
    (ascent.withFound name loaded).Valid look start above where
  starts := by
    obtain ⟨rest, same⟩ := valid.starts
    exact ⟨rest ++ [loaded], by simp [Ascent.withFound, Hierarchy.add, same]⟩
  classes := by
    intro other member
    rcases List.mem_append.1 member with old | new
    · exact valid.classes other old
    · rw [List.mem_singleton.1 new]
      exact .inr ⟨name, isAbove, known⟩
  missing := valid.missing
  hidden := valid.hidden
  recorded := valid.recorded_cons
    (.found known (List.mem_append_right _ List.mem_cons_self)) (List.subset_append_left _ _) id id

theorem Valid.withHiddenSuperclass {ascent : Ascent} {name : String}
    (valid : ascent.Valid look start above) (isAbove : above name)
    (known : look name = .ok .system) :
    (ascent.withHiddenSuperclass name).Valid look start above where
  starts := valid.starts
  classes := valid.classes
  missing := valid.missing
  hidden := fun _ => ⟨name, isAbove, known⟩
  recorded := valid.recorded_cons (.hidden known rfl) (List.Subset.refl _) (fun _ => rfl) id

theorem Valid.withHiddenInterface {ascent : Ascent} {name : String}
    (valid : ascent.Valid look start above) (isAbove : above name)
    (known : look name = .ok .system) :
    (ascent.withHiddenInterface name).Valid look start above where
  starts := valid.starts
  classes := valid.classes
  missing := valid.missing
  hidden := fun _ => ⟨name, isAbove, known⟩
  recorded := by
    have noted : (ascent.withHiddenInterface name).hierarchy.isHidden = true := Bool.or_true _
    exact valid.recorded_cons (.hidden known noted) (List.Subset.refl _) (fun _ => noted) id

theorem Valid.withMissing {ascent : Ascent} {name : String}
    (valid : ascent.Valid look start above) (isAbove : above name)
    (known : look name = .ok .notFound) :
    (ascent.withMissing name).Valid look start above where
  starts := valid.starts
  classes := valid.classes
  missing := by
    intro other same
    rcases Option.or_eq_some_iff.1 same with old | ⟨_, new⟩
    · exact valid.missing other old
    · cases new
      exact ⟨isAbove, known⟩
  hidden := valid.hidden
  recorded := by
    have noted : (ascent.withMissing name).hierarchy.missing.isSome = true := by
      simp [Ascent.withMissing]
    exact valid.recorded_cons (.missing known noted) (List.Subset.refl _) id (fun _ => noted)

/-- A visited name that leads to a class has it noted. The name that the class itself declares must
lead back to the class. -/
theorem Valid.found_mem {ascent : Ascent} {name : String} {loaded : LoadedClass}
    (valid : ascent.Valid look start above) (visited : name ∈ ascent.seen)
    (own : name = start.info.name → look name = .ok (.found start))
    (known : look name = .ok (.found loaded)) : loaded ∈ ascent.hierarchy.classes := by
  rcases valid.recorded name visited with isOwn | records
  · rw [own isOwn] at known
    cases known
    exact valid.start_mem
  · exact records.found_mem known

private theorem climb_valid {names : List String}
    (listed : ∀ {name loaded}, look name = .ok (.found loaded) → name ∈ names)
    {steps : Nat} {next : Option String} {ascent final : Ascent}
    (valid : ascent.Valid look start (IsSuperclass look start.info))
    (above : ∀ name, next = some name → IsSuperclass look start.info name)
    (followed : ∀ loaded ∈ ascent.hierarchy.classes, ∀ name, loaded.info.superName = some name →
      name ∈ ascent.seen ∨ next = some name)
    (enough : unvisited names ascent.seen < steps)
    (answered : (climb steps next ascent).answer look = .ok final) :
    final.Valid look start (IsSuperclass look start.info) ∧
      ∀ loaded ∈ final.hierarchy.classes, ∀ name, loaded.info.superName = some name →
        name ∈ final.seen := by
  induction steps generalizing next ascent with
  | zero => exact absurd enough (Nat.not_lt_zero _)
  | succ steps ih =>
    cases next with
    | none =>
      cases answered
      refine ⟨valid, fun loaded member name named => ?_⟩
      exact (followed loaded member name named).resolve_right (by simp)
    | some name =>
      have isSuperclass := above name rfl
      -- Only the class that is found on this step can name another superclass.
      have reached : ∀ loaded ∈ ascent.hierarchy.classes, ∀ other,
          loaded.info.superName = some other → other ∈ name :: ascent.seen := by
        intro loaded member other named
        rcases followed loaded member other named with seen | same
        · exact List.mem_cons_of_mem _ seen
        · cases same
          exact List.mem_cons_self
      simp only [climb] at answered
      split at answered
      · next visited =>
        cases answered
        refine ⟨valid, fun loaded member other named => ?_⟩
        rcases List.mem_cons.1 (reached loaded member other named) with rfl | seen
        · exact List.contains_iff_mem.1 visited
        · exact seen
      · next fresh =>
        have unseen : name ∉ ascent.seen := fun seen => fresh (List.contains_iff_mem.2 seen)
        obtain ⟨lookup, known, answered⟩ := Inquiry.answer_find_bind_ok answered
        cases lookup with
        | found loaded =>
          have fewer := unvisited_cons_lt (listed known) unseen
          refine ih (valid.withFound isSuperclass known) ?_ ?_ ?_ answered
          · intro other named
            exact .above isSuperclass known named
          · intro other member higher named
            rcases List.mem_append.1 member with old | new
            · exact .inl (reached other old higher named)
            · rw [List.mem_singleton.1 new] at named
              exact .inr named
          · simp only [withFound]
            omega
        | system =>
          cases answered
          exact ⟨valid.withHiddenSuperclass isSuperclass known, reached⟩
        | notFound =>
          cases answered
          exact ⟨valid.withMissing isSuperclass known, reached⟩

/-- An ascent whose queue holds the interfaces that are still to be visited. -/
structure Queued (look : Look) (start : LoadedClass) (withObject : Bool) (queue : List String)
    (ascent : Ascent) : Prop where
  valid : ascent.Valid look start (IsSupertype look start.info withObject)
  above : ∀ name ∈ queue, IsSuperinterface look start.info name
  followed : ∀ loaded ∈ ascent.hierarchy.classes, ∀ name ∈ loaded.info.interfaces,
    name ∈ ascent.seen ∨ name ∈ queue

/-- The first name of a queue has been visited, and everything else is as before. -/
theorem Queued.visited {name : String} {rest : List String} {ascent later : Ascent}
    (queued : Queued look start withObject (name :: rest) ascent)
    (valid : later.Valid look start (IsSupertype look start.info withObject))
    (classes : later.hierarchy.classes = ascent.hierarchy.classes)
    (visited : name ∈ later.seen) (seen : ascent.seen ⊆ later.seen) :
    Queued look start withObject rest later where
  valid := valid
  above := fun other member => queued.above other (List.mem_cons_of_mem _ member)
  followed := by
    intro loaded member other named
    rw [classes] at member
    rcases queued.followed loaded member other named with old | waiting
    · exact .inl (seen old)
    · rcases List.mem_cons.1 waiting with rfl | behind
      · exact .inl visited
      · exact .inr behind

theorem Queued.found {name : String} {rest : List String} {ascent : Ascent} {loaded : LoadedClass}
    (queued : Queued look start withObject (name :: rest) ascent)
    (known : look name = .ok (.found loaded)) :
    Queued look start withObject (rest ++ loaded.info.interfaces)
      (ascent.withFound name loaded) where
  valid := queued.valid.withFound (.interface (queued.above name List.mem_cons_self)) known
  above := by
    intro other member
    rcases List.mem_append.1 member with waiting | new
    · exact queued.above other (List.mem_cons_of_mem _ waiting)
    · exact .ofInterface (queued.above name List.mem_cons_self) known new
  followed := by
    intro other member higher named
    rcases List.mem_append.1 member with old | new
    · rcases queued.followed other old higher named with seen | waiting
      · exact .inl (List.mem_cons_of_mem _ seen)
      · rcases List.mem_cons.1 waiting with rfl | behind
        · exact .inl List.mem_cons_self
        · exact .inr (List.mem_append_left _ behind)
    · rw [List.mem_singleton.1 new] at named
      exact .inr (List.mem_append_right _ named)

/-- All interfaces have been visited, and nothing was lost on the way. -/
structure Spreads (look : Look) (start : LoadedClass) (withObject : Bool) (ascent final : Ascent) :
    Prop where
  queued : Queued look start withObject [] final
  classes : ascent.hierarchy.classes ⊆ final.hierarchy.classes
  seen : ascent.seen ⊆ final.seen

theorem Spreads.of_later {ascent later final : Ascent}
    (spreads : Spreads look start withObject later final)
    (classes : ascent.hierarchy.classes ⊆ later.hierarchy.classes)
    (seen : ascent.seen ⊆ later.seen) : Spreads look start withObject ascent final where
  queued := spreads.queued
  classes := List.Subset.trans classes spreads.classes
  seen := List.Subset.trans seen spreads.seen

private theorem spreadTo_spreads {names : List String}
    (listed : ∀ {name loaded}, look name = .ok (.found loaded) → name ∈ names)
    {onFound : List String → Ascent → Inquiry Ascent} {more : Nat} {final : Ascent}
    (goesOn : ∀ {queue ascent}, Queued look start withObject queue ascent →
      unvisited names ascent.seen < more → (onFound queue ascent).answer look = .ok final →
      Spreads look start withObject ascent final)
    {queue : List String} {ascent : Ascent} (queued : Queued look start withObject queue ascent)
    (enough : unvisited names ascent.seen ≤ more)
    (answered : (spreadTo onFound queue ascent).answer look = .ok final) :
    Spreads look start withObject ascent final := by
  induction queue generalizing ascent with
  | nil =>
    cases answered
    exact ⟨queued, List.Subset.refl _, List.Subset.refl _⟩
  | cons name rest ih =>
    have isInterface := queued.above name List.mem_cons_self
    have seenLater : ascent.seen ⊆ name :: ascent.seen := List.subset_cons_self _ _
    have fewer := unvisited_cons_le names ascent.seen name
    simp only [spreadTo] at answered
    split at answered
    · next visited =>
      exact ih (queued.visited queued.valid rfl (List.contains_iff_mem.1 visited)
        (List.Subset.refl _)) enough answered
    · next fresh =>
      have unseen : name ∉ ascent.seen := fun seen => fresh (List.contains_iff_mem.2 seen)
      cases known : look name with
      | error error => simp [Inquiry.answer, known] at answered
      | ok lookup =>
        rw [Inquiry.answer_lookUp_ok known] at answered
        cases lookup with
        | found loaded =>
          have found := unvisited_cons_lt (listed known) unseen
          exact (goesOn (queued.found known) (by simp only [withFound]; omega) answered).of_later
            (List.subset_append_left _ _) seenLater
        | system =>
          have valid := queued.valid.withHiddenInterface (.interface isInterface) known
          have later := queued.visited valid rfl List.mem_cons_self seenLater
          have spreads := ih later (Nat.le_trans fewer enough) answered
          exact spreads.of_later (List.Subset.refl _) seenLater
        | notFound =>
          have valid := queued.valid.withMissing (.interface isInterface) known
          have later := queued.visited valid rfl List.mem_cons_self seenLater
          have spreads := ih later (Nat.le_trans fewer enough) answered
          exact spreads.of_later (List.Subset.refl _) seenLater

/-- The bound of a spread suffices, since each interface that is found is one less that can be. -/
theorem spread_spreads {names : List String}
    (listed : ∀ {name loaded}, look name = .ok (.found loaded) → name ∈ names)
    {more : Nat} {queue : List String} {ascent final : Ascent}
    (queued : Queued look start withObject queue ascent)
    (enough : unvisited names ascent.seen ≤ more)
    (answered : (spread more queue ascent).answer look = .ok final) :
    Spreads look start withObject ascent final := by
  induction more generalizing queue ascent with
  | zero =>
    refine spreadTo_spreads listed ?_ queued enough answered
    intro _ _ _ none _
    exact absurd none (Nat.not_lt_zero _)
  | succ more ih =>
    refine spreadTo_spreads listed ?_ queued enough answered
    intro _ _ later fewer found
    exact ih later (Nat.le_of_lt_succ fewer) found

/-- Before interfaces are visited, all superclasses have been. -/
theorem mem_seen_of_superclass {ascent : Ascent} {name : String}
    (valid : ascent.Valid look start (IsSuperclass look start.info))
    (own : IsSupertype look start.info withObject start.info.name →
      look start.info.name = .ok (.found start))
    (followed : ∀ loaded ∈ ascent.hierarchy.classes, ∀ name, loaded.info.superName = some name →
      name ∈ ascent.seen)
    (above : IsSuperclass look start.info name) : name ∈ ascent.seen := by
  induction above with
  | direct named => exact followed start valid.start_mem _ named
  | above below found named visited =>
    refine followed _ (valid.found_mem visited ?_ found) _ named
    intro isOwn
    subst isOwn
    exact own (.superclass below)

theorem Spreads.mem_seen_of_interface {climbed final : Ascent} {name : String}
    (spreads : Spreads look start withObject climbed final)
    (own : IsSupertype look start.info withObject start.info.name →
      look start.info.name = .ok (.found start))
    (superclasses : ∀ {name}, IsSuperclass look start.info name → name ∈ climbed.seen)
    (above : IsSuperinterface look start.info name) : name ∈ final.seen := by
  have valid := spreads.queued.valid
  have followed : ∀ loaded ∈ final.hierarchy.classes, ∀ name ∈ loaded.info.interfaces,
      name ∈ final.seen := by
    intro loaded member name named
    exact (spreads.queued.followed loaded member name named).resolve_right List.not_mem_nil
  induction above with
  | direct named => exact followed start valid.start_mem _ named
  | ofSuperclass below found named =>
    refine followed _ (valid.found_mem (spreads.seen (superclasses below)) ?_ found) _ named
    intro isOwn
    subst isOwn
    exact own (.superclass below)
  | ofInterface below found named visited =>
    refine followed _ (valid.found_mem visited ?_ found) _ named
    intro isOwn
    subst isOwn
    exact own (.interface below)

private theorem climb_answers
    (known : ∀ {name}, IsSuperclass look start.info name → ∃ lookup, look name = .ok lookup)
    (steps : Nat) {next : Option String} (ascent : Ascent)
    (above : ∀ name, next = some name → IsSuperclass look start.info name) :
    ∃ final, (climb steps next ascent).answer look = .ok final := by
  induction steps generalizing next ascent with
  | zero => exact ⟨ascent, rfl⟩
  | succ steps ih =>
    cases next with
    | none => exact ⟨ascent, rfl⟩
    | some name =>
      have isSuperclass := above name rfl
      obtain ⟨lookup, isKnown⟩ := known isSuperclass
      simp only [climb]
      split
      · exact ⟨ascent, rfl⟩
      · rw [Inquiry.answer_bind_of_ok ((Inquiry.answer_find name).trans isKnown)]
        cases lookup with
        | found loaded => exact ih _ fun higher named => .above isSuperclass isKnown named
        | system => exact ⟨_, rfl⟩
        | notFound => exact ⟨_, rfl⟩

private theorem spreadTo_answers
    (known : ∀ {name}, IsSuperinterface look start.info name → ∃ lookup, look name = .ok lookup)
    {onFound : List String → Ascent → Inquiry Ascent}
    (goesOn : ∀ {queue} ascent, (∀ name ∈ queue, IsSuperinterface look start.info name) →
      ∃ final, (onFound queue ascent).answer look = .ok final)
    {queue : List String} (ascent : Ascent)
    (above : ∀ name ∈ queue, IsSuperinterface look start.info name) :
    ∃ final, (spreadTo onFound queue ascent).answer look = .ok final := by
  induction queue generalizing ascent with
  | nil => exact ⟨ascent, rfl⟩
  | cons name rest ih =>
    obtain ⟨isInterface, others⟩ := List.forall_mem_cons.1 above
    obtain ⟨lookup, isKnown⟩ := known isInterface
    simp only [spreadTo]
    split
    · exact ih _ others
    · rw [Inquiry.answer_lookUp_ok isKnown]
      cases lookup with
      | found loaded =>
        apply goesOn
        intro other member
        rcases List.mem_append.1 member with waiting | new
        · exact others other waiting
        · exact .ofInterface isInterface isKnown new
      | system => exact ih _ others
      | notFound => exact ih _ others

private theorem spread_answers
    (known : ∀ {name}, IsSuperinterface look start.info name → ∃ lookup, look name = .ok lookup)
    (more : Nat) {queue : List String} (ascent : Ascent)
    (above : ∀ name ∈ queue, IsSuperinterface look start.info name) :
    ∃ final, (spread more queue ascent).answer look = .ok final := by
  induction more generalizing queue ascent with
  | zero => exact spreadTo_answers known (fun _ _ => ⟨_, rfl⟩) ascent above
  | succ more ih => exact spreadTo_answers known ih ascent above

private theorem seeObject_answers (ascent : Ascent) (known : ∃ lookup, look objectClass = .ok lookup) :
    ∃ final, ascent.seeObject.answer look = .ok final := by
  obtain ⟨lookup, isKnown⟩ := known
  unfold seeObject
  split
  · exact ⟨ascent, rfl⟩
  · rw [Inquiry.answer_bind_of_ok ((Inquiry.answer_find objectClass).trans isKnown)]
    cases lookup <;> exact ⟨_, rfl⟩

private theorem seeObject_missing {ascent final : Ascent}
    (answered : ascent.seeObject.answer look = .ok final) :
    final.hierarchy.missing = ascent.hierarchy.missing := by
  unfold seeObject at answered
  split at answered
  · cases answered
    rfl
  · obtain ⟨lookup, _, answered⟩ := Inquiry.answer_find_bind_ok answered
    cases lookup <;> cases answered <;> rfl

end Ascent

namespace Hierarchy

variable {look : Look} {start : LoadedClass} {withObject : Bool}

/-- A hierarchy that lists the class and those of its supertypes that can be found, and notes
whether there are others. An interface may miss the class that all classes extend. -/
structure Describes (look : Look) (start : LoadedClass) (withObject : Bool)
    (hierarchy : Hierarchy) : Prop where
  starts : ∃ rest, hierarchy.classes = start :: rest
  sound : ∀ loaded ∈ hierarchy.classes, loaded = start ∨
    ∃ name, IsSupertype look start.info withObject name ∧ look name = .ok (.found loaded)
  complete : ∀ {name loaded}, IsSupertype look start.info withObject name →
    look name = .ok (.found loaded) → loaded ∈ hierarchy.classes
  missing_sound : ∀ name, hierarchy.missing = some name →
    IsSupertype look start.info withObject name ∧ look name = .ok .notFound
  missing_complete : ∀ {name}, IsSupertype look start.info false name →
    look name = .ok .notFound → hierarchy.missing.isSome = true
  hidden_sound : hierarchy.isHidden = true →
    ∃ name, IsSupertype look start.info withObject name ∧ look name = .ok .system
  hidden_complete : ∀ {name}, IsSupertype look start.info false name →
    look name = .ok .system → hierarchy.isHidden = true

theorem describes_of_visited {ascent : Ascent}
    (valid : ascent.Valid look start (IsSupertype look start.info withObject))
    (own : IsSupertype look start.info withObject start.info.name →
      look start.info.name = .ok (.found start))
    (visited : ∀ {name}, IsSupertype look start.info false name → name ∈ ascent.seen)
    (object : ∀ {loaded}, withObject = true → start.info.isInterface = true →
      look objectClass = .ok (.found loaded) → loaded ∈ ascent.hierarchy.classes) :
    Describes look start withObject ascent.hierarchy := by
  have widen : ∀ {name}, IsSupertype look start.info false name →
      IsSupertype look start.info withObject name := by
    intro name above
    cases above with
    | superclass above => exact .superclass above
    | interface above => exact .interface above
    | object asked _ => cases asked
  have found : ∀ {name loaded}, IsSupertype look start.info false name →
      look name = .ok (.found loaded) → loaded ∈ ascent.hierarchy.classes := by
    intro name loaded above known
    refine valid.found_mem (visited above) ?_ known
    intro isOwn
    subst isOwn
    exact own (widen above)
  -- A visited name that is not found is not the one that leads back to the class.
  have records : ∀ {name}, IsSupertype look start.info false name →
      ascent.Records look name ∨ look name = .ok (.found start) := by
    intro name above
    rcases valid.recorded name (visited above) with isOwn | records
    · subst isOwn
      exact .inr (own (widen above))
    · exact .inl records
  constructor
  · exact valid.starts
  · exact valid.classes
  · intro name loaded above known
    cases above with
    | superclass above => exact found (.superclass above) known
    | interface above => exact found (.interface above) known
    | object asked isInterface => exact object asked isInterface known
  · exact valid.missing
  · intro name above known
    rcases records above with noted | isOwn
    · exact noted.missing_isSome known
    · rw [known] at isOwn
      cases isOwn
  · exact valid.hidden
  · intro name above known
    rcases records above with noted | isOwn
    · exact noted.isHidden known
    · rw [known] at isOwn
      cases isOwn

private theorem seeObject_describes {ascent final : Ascent}
    (valid : ascent.Valid look start (IsSupertype look start.info withObject))
    (own : IsSupertype look start.info withObject start.info.name →
      look start.info.name = .ok (.found start))
    (visited : ∀ {name}, IsSupertype look start.info false name → name ∈ ascent.seen)
    (asked : withObject = true) (isInterface : start.info.isInterface = true)
    (answered : ascent.seeObject.answer look = .ok final) :
    Describes look start withObject final.hierarchy := by
  have unchanged : (∀ {loaded}, look objectClass = .ok (.found loaded) →
      loaded ∈ ascent.hierarchy.classes) → Describes look start withObject ascent.hierarchy :=
    fun object => describes_of_visited valid own visited fun _ _ => object
  unfold Ascent.seeObject at answered
  split at answered
  · next before =>
    cases answered
    apply unchanged
    intro loaded known
    refine valid.found_mem (List.contains_iff_mem.1 before) ?_ known
    intro isOwn
    rw [isOwn]
    exact own (isOwn ▸ .object asked isInterface)
  · obtain ⟨lookup, known, answered⟩ := Inquiry.answer_find_bind_ok answered
    cases lookup with
    | found loaded =>
      cases answered
      refine describes_of_visited (valid.withFound (.object asked isInterface) known) own
        (fun above => List.mem_cons_of_mem _ (visited above)) ?_
      intro other _ _ same
      rw [known] at same
      cases same
      exact List.mem_append_right _ List.mem_cons_self
    | system =>
      cases answered
      exact unchanged fun same => by rw [known] at same; cases same
    | notFound =>
      cases answered
      exact unchanged fun same => by rw [known] at same; cases same

theorem climb_start {names : List String}
    (listed : ∀ {name loaded}, look name = .ok (.found loaded) → name ∈ names) {climbed : Ascent}
    (answered : (Ascent.climb (names.length + 1) start.info.superName (.ofClass start)).answer
      look = .ok climbed) :
    climbed.Valid look start (IsSuperclass look start.info) ∧
      ∀ loaded ∈ climbed.hierarchy.classes, ∀ name, loaded.info.superName = some name →
        name ∈ climbed.seen := by
  refine Ascent.climb_valid listed (Ascent.ofClass_valid look start _)
    (fun _ named => .direct named) ?_ (Nat.lt_succ_of_le (unvisited_le_length _ _)) answered
  intro loaded member name named
  rw [List.mem_singleton.1 member] at named
  exact .inr named

/-- The superclasses of a class have been visited, and their interfaces wait to be. -/
theorem climb_queued (withObject : Bool) {climbed : Ascent}
    (valid : climbed.Valid look start (IsSuperclass look start.info)) :
    Ascent.Queued look start withObject
      (climbed.hierarchy.classes.flatMap (·.info.interfaces)) climbed := by
  refine ⟨valid.mono .superclass, ?_, ?_⟩
  · intro name member
    obtain ⟨loaded, inClasses, named⟩ := List.mem_flatMap.1 member
    rcases valid.classes loaded inClasses with rfl | ⟨lower, below, known⟩
    · exact .direct named
    · exact .ofSuperclass below known named
  · intro loaded member name named
    exact .inr (List.mem_flatMap.2 ⟨loaded, member, named⟩)

/-- A supertype that is said to be missing is not found, whatever names the classes declare. -/
theorem of_missing {names : List String}
    (listed : ∀ {name loaded}, look name = .ok (.found loaded) → name ∈ names)
    {hierarchy : Hierarchy} {name : String}
    (answered : (Hierarchy.of names.length start withObject).answer look = .ok hierarchy)
    (missing : hierarchy.missing = some name) : look name = .ok .notFound := by
  obtain ⟨climbed, climb, answered⟩ := Inquiry.answer_bind_ok answered
  obtain ⟨final, spread, answered⟩ := Inquiry.answer_bind_ok answered
  have queued := climb_queued withObject (climb_start listed climb).1
  have spreads := Ascent.spread_spreads listed queued (unvisited_le_length _ _) spread
  have same : hierarchy.missing = final.hierarchy.missing := by
    split at answered
    · obtain ⟨seen, seesObject, answered⟩ := Inquiry.answer_bind_ok answered
      cases answered
      exact Ascent.seeObject_missing seesObject
    · cases answered
      rfl
  exact (spreads.queued.valid.missing name (same.symm.trans missing)).2

/-- The hierarchy of a class describes its supertypes, where `names` are the classes that can be
found. A supertype that goes by the name that the class declares must be the class. -/
theorem of_describes {names : List String}
    (listed : ∀ {name loaded}, look name = .ok (.found loaded) → name ∈ names)
    (own : IsSupertype look start.info withObject start.info.name →
      look start.info.name = .ok (.found start))
    {hierarchy : Hierarchy}
    (answered : (Hierarchy.of names.length start withObject).answer look = .ok hierarchy) :
    Describes look start withObject hierarchy := by
  obtain ⟨climbed, climb, answered⟩ := Inquiry.answer_bind_ok answered
  obtain ⟨final, spread, answered⟩ := Inquiry.answer_bind_ok answered
  obtain ⟨valid, followed⟩ := climb_start listed climb
  have superclasses : ∀ {name}, IsSuperclass look start.info name → name ∈ climbed.seen :=
    Ascent.mem_seen_of_superclass valid own followed
  have spreads := Ascent.spread_spreads listed (climb_queued withObject valid)
    (unvisited_le_length _ _) spread
  have visited : ∀ {name}, IsSupertype look start.info false name → name ∈ final.seen := by
    intro name above
    cases above with
    | superclass above => exact spreads.seen (superclasses above)
    | interface above => exact spreads.mem_seen_of_interface own superclasses above
    | object asked _ => cases asked
  split at answered
  · next both =>
    obtain ⟨asked, isInterface⟩ := Bool.and_eq_true_iff.1 both
    obtain ⟨seen, seesObject, answered⟩ := Inquiry.answer_bind_ok answered
    cases answered
    exact seeObject_describes spreads.queued.valid own visited asked isInterface seesObject
  · next neither =>
    cases answered
    refine describes_of_visited spreads.queued.valid own visited ?_
    intro loaded asked isInterface _
    exact absurd (Bool.and_eq_true_iff.2 ⟨asked, isInterface⟩) neither

/-- The hierarchy of a class is computed if all of its supertypes can be looked up. -/
theorem of_answers {names : List String}
    (listed : ∀ {name loaded}, look name = .ok (.found loaded) → name ∈ names)
    (known : ∀ {name}, IsSupertype look start.info withObject name →
      ∃ lookup, look name = .ok lookup) :
    ∃ hierarchy, (Hierarchy.of names.length start withObject).answer look = .ok hierarchy := by
  obtain ⟨climbed, climb⟩ := Ascent.climb_answers (fun above => known (.superclass above))
    (names.length + 1) (.ofClass start) (fun _ named => .direct named)
  have queued := climb_queued withObject (climb_start listed climb).1
  obtain ⟨final, spread⟩ := Ascent.spread_answers (fun above => known (.interface above))
    names.length climbed queued.above
  unfold Hierarchy.of
  rw [Inquiry.answer_bind_of_ok climb]
  rw [Inquiry.answer_bind_of_ok spread]
  split
  · next both =>
    obtain ⟨asked, isInterface⟩ := Bool.and_eq_true_iff.1 both
    obtain ⟨seen, seesObject⟩ := Ascent.seeObject_answers final (known (.object asked isInterface))
    rw [Inquiry.answer_bind_of_ok seesObject]
    exact ⟨_, rfl⟩
  · exact ⟨_, rfl⟩

end Hierarchy

end Linkage
