import Linkage.Check.Inquiry

/-!
Answers to inquiries.

A loader answers an inquiry lookup by lookup, and the first lookup that fails ends it. So the answer
to inquiries in sequence is the answers in sequence, and a result shows what the parts gave. What is
visited one after another is counted by what has not been visited.
-/

set_option autoImplicit false

namespace Linkage

/-- A sequence that succeeds got its result from the value of its first part. -/
theorem bind_ok {ε α β : Type} {first : Except ε α} {next : α → Except ε β} {result : β}
    (succeeded : (first >>= next) = .ok result) :
    ∃ value, first = .ok value ∧ next value = .ok result := by
  cases first with
  | error error => cases succeeded
  | ok value => exact ⟨value, rfl, succeeded⟩

/-- A sequence that fails does so in its first part, or behind the value of it. -/
theorem bind_error {ε α β : Type} {first : Except ε α} {next : α → Except ε β} {error : ε}
    (failed : (first >>= next) = .error error) :
    first = .error error ∨ ∃ value, first = .ok value ∧ next value = .error error := by
  cases first with
  | error cause => exact .inl (congrArg _ (Except.error.inj failed))
  | ok value => exact .inr ⟨value, rfl, failed⟩

/-- A result that was changed comes from a result. -/
theorem map_ok {ε α β : Type} {first : Except ε α} {change : α → β} {result : β}
    (succeeded : first.map change = .ok result) :
    ∃ value, first = .ok value ∧ change value = result := by
  cases first with
  | error error => cases succeeded
  | ok value => exact ⟨value, rfl, Except.ok.inj succeeded⟩

/-- A result is not touched by a change of errors. -/
theorem mapError_ok {ε ε' α : Type} {first : Except ε α} {change : ε → ε'} {result : α}
    (succeeded : first.mapError change = .ok result) : first = .ok result := by
  cases first with
  | error error => cases succeeded
  | ok value => exact congrArg _ (Except.ok.inj succeeded)

/-- If all of some parts succeed, each one does, and there are no other results. -/
theorem mapM_ok {ε α β : Type} {part : α → Except ε β} {items : List α} {results : List β}
    (succeeded : items.mapM part = .ok results) :
    (∀ item ∈ items, ∃ result ∈ results, part item = .ok result) ∧
      ∀ result ∈ results, ∃ item ∈ items, part item = .ok result := by
  induction items generalizing results with
  | nil =>
    cases succeeded
    simp
  | cons item rest ih =>
    rw [List.mapM_cons] at succeeded
    obtain ⟨first, head, succeeded⟩ := bind_ok succeeded
    obtain ⟨others, tail, same⟩ := bind_ok succeeded
    cases same
    obtain ⟨forth, back⟩ := ih tail
    constructor
    · intro other member
      rcases List.mem_cons.1 member with rfl | member
      · exact ⟨first, List.mem_cons_self, head⟩
      · obtain ⟨result, included, given⟩ := forth other member
        exact ⟨result, List.mem_cons_of_mem _ included, given⟩
    · intro result member
      rcases List.mem_cons.1 member with rfl | member
      · exact ⟨item, List.mem_cons_self, head⟩
      · obtain ⟨other, included, given⟩ := back result member
        exact ⟨other, List.mem_cons_of_mem _ included, given⟩

theorem mapM_of_ok {ε α β : Type} {part : α → Except ε β} {items : List α}
    (succeeds : ∀ item ∈ items, ∃ result, part item = .ok result) :
    ∃ results, items.mapM part = .ok results := by
  induction items with
  | nil => exact ⟨[], rfl⟩
  | cons item rest ih =>
    obtain ⟨result, first⟩ := succeeds item List.mem_cons_self
    obtain ⟨results, others⟩ :=
      ih fun other member => succeeds other (List.mem_cons_of_mem _ member)
    exact ⟨result :: results, by rw [List.mapM_cons, first, others]; rfl⟩

theorem mapM_eq_map {ε α β : Type} {part : α → Except ε β} {value : α → β} {items : List α}
    (given : ∀ item ∈ items, part item = .ok (value item)) :
    items.mapM part = .ok (items.map value) := by
  induction items with
  | nil => rfl
  | cons item rest ih =>
    rw [List.mapM_cons, given item List.mem_cons_self,
      ih fun other member => given other (List.mem_cons_of_mem _ member)]
    rfl

/-- Whether an item of a list meets a condition, and all items before it pass. -/
def FirstOf {α : Type} (passes meets : α → Prop) (items : List α) (item : α) : Prop :=
  ∃ before after, items = before ++ item :: after ∧
    (∀ earlier ∈ before, passes earlier) ∧ meets item

section First

variable {ε α β : Type} {passes meets : α → Prop} {items rest : List α} {first item : α}

theorem FirstOf.mem (isFirst : FirstOf passes meets items item) : item ∈ items := by
  obtain ⟨before, after, rfl, _⟩ := isFirst
  exact List.mem_append_right _ List.mem_cons_self

theorem not_firstOf_nil : ¬ FirstOf passes meets [] item := by
  intro isFirst
  exact absurd isFirst.mem List.not_mem_nil

theorem firstOf_cons_iff : FirstOf passes meets (first :: rest) item ↔
    first = item ∧ meets item ∨ passes first ∧ FirstOf passes meets rest item := by
  constructor
  · intro isFirst
    obtain ⟨before, after, whole, earlier, met⟩ := isFirst
    cases before with
    | nil => exact .inl ⟨(List.cons.inj whole).1, met⟩
    | cons head before =>
      obtain ⟨rfl, rfl⟩ := List.cons.inj whole
      obtain ⟨passed, earlier⟩ := List.forall_mem_cons.1 earlier
      exact .inr ⟨passed, before, after, rfl, earlier, met⟩
  · intro either
    rcases either with ⟨rfl, met⟩ | ⟨passed, before, after, rfl, earlier, met⟩
    · exact ⟨[], rest, rfl, by simp, met⟩
    · exact ⟨first :: before, after, rfl, List.forall_mem_cons.2 ⟨passed, earlier⟩, met⟩

/-- Parts in sequence fail with the error of the first part that fails. -/
theorem mapM_error_iff {part : α → Except ε β} {error : ε} : items.mapM part = .error error ↔
    ∃ item, FirstOf (fun item => ∃ result, part item = .ok result)
      (fun item => part item = .error error) items item := by
  induction items with
  | nil =>
    refine iff_of_false (fun failed => by cases failed) fun failing => ?_
    obtain ⟨item, isFirst⟩ := failing
    exact not_firstOf_nil isFirst
  | cons first rest ih =>
    simp only [firstOf_cons_iff]
    rw [List.mapM_cons]
    cases given : part first with
    | error cause => simp [bind, Except.bind, given]
    | ok value =>
      have passed : ∃ result, part first = .ok result := ⟨value, given⟩
      have notHere : ∀ item, ¬ (first = item ∧ part item = .error error) := by
        rintro item ⟨rfl, failed⟩
        cases given.symm.trans failed
      rw [given] at passed
      simp only [notHere, passed, true_and, false_or, ← ih]
      cases rest.mapM part <;> simp [bind, Except.bind, pure, Except.pure]

end First

section Fold

variable {ε α β : Type} {step : β → α → Except ε β} {items : List α} {initial final : β}

/-- What every step of a fold that succeeds keeps holds at its end. -/
theorem foldlM_keeps (kept : β → Prop) (succeeded : items.foldlM step initial = .ok final)
    (start : kept initial)
    (keeps : ∀ state next, ∀ item ∈ items, step state item = .ok next → kept state → kept next) :
    kept final := by
  induction items generalizing initial with
  | nil =>
    cases succeeded
    exact start
  | cons item rest ih =>
    rw [List.foldlM_cons] at succeeded
    obtain ⟨next, first, succeeded⟩ := bind_ok succeeded
    refine ih succeeded (keeps initial next item List.mem_cons_self first start) ?_
    exact fun state next other member => keeps state next other (List.mem_cons_of_mem _ member)

/-- What the step for one item of a fold brings about, and every step keeps, holds at its end. -/
theorem foldlM_reaches (reached : β → Prop) (succeeded : items.foldlM step initial = .ok final)
    {item : α} (member : item ∈ items)
    (reaches : ∀ state next, step state item = .ok next → reached next)
    (keeps : ∀ state next other, step state other = .ok next → reached state → reached next) :
    reached final := by
  induction items generalizing initial with
  | nil => cases member
  | cons first rest ih =>
    rw [List.foldlM_cons] at succeeded
    obtain ⟨next, stepped, finished⟩ := bind_ok succeeded
    rcases List.mem_cons.1 member with rfl | member
    · exact foldlM_keeps reached finished (reaches initial next stepped) fun state next other _ =>
        keeps state next other
    · exact ih finished member

end Fold

section Unvisited

variable {α : Type}

/-- A condition that asks for more, and that some element fails, holds for fewer elements. -/
theorem countP_lt_of_mem {p q : α → Bool} (imp : ∀ a, q a = true → p a = true) {b : α}
    (holds : p b = true) (fails : q b = false) :
    ∀ {items : List α}, b ∈ items → items.countP q < items.countP p
  | a :: rest, member => by
    have inner : rest.countP q ≤ rest.countP p := List.countP_mono_left fun x _ => imp x
    simp only [List.countP_cons]
    rcases List.mem_cons.1 member with rfl | tail
    · simp only [holds, fails, if_true, Bool.false_eq_true, if_false]
      omega
    · have smaller := countP_lt_of_mem imp holds fails tail
      by_cases head : q a = true
      · simp only [head, imp a head, if_true]
        omega
      · simp only [head, Bool.false_eq_true, if_false]
        omega

/-- The number of items that have not been visited. -/
def unvisited [BEq α] (items seen : List α) : Nat := items.countP fun item => !seen.contains item

variable [BEq α]

theorem unvisited_le_length (items seen : List α) : unvisited items seen ≤ items.length :=
  List.countP_le_length

variable [LawfulBEq α]

theorem unvisited_cons_le (items seen : List α) (item : α) :
    unvisited items (item :: seen) ≤ unvisited items seen :=
  List.countP_mono_left fun other _ => by simp

theorem unvisited_cons_lt {items seen : List α} {item : α} (listed : item ∈ items)
    (unseen : item ∉ seen) : unvisited items (item :: seen) < unvisited items seen :=
  countP_lt_of_mem (fun other => by simp) (by simpa using unseen) (by simp) listed

end Unvisited

theorem toOption_eq_some_iff {ε α : Type} {result : Except ε α} {value : α} :
    result.toOption = some value ↔ result = .ok value := by
  cases result <;> simp [Except.toOption]

namespace Inquiry

variable {α β : Type} {look : String → Except CheckerError ClassLookup}

@[simp] theorem answer_pure (value : α) : (pure value : Inquiry α).answer look = .ok value := rfl

@[simp] theorem answer_ofExcept (result : Except CheckerError α) :
    (ofExcept result).answer look = result := rfl

theorem answer_lookUp_ok {className : String} {lookup : ClassLookup}
    {next : ClassLookup → Inquiry α} (known : look className = .ok lookup) :
    (lookUp className next).answer look = (next lookup).answer look := by
  simp only [answer, known]

@[simp] theorem answer_find (className : String) :
    (find className).answer look = look className := by
  cases known : look className with
  | error error => simp only [find, answer, known]
  | ok lookup =>
    simp only [find, answer, known]
    rfl

theorem answer_bind (inquiry : Inquiry α) (next : α → Inquiry β) :
    (inquiry >>= next).answer look =
      inquiry.answer look >>= fun value => (next value).answer look := by
  change (inquiry.bind next).answer look = _
  induction inquiry with
  | done result => cases result <;> rfl
  | lookUp className continue_ ih =>
    cases known : look className with
    | error error =>
      simp only [Inquiry.bind, answer, known]
      rfl
    | ok lookup =>
      simp only [Inquiry.bind, answer, known]
      exact ih lookup

/-- An answer to inquiries in sequence comes from an answer to the first one. -/
theorem answer_bind_ok {inquiry : Inquiry α} {next : α → Inquiry β} {result : β}
    (answered : (inquiry >>= next).answer look = .ok result) :
    ∃ value, inquiry.answer look = .ok value ∧ (next value).answer look = .ok result := by
  rw [answer_bind] at answered
  exact bind_ok answered

/-- The answer to inquiries in sequence when the first one has an answer. -/
theorem answer_bind_of_ok {inquiry : Inquiry α} {next : α → Inquiry β} {value : α}
    (answered : inquiry.answer look = .ok value) :
    (inquiry >>= next).answer look = (next value).answer look := by
  rw [answer_bind, answered]
  rfl

/-- A look at a class that leads to a result shows what is known of the class. -/
theorem answer_find_bind_ok {className : String} {next : ClassLookup → Inquiry β} {result : β}
    (answered : (find className >>= next).answer look = .ok result) :
    ∃ lookup, look className = .ok lookup ∧ (next lookup).answer look = .ok result := by
  obtain ⟨lookup, known, rest⟩ := answer_bind_ok answered
  exact ⟨lookup, by simpa using known, rest⟩

end Inquiry

end Linkage
