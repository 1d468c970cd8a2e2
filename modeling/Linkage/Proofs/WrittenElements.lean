import Linkage.Proofs.WrittenTokens

/-!
Written elements are read back.

What a written text adds to the element around it does not depend on what follows. So the contents
of an element are read part by part, and a document is the element that was written as its root.
-/

set_option autoImplicit false

namespace Linkage.Markup

section Elements

def Assignment.resolved (assignment : Assignment) : Attribute :=
  ⟨.plain, assignment.name, assignment.value⟩

variable {assignments : List Assignment} {scope : List Declaration}

private theorem ofAttributes?_raw (undeclaring : ∀ assignment ∈ assignments, assignment.name ≠ "xmlns") :
    Declared.ofAttributes? (assignments.map Assignment.raw) =
      some ⟨[], assignments.map Assignment.raw⟩ := by
  have added : ∀ done, (assignments.map Assignment.raw).foldlM Declared.add? ⟨[], done⟩ =
      some ⟨[], done ++ assignments.map Assignment.raw⟩ := by
    induction assignments with
    | nil => simp
    | cons assignment others ih =>
      intro done
      obtain ⟨first, follow⟩ := List.forall_mem_cons.1 undeclaring
      have sorted : Declared.add? ⟨[], done⟩ assignment.raw =
          some ⟨[], done ++ [assignment.raw]⟩ := by
        simp [Declared.add?, Assignment.raw, first]
      rw [List.map_cons, List.foldlM_cons, sorted]
      simpa using ih follow (done ++ [assignment.raw])
  exact added []

private theorem resolveAll?_raw (nodup : (assignments.map (·.name)).Nodup) :
    Attribute.resolveAll? scope (assignments.map Assignment.raw) =
      some (assignments.map Assignment.resolved) := by
  -- The attributes before have names of their own too.
  have resolved : ∀ done : List Assignment, ((done ++ assignments).map (·.name)).Nodup →
      (assignments.map Assignment.raw).foldlM (fun done raw => do
        let new ← Attribute.resolve? scope raw
        if done.any fun old => old.space == new.space && old.name == new.name then none
        else some (done ++ [new])) (done.map Assignment.resolved) =
        some ((done ++ assignments).map Assignment.resolved) := by
    clear nodup
    induction assignments with
    | nil => simp
    | cons assignment others ih =>
      intro done nodup
      have new : (done.map Assignment.resolved).any (fun old =>
          old.space == .plain && old.name == assignment.name) = false := by
        rw [List.map_append, List.nodup_append] at nodup
        simp only [List.any_map, List.any_eq_false, Function.comp_apply, Bool.and_eq_true,
          beq_iff_eq, not_and]
        intro old member _ same
        exact nodup.2.2 _ (List.mem_map_of_mem member) _ List.mem_cons_self same
      rw [List.append_cons] at nodup ⊢
      rw [← ih (done ++ [assignment]) nodup, List.map_cons, List.foldlM_cons, List.map_append]
      simp only [Attribute.resolve?, Assignment.raw, if_true, bind, Option.bind, new,
        Bool.false_eq_true, if_false]
      rfl
  exact resolved [] nodup

def openElement (scope : List Declaration) (name : String) (assignments : List Assignment) :
    OpenElement :=
  ⟨⟨"", name⟩, uriOf? scope none, assignments.map Assignment.resolved, scope, []⟩

/-- A start tag that is read back: its names are fit for names, none declares a namespace, and none
comes twice. -/
structure ReadableTag (name : String) (assignments : List Assignment) : Prop where
  isName : isLocalName name = true
  writable : ∀ assignment ∈ assignments, assignment.Writable
  undeclaring : ∀ assignment ∈ assignments, assignment.name ≠ "xmlns"
  nodup : (assignments.map (·.name)).Nodup

theorem ReadableTag.ofTag? {name : String} (readable : ReadableTag name assignments) :
    OpenElement.ofTag? scope ⟨"", name⟩ (assignments.map Assignment.raw) =
      some (openElement scope name assignments) := by
  unfold OpenElement.ofTag?
  rw [if_neg (show ¬ "" = "xmlns" by decide), ofAttributes?_raw readable.undeclaring]
  exact congrArg (Option.bind · _) (resolveAll?_raw readable.nodup)

def Content.element? : Content → Option Element
  | .element uri name attributes children => some ⟨uri, name, attributes, children⟩
  | _ => none

namespace OpenElement

def addAll (element : OpenElement) (contents : List Content) : OpenElement :=
  contents.foldl add element

theorem addAll_append (element : OpenElement) (contents more : List Content) :
    element.addAll (contents ++ more) = (element.addAll contents).addAll more := List.foldl_append

/-- Only the children change. -/
theorem addAll_eq (element : OpenElement) (contents : List Content) :
    element.addAll contents = { element with children := (element.addAll contents).children } := by
  induction contents generalizing element with
  | nil => rfl
  | cons content contents ih => exact ih (element.add content)

private theorem scope_addAll (element : OpenElement) (contents : List Content) :
    (element.addAll contents).scope = element.scope := by
  rw [addAll_eq]

private theorem tag_addAll (element : OpenElement) (contents : List Content) :
    (element.addAll contents).tag = element.tag := by
  rw [addAll_eq]

/-- A text that continues another one stays between the same elements. -/
theorem elements_add (element : OpenElement) (content : Content) :
    (element.add content).children.filterMap Content.element? =
      element.children.filterMap Content.element? ++ content.element?.toList := by
  unfold add
  split
  · next before after ends =>
    obtain ⟨front, written⟩ := List.getLast?_eq_some_iff.1 ends
    rw [written]
    simp only [List.dropLast_concat, List.filterMap_append, List.append_assoc]
    rfl
  · rw [List.filterMap_append, List.filterMap_cons]
    split <;> next found => rw [found]; rfl

private theorem elements_addAll (element : OpenElement) (contents : List Content) :
    (element.addAll contents).children.filterMap Content.element? =
      element.children.filterMap Content.element? ++ contents.filterMap Content.element? := by
  induction contents generalizing element with
  | nil => simp [addAll]
  | cons content contents ih =>
    have step : element.addAll (content :: contents) = (element.add content).addAll contents := rfl
    rw [step, ih, elements_add, List.append_assoc, List.filterMap_cons]
    cases content.element? <;> rfl

end OpenElement

/-- The element of a start tag with some contents. -/
def writtenElement (scope : List Declaration) (name : String) (assignments : List Assignment)
    (contents : List Content) : Element :=
  ⟨uriOf? scope none, name, assignments.map Assignment.resolved,
    ((openElement scope name assignments).addAll contents).children⟩

def Element.content (element : Element) : Content :=
  .element element.uri element.name element.attributes element.children

private theorem close_addAll (name : String) (contents : List Content) :
    ((openElement scope name assignments).addAll contents).close =
      (writtenElement scope name assignments contents).content := by
  rw [OpenElement.addAll_eq]
  rfl

@[simp] theorem elements_writtenElement (name : String) (contents : List Content) :
    (writtenElement scope name assignments contents).elements =
      contents.filterMap Content.element? :=
  OpenElement.elements_addAll _ contents

end Elements

section Reading

/-- Reads the rest of a document. -/
def readFrom (builder : Builder) (cs : List Char) : Option Builder :=
  (tokens? cs).bind fun tokens => tokens.foldlM Builder.next? builder

variable {name : String} {assignments : List Assignment} {scope : List Declaration}
  {blank : List Char}

private theorem readFrom_nil (builder : Builder) : readFrom builder [] = some builder := by
  rw [readFrom, tokens?]
  rfl

theorem readFrom_token {builder : Builder} {token : Token} {cs rest : List Char}
    (first : token? cs = some (token, rest)) (shorter : rest.length < cs.length) :
    readFrom builder cs = (builder.next? token).bind (readFrom · rest) := by
  have filled : cs.isEmpty = false := by
    cases cs with
    | nil => simp at shorter
    | cons _ _ => rfl
  rw [readFrom, tokens?, first, if_neg (by simp [filled])]
  simp only [if_pos shorter, readFrom]
  cases tokens? rest with
  | none => cases builder.next? token <;> rfl
  | some tokens => rfl

private theorem length_le_foldr (assignments : List Assignment) (rest : List Char) :
    rest.length ≤ (assignments.foldr Assignment.text rest).length := by
  induction assignments with
  | nil => exact Nat.le_refl _
  | cons assignment others ih =>
    simp only [List.foldr_cons, Assignment.text, Assignment.valueText, List.length_cons,
      List.length_append]
    omega

theorem readFrom_startTag (isName : isLocalName name = true)
    (writable : ∀ assignment ∈ assignments, assignment.Writable) (ended : Bool) (builder : Builder)
    (rest : List Char) :
    readFrom builder (startTag name assignments ended rest) =
      (builder.next? (.start ⟨"", name⟩ (assignments.map Assignment.raw) ended)).bind
        (readFrom · rest) := by
  refine readFrom_token (token?_startTag isName writable ended rest) ?_
  have written := length_le_foldr assignments (tagEnd ended rest)
  have ending : rest.length ≤ (tagEnd ended rest).length := by
    cases ended <;> simp only [tagEnd, Bool.false_eq_true, if_false, if_true, List.length_cons] <;>
      omega
  simp only [startTag, List.length_cons, List.length_append]
  omega

private theorem readFrom_endTag (isName : isLocalName name = true) (builder : Builder)
    (rest : List Char) :
    readFrom builder (endTag name rest) =
      (builder.next? (.finish ⟨"", name⟩)).bind (readFrom · rest) := by
  refine readFrom_token (token?_endTag isName rest) ?_
  simp only [endTag, List.length_cons, List.length_append]
  omega

theorem readFrom_text (isBlank : IsBlank blank) (filled : blank ≠ []) (builder : Builder)
    {rest : List Char} (boundary : rest.head?.all (· == '<') = true) :
    readFrom builder (blank ++ rest) = (builder.next? (.text blank)).bind (readFrom · rest) := by
  refine readFrom_token (token?_blank isBlank filled boundary) ?_
  have := List.length_pos_iff.2 filled
  rw [List.length_append]
  omega

def spaces (blank : List Char) : List Content :=
  if blank = [] then [] else [.text (String.ofList blank)]

@[simp] theorem filterMap_spaces (blank : List Char) :
    (spaces blank).filterMap Content.element? = [] := by
  unfold spaces
  split <;> rfl

private theorem readFrom_blank (isBlank : IsBlank blank) {element : OpenElement} {outer : List OpenElement}
    {rest : List Char} (boundary : rest.head? = some '<') :
    readFrom ⟨element :: outer, none⟩ (blank ++ rest) =
      readFrom ⟨element.addAll (spaces blank) :: outer, none⟩ rest := by
  unfold spaces
  split
  · next empty => rw [empty]; rfl
  · next filled =>
    rw [readFrom_text isBlank filled _ (by simp [boundary])]
    simp only [Builder.next?, List.isEmpty_cons, Bool.false_eq_true, if_false, text?_blank isBlank]
    rfl

private theorem ReadableTag.next?_start (readable : ReadableTag name assignments) {ended : Bool}
    {element : OpenElement} {outer : List OpenElement} (inScope : element.scope = scope) :
    Builder.next? ⟨element :: outer, none⟩
        (.start ⟨"", name⟩ (assignments.map Assignment.raw) ended) =
      if ended then Builder.finish? (openElement scope name assignments).close (element :: outer)
      else some ⟨openElement scope name assignments :: element :: outer, none⟩ := by
  simp only [Builder.next?, Option.isSome_none, Bool.false_eq_true, if_false, List.head?_cons,
    Option.map_some, Option.getD_some, inScope, readable.ofTag?]
  rfl

/-- What some text adds to the innermost open element, whatever follows it. A text is given with
what follows. -/
def Reads (scope : List Declaration) (text : List Char → List Char) (contents : List Content) :
    Prop :=
  ∀ (element : OpenElement) (outer : List OpenElement) (rest : List Char), element.scope = scope →
    readFrom ⟨element :: outer, none⟩ (text rest) =
      readFrom ⟨element.addAll contents :: outer, none⟩ rest

namespace Reads

variable {text next : List Char → List Char} {contents more : List Content}

theorem nothing : Reads scope (fun rest => rest) [] := fun _ _ _ _ => rfl

theorem followed (first : Reads scope text contents) (second : Reads scope next more) :
    Reads scope (fun rest => text (next rest)) (contents ++ more) := by
  intro element outer rest inScope
  rw [first element outer (next rest) inScope,
    second _ outer rest ((element.scope_addAll contents).trans inScope), OpenElement.addAll_append]

/-- White space in front of a tag. -/
theorem indented (isBlank : IsBlank blank) (starts : ∀ rest, (text rest).head? = some '<')
    (reads : Reads scope text contents) :
    Reads scope (fun rest => blank ++ text rest) (spaces blank ++ contents) := by
  intro element outer rest inScope
  rw [readFrom_blank isBlank (starts rest),
    reads _ outer rest ((element.scope_addAll _).trans inScope), OpenElement.addAll_append]

theorem ended (readable : ReadableTag name assignments) :
    Reads scope (startTag name assignments true)
      [(writtenElement scope name assignments []).content] := by
  intro element outer rest inScope
  rw [readFrom_startTag readable.isName readable.writable, readable.next?_start inScope]
  rfl

/-- The contents of an element and its end tag, with white space between them. -/
theorem finished (isName : isLocalName name = true) (isBlank : IsBlank blank)
    (inner : Reads scope text contents) (outer : List OpenElement) (rest : List Char) :
    readFrom ⟨openElement scope name assignments :: outer, none⟩
        (text (blank ++ endTag name rest)) =
      (Builder.finish? (writtenElement scope name assignments (contents ++ spaces blank)).content
        outer).bind (readFrom · rest) := by
  have kept : ((openElement scope name assignments).addAll (contents ++ spaces blank)).tag =
      ⟨"", name⟩ := OpenElement.tag_addAll _ _
  rw [inner _ _ _ rfl, readFrom_blank isBlank rfl, ← OpenElement.addAll_append,
    readFrom_endTag isName]
  simp only [Builder.next?, if_pos kept, close_addAll]

/-- The tags of an element around its contents. -/
theorem element (readable : ReadableTag name assignments) (isBlank : IsBlank blank)
    (inner : Reads scope text contents) :
    Reads scope (fun rest => startTag name assignments false (text (blank ++ endTag name rest)))
      [(writtenElement scope name assignments (contents ++ spaces blank)).content] := by
  intro element outer rest inScope
  rw [readFrom_startTag readable.isName readable.writable, readable.next?_start inScope]
  exact inner.finished readable.isName isBlank (element :: outer) rest

end Reads

/-- A root element that declares the namespace of all its contents. -/
theorem readFrom_root (isName : isLocalName name = true) {uri : String}
    (plain : ∀ c ∈ uri.toList, IsPlain c) (unreserved : uri ≠ xmlUri ∧ uri ≠ xmlnsUri)
    {text : List Char → List Char} {contents : List Content}
    (inner : Reads [⟨none, uri⟩] text contents)
    (isBlank : IsBlank blank) {trailing : List Char} (trails : IsBlank trailing) :
    readFrom ⟨[], none⟩
        (startTag name [⟨"xmlns", uri⟩] false (text (blank ++ endTag name trailing))) =
      some ⟨[], some (writtenElement [⟨none, uri⟩] name [] (contents ++ spaces blank))⟩ := by
  have writable : ∀ assignment ∈ [Assignment.mk "xmlns" uri], assignment.Writable := by
    intro assignment member
    cases List.mem_singleton.1 member
    exact ⟨show isLocalName "xmlns" = true by decide, plain⟩
  have opened : Builder.next? ⟨[], none⟩
      (.start ⟨"", name⟩ [Assignment.raw ⟨"xmlns", uri⟩] false) =
        some ⟨[openElement [⟨none, uri⟩] name []], none⟩ := by
    simp [Builder.next?, OpenElement.ofTag?, Declared.ofAttributes?, Declared.add?, Assignment.raw,
      unreserved, Attribute.resolveAll?, openElement]
  rw [readFrom_startTag isName writable, List.map_singleton, opened, Option.bind_some,
    inner.finished isName isBlank]
  by_cases empty : trailing = []
  · rw [empty]
    exact readFrom_nil _
  · have spaced : trailing.all isSpace = true := by
      refine List.all_eq_true.2 fun c member => ?_
      rcases trails c member with rfl | rfl <;> decide
    have read := readFrom_text trails empty
      ⟨[], some (writtenElement [⟨none, uri⟩] name [] (contents ++ spaces blank))⟩
      (show ([] : List Char).head?.all (· == '<') = true from rfl)
    simp only [List.append_nil, Builder.next?, List.isEmpty_nil, if_true, spaced, Option.bind_some,
      readFrom_nil] at read
    exact read

def declarationText : String := "<?xml version=\"1.0\" encoding=\"UTF-8\"?>"

theorem parse?_declared {document : String} {rest : List Char}
    (written : document.toList = declarationText.toList ++ rest) :
    parse? document = (readFrom ⟨[], none⟩ rest).bind (·.root) := by
  have declared : declaration? ("version=\"1.0\" encoding=\"UTF-8\"?>".toList ++ rest) =
      some rest := expect?_append "?>" rest
  have scanned : documentTokens? document = tokens? rest := by
    unfold documentTokens?
    rw [written]
    exact congrArg (Option.bind · tokens?) declared
  unfold parse? readFrom
  rw [scanned]
  cases tokens? rest <;> rfl

theorem parse?_undeclared {cs : List Char} (starts : cs.head? = some '<')
    (undeclared : cs[1]? ≠ some '?') :
    parse? (String.ofList cs) = (readFrom ⟨[], none⟩ cs).bind (·.root) := by
  have scanned : documentTokens? (String.ofList cs) = tokens? cs := by
    unfold documentTokens?
    rw [String.toList_ofList]
    match cs with
    | [c] =>
      cases starts
      rfl
    | c :: d :: cs =>
      cases starts
      have different : d ≠ '?' := by simpa using undeclared
      simp [expect?, Text.afterStart?, different]
  unfold parse? readFrom
  rw [scanned]
  cases tokens? cs <;> rfl

end Reading

end Linkage.Markup
