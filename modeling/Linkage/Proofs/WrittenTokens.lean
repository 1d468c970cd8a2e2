import Linkage.Exclusion.Writer

/-!
Written tags are read back as tokens.

Tags with escaped attribute values, and white space between tags, are written in one way only. Each
scanner gives the names and values that were written, and leaves what follows them.
-/

set_option autoImplicit false

namespace Linkage

private theorem Text.afterStart?_append {α : Type} [BEq α] [LawfulBEq α] (start rest : List α) :
    afterStart? (start ++ rest) start = some rest := by
  induction start with
  | nil => unfold afterStart?; cases rest <;> rfl
  | cons item start ih => simpa [afterStart?] using ih

namespace Markup

open ExclusionWriter (escapeChar escape)

section Scanning

variable {α : Type} {p : α → Bool} {body rest : List α}

theorem takeWhile_append_of_boundary (inside : ∀ item ∈ body, p item = true)
    (boundary : ∀ item ∈ rest.head?, p item = false) : (body ++ rest).takeWhile p = body := by
  rw [List.takeWhile_append_of_pos inside]
  cases rest with
  | nil => simp
  | cons item rest => simp [boundary item rfl]

theorem dropWhile_append_of_boundary (inside : ∀ item ∈ body, p item = true)
    (boundary : ∀ item ∈ rest.head?, p item = false) : (body ++ rest).dropWhile p = rest := by
  rw [List.dropWhile_append_of_pos inside]
  cases rest with
  | nil => rfl
  | cons item rest => simp [boundary item rfl]

end Scanning

section Values

/-- The characters that a document may hold, other than tabs and line ends. -/
def IsPlain (c : Char) : Prop := 0x20 ≤ c.toNat ∧ c.toNat ≠ 0xFFFE ∧ c.toNat ≠ 0xFFFF

instance (c : Char) : Decidable (IsPlain c) := inferInstanceAs (Decidable (_ ∧ _))

variable {c : Char} {cs : List Char}

theorem isPlain_of_all (all : (cs.all fun c => decide (IsPlain c)) = true) :
    ∀ c ∈ cs, IsPlain c :=
  fun c member => of_decide_eq_true (List.all_eq_true.1 all c member)

theorem IsPlain.isDocumentChar (plain : IsPlain c) : isDocumentChar c = true := by
  obtain ⟨low, first, second⟩ := plain
  simp [Markup.isDocumentChar, Nat.not_lt.2 low, first, second]

private theorem IsPlain.eq_space (plain : IsPlain c) (space : isSpace c = true) : c = ' ' := by
  simp only [isSpace, Bool.or_eq_true, beq_iff_eq] at space
  rcases space with ((rfl | rfl) | rfl) | rfl
  · rfl
  all_goals exact absurd plain (by decide)

/-- How a character of an attribute value is read after it was written. -/
def pieceOf (c : Char) : Piece := if escapeChar c = [c] then .literal c else .referenced c

private theorem reference?_escapeChar (escaped : escapeChar c ≠ [c]) (rest : List Char) :
    ∃ name, name ≠ [] ∧ escapeChar c = '&' :: name ∧
      reference? (name ++ rest) = some (c, rest) := by
  unfold escapeChar at escaped ⊢
  split
  · exact ⟨"amp;".toList, by decide, rfl, rfl⟩
  · exact ⟨"lt;".toList, by decide, rfl, rfl⟩
  · exact ⟨"gt;".toList, by decide, rfl, rfl⟩
  · exact ⟨"quot;".toList, by decide, rfl, rfl⟩
  · simp at escaped

private theorem pieces?_escape (cs : List Char) :
    pieces? (cs.flatMap escapeChar) = some (cs.map pieceOf) := by
  induction cs with
  | nil => rw [List.flatMap_nil, pieces?, List.map_nil]
  | cons c cs ih =>
    rw [List.flatMap_cons, List.map_cons, pieceOf]
    by_cases escaped : escapeChar c = [c]
    · have different : c ≠ '&' := by
        rintro rfl
        exact absurd escaped (by decide)
      rw [if_pos escaped, escaped, List.singleton_append, pieces?, ih]
      · rfl
      · exact different
    · obtain ⟨name, filled, written, read⟩ := reference?_escapeChar escaped (cs.flatMap escapeChar)
      have shorter : (cs.flatMap escapeChar).length < (name ++ cs.flatMap escapeChar).length := by
        have := List.length_pos_iff.2 filled
        simp only [List.length_append]
        omega
      rw [if_neg escaped, written, List.cons_append, pieces?, read]
      simp only [if_pos shorter, ih, Option.map_some]

private theorem normalizeValue_pieces (plain : ∀ c ∈ cs, IsPlain c) :
    normalizeValue (cs.map pieceOf) = cs := by
  induction cs with
  | nil => rfl
  | cons c cs ih =>
    obtain ⟨first, others⟩ := List.forall_mem_cons.1 plain
    rw [List.map_cons, pieceOf]
    split
    · have notReturn : c ≠ '\r' := by
        rintro rfl
        exact absurd first (by decide)
      rw [normalizeValue, ih others]
      · split
        · next space => rw [first.eq_space space]
        · rfl
      · exact fun _ _ isReturn => notReturn isReturn
    · rw [normalizeValue, ih others]

private theorem attributeValue?_escape {value : String} (plain : ∀ c ∈ value.toList, IsPlain c) :
    attributeValue? (value.toList.flatMap escapeChar) = some value := by
  rw [attributeValue?, pieces?_escape, Option.map_some, normalizeValue_pieces plain,
    String.ofList_toList]

/-- A character that ends neither the quotes around a value nor the tag, and that a document may
hold. -/
def isQuotable (c : Char) : Bool := (c != '"' && c != '<') && isDocumentChar c

private theorem all_escapeChar (plain : IsPlain c) : (escapeChar c).all isQuotable = true := by
  unfold escapeChar
  split
  · decide
  · decide
  · decide
  · decide
  · next notAmpersand notLess notGreater notQuote =>
    simp only [isQuotable, List.all_cons, List.all_nil, plain.isDocumentChar, Bool.and_true,
      Bool.and_eq_true, bne_iff_ne]
    exact ⟨notQuote, notLess⟩

private theorem quoted?_escape (plain : ∀ c ∈ cs, IsPlain c) (rest : List Char) :
    quoted? ('"' :: (cs.flatMap escapeChar ++ '"' :: rest)) =
      some (cs.flatMap escapeChar, rest) := by
  have written : ∀ c ∈ cs.flatMap escapeChar, isQuotable c = true := by
    intro c member
    obtain ⟨original, isOriginal, member⟩ := List.mem_flatMap.1 member
    exact List.all_eq_true.1 (all_escapeChar (plain original isOriginal)) c member
  have inside : ∀ c ∈ cs.flatMap escapeChar, (c != '"' && c != '<') = true :=
    fun c member => (Bool.and_eq_true_iff.1 (written c member)).1
  have boundary : ∀ c ∈ ('"' :: rest).head?, (c != '"' && c != '<') = false := by simp
  have allowed : (cs.flatMap escapeChar).all isDocumentChar = true :=
    List.all_eq_true.2 fun c member => (Bool.and_eq_true_iff.1 (written c member)).2
  simp only [quoted?, beq_self_eq_true, Bool.true_or, if_true,
    takeWhile_append_of_boundary inside boundary, dropWhile_append_of_boundary inside boundary,
    allowed, Bool.and_self]

end Values

section Tags

/-- A name without a namespace abbreviation. -/
def isLocalName (name : String) : Bool :=
  startsName name.toList && name.toList.all fun c => isNameChar c && c != ':'

variable {name : String}

private theorem isNameStart_of_isSpace {c : Char} (space : isSpace c = true) : isNameStart c = false := by
  simp only [isSpace, Bool.or_eq_true, beq_iff_eq] at space
  rcases space with ((rfl | rfl) | rfl) | rfl <;> decide

private theorem split_of_clear {α : Type} {isSeparator : α → Bool} {items : List α}
    (clear : ∀ item ∈ items, isSeparator item = false) :
    Text.split isSeparator items = [items] := by
  induction items with
  | nil => rfl
  | cons item items ih =>
    obtain ⟨first, others⟩ := List.forall_mem_cons.1 clear
    simp [Text.split, first, ih others]

theorem qualifiedName?_append (isName : isLocalName name = true) {rest : List Char}
    (boundary : ∀ c ∈ rest.head?, isNameChar c = false) :
    qualifiedName? (name.toList ++ rest) = some (⟨"", name⟩, rest) := by
  obtain ⟨starts, follow⟩ := Bool.and_eq_true_iff.1 isName
  simp only [List.all_eq_true, Bool.and_eq_true, bne_iff_ne] at follow
  have inside : ∀ c ∈ name.toList, isNameChar c = true := fun c member => (follow c member).1
  have clear : ∀ c ∈ name.toList, (c == ':') = false :=
    fun c member => beq_eq_false_iff_ne.2 (follow c member).2
  simp only [qualifiedName?, takeWhile_append_of_boundary inside boundary,
    dropWhile_append_of_boundary inside boundary, split_of_clear clear, starts, if_true,
    String.ofList_toList]

private theorem isLocalName_cons (isName : isLocalName name = true) :
    ∃ first more, name.toList = first :: more ∧ isNameStart first = true := by
  have starts := (Bool.and_eq_true_iff.1 isName).1
  cases written : name.toList with
  | nil => simp [written, startsName] at starts
  | cons first more => exact ⟨first, more, rfl, by simpa [written, startsName] using starts⟩

/-- A name with a value, which is written as an attribute. -/
structure Assignment where
  name : String
  value : String

namespace Assignment

def valueText (assignment : Assignment) (rest : List Char) : List Char :=
  '=' :: '"' :: (assignment.value.toList.flatMap escapeChar ++ '"' :: rest)

/-- The attribute behind the name of a tag, followed by the rest of the tag. -/
def text (assignment : Assignment) (rest : List Char) : List Char :=
  ' ' :: (assignment.name.toList ++ assignment.valueText rest)

def raw (assignment : Assignment) : RawAttribute := ⟨⟨"", assignment.name⟩, assignment.value⟩

/-- Whether the attribute is read back. -/
structure Writable (assignment : Assignment) : Prop where
  isName : isLocalName assignment.name = true
  plain : ∀ c ∈ assignment.value.toList, IsPlain c

variable {assignment : Assignment}

private theorem Writable.assignment?_text (writable : assignment.Writable) (rest : List Char) :
    assignment? (assignment.name.toList ++ assignment.valueText rest) =
      some ((⟨"", assignment.name⟩, assignment.value.toList.flatMap escapeChar), rest) := by
  have boundary : ∀ c ∈ (assignment.valueText rest).head?, isNameChar c = false := by
    intro c isFirst
    cases isFirst
    decide
  unfold assignment?
  rw [qualifiedName?_append writable.isName boundary]
  exact congrArg (Option.bind · _) (quoted?_escape writable.plain rest)

private theorem Writable.attribute?_text (writable : assignment.Writable) (rest : List Char) :
    attribute? (assignment.name.toList ++ assignment.valueText rest) =
      some (assignment.raw, rest) := by
  unfold attribute?
  rw [writable.assignment?_text]
  exact congrArg (Option.bind · _) (attributeValue?_escape writable.plain)

private theorem Writable.attributes?_text (writable : assignment.Writable) (rest : List Char) :
    attributes? (assignment.text rest) =
      (attributes? rest).map fun read => (assignment.raw :: read.1, read.2) := by
  obtain ⟨first, more, written, starts⟩ := isLocalName_cons writable.isName
  have unspaced : isSpace first = false := by
    cases space : isSpace first with
    | false => rfl
    | true => rw [isNameStart_of_isSpace space] at starts; cases starts
  have skipped : skipSpaces (assignment.text rest) =
      assignment.name.toList ++ assignment.valueText rest := by
    rw [text, written]
    simp [skipSpaces, unspaced, show isSpace ' ' = true by decide]
  have shorter : rest.length < (assignment.text rest).length := by
    simp only [text, valueText, List.length_cons, List.length_append]
    omega
  rw [attributes?, skipped]
  split
  · next same =>
    rw [written] at same
    cases (List.cons.inj same).1
    exact absurd starts (by decide)
  · next same =>
    rw [written] at same
    cases (List.cons.inj same).1
    exact absurd starts (by decide)
  · rw [writable.attribute?_text]
    simp only [if_pos shorter]
    rfl

end Assignment

private theorem attributes?_foldr {assignments : List Assignment}
    (writable : ∀ assignment ∈ assignments, assignment.Writable) (rest : List Char) :
    attributes? (assignments.foldr Assignment.text rest) =
      (attributes? rest).map fun read => (assignments.map Assignment.raw ++ read.1, read.2) := by
  induction assignments with
  | nil => simp
  | cons assignment others ih =>
    obtain ⟨first, follow⟩ := List.forall_mem_cons.1 writable
    rw [List.foldr_cons, first.attributes?_text, ih follow, Option.map_map]
    rfl

/-- The end of a start tag, which may end its element too. -/
def tagEnd (ended : Bool) (rest : List Char) : List Char :=
  if ended then '/' :: '>' :: rest else '>' :: rest

def startTag (name : String) (assignments : List Assignment) (ended : Bool) (rest : List Char) :
    List Char :=
  '<' :: (name.toList ++ assignments.foldr Assignment.text (tagEnd ended rest))

def endTag (name : String) (rest : List Char) : List Char :=
  '<' :: '/' :: (name.toList ++ '>' :: rest)

private theorem attributes?_tagEnd (ended : Bool) (rest : List Char) :
    attributes? (tagEnd ended rest) = some ([], ended, rest) := by
  cases ended <;> rw [attributes?] <;> rfl

private theorem tagEnd_boundary (assignments : List Assignment) (ended : Bool) (rest : List Char) :
    ∀ c ∈ (assignments.foldr Assignment.text (tagEnd ended rest)).head?, isNameChar c = false := by
  intro c isFirst
  cases assignments with
  | nil => cases ended <;> cases isFirst <;> decide
  | cons assignment others => cases isFirst; decide

theorem token?_startTag (isName : isLocalName name = true) {assignments : List Assignment}
    (writable : ∀ assignment ∈ assignments, assignment.Writable) (ended : Bool) (rest : List Char) :
    token? (startTag name assignments ended rest) =
      some (.start ⟨"", name⟩ (assignments.map Assignment.raw) ended, rest) := by
  obtain ⟨first, more, written, starts⟩ := isLocalName_cons isName
  have started : startTag? (name.toList ++ assignments.foldr Assignment.text (tagEnd ended rest)) =
      some (.start ⟨"", name⟩ (assignments.map Assignment.raw) ended, rest) := by
    unfold startTag?
    rw [qualifiedName?_append isName (tagEnd_boundary assignments ended rest)]
    simp only [bind, Option.bind, attributes?_foldr writable, attributes?_tagEnd, Option.map_some,
      List.append_nil]
    rfl
  rw [startTag, ← started, written, List.cons_append]
  -- No other kind of markup begins like a name.
  unfold token?
  split
  · next same =>
    cases (List.cons.inj (List.cons.inj same).2).1
    exact absurd starts (by decide)
  · next same =>
    cases (List.cons.inj (List.cons.inj same).2).1
    exact absurd starts (by decide)
  · next same =>
    cases (List.cons.inj (List.cons.inj same).2).1
    exact absurd starts (by decide)
  · next same => cases same; rfl
  · next other => exact absurd rfl (other _)

theorem expect?_append (expected : String) (rest : List Char) :
    expect? expected (expected.toList ++ rest) = some rest :=
  Text.afterStart?_append _ rest

theorem token?_endTag (isName : isLocalName name = true) (rest : List Char) :
    token? (endTag name rest) = some (.finish ⟨"", name⟩, rest) := by
  have boundary : ∀ c ∈ ('>' :: rest).head?, isNameChar c = false := by
    intro c isFirst
    cases isFirst
    decide
  change endTag? (name.toList ++ '>' :: rest) = _
  unfold endTag?
  rw [qualifiedName?_append isName boundary]
  exact congrArg (Option.bind · _) (expect?_append ">" rest)

end Tags

section Blanks

/-- White space as it is written between tags. -/
def IsBlank (cs : List Char) : Prop := ∀ c ∈ cs, c = ' ' ∨ c = '\n'

instance (cs : List Char) : Decidable (IsBlank cs) :=
  decidable_of_iff ((cs.all fun c => c == ' ' || c == '\n') = true) (by simp [IsBlank])

variable {blank : List Char}

private theorem pieces?_blank (isBlank : IsBlank blank) : pieces? blank = some (blank.map .literal) := by
  induction blank with
  | nil => rw [pieces?, List.map_nil]
  | cons c blank ih =>
    obtain ⟨first, others⟩ := List.forall_mem_cons.1 isBlank
    rw [pieces?, ih others]
    · rfl
    · rcases first with rfl | rfl <;> decide

private theorem normalizeFrom_blank (isBlank : IsBlank blank) {done : List Char}
    (unreturned : done.head? ≠ some '\r') :
    normalizeFrom done false (blank.map .literal) = done.reverse ++ blank := by
  induction blank generalizing done with
  | nil => simp [normalizeFrom]
  | cons c blank ih =>
    obtain ⟨first, others⟩ := List.forall_mem_cons.1 isBlank
    have notReturn : c ≠ '\r' := by
      rcases first with rfl | rfl <;> decide
    have added : ∀ atEnd, addLiteral done c atEnd = c :: done := by
      intro atEnd
      simp only [addLiteral, beq_eq_false_iff_ne.2 notReturn, Bool.and_false, Bool.false_eq_true,
        if_false]
      split
      · exact absurd rfl unreturned
      · rfl
    rw [List.map_cons, normalizeFrom, if_neg Bool.false_ne_true, added,
      ih others (by simpa using notReturn)]
    simp

theorem text?_blank (isBlank : IsBlank blank) : text? blank = some (String.ofList blank) := by
  rw [text?, pieces?_blank isBlank, Option.map_some, normalizeText,
    normalizeFrom_blank isBlank (by simp)]
  rfl

private theorem containsPart_eq_false {c : Char} {part cs : List Char} (absent : c ∉ cs) :
    Text.containsPart (c :: part) cs = false := by
  induction cs with
  | nil => rfl
  | cons first cs ih =>
    obtain ⟨different, others⟩ := not_or.1 (mt List.mem_cons.2 absent)
    simp [Text.containsPart, List.isPrefixOf, ih others, different]

theorem token?_blank (isBlank : IsBlank blank) (filled : blank ≠ []) {rest : List Char}
    (boundary : rest.head?.all (· == '<') = true) :
    token? (blank ++ rest) = some (.text blank, rest) := by
  have inside : ∀ c ∈ blank, (c != '<') = true := by
    intro c member
    rcases isBlank c member with rfl | rfl <;> decide
  have ends : ∀ c ∈ rest.head?, (c != '<') = false := by
    intro c isFirst
    rw [Option.mem_def.1 isFirst] at boundary
    simpa using boundary
  have allowed : blank.all isDocumentChar = true := by
    refine List.all_eq_true.2 fun c member => ?_
    rcases isBlank c member with rfl | rfl <;> decide
  have unclosed : Text.containsPart "]]>".toList blank = false := by
    refine containsPart_eq_false fun member => ?_
    rcases isBlank _ member with same | same <;> exact absurd same (by decide)
  have read : characters? (blank ++ rest) = some (.text blank, rest) := by
    simp only [characters?, takeWhile_append_of_boundary inside ends,
      dropWhile_append_of_boundary inside ends, allowed, unclosed, Bool.not_false, Bool.and_self,
      if_true]
  obtain ⟨c, more, rfl⟩ := List.exists_cons_of_ne_nil filled
  have notTag : c ≠ '<' := by simpa using inside c List.mem_cons_self
  rw [← read, List.cons_append]
  unfold token?
  split
  · next same => exact absurd (List.cons.inj same).1 notTag
  · next same => exact absurd (List.cons.inj same).1 notTag
  · next same => exact absurd (List.cons.inj same).1 notTag
  · next same => exact absurd (List.cons.inj same).1 notTag
  · rfl

end Blanks

end Markup

end Linkage
