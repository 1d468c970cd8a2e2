import Linkage.ClassFile.Descriptor

/-!
The grammar of descriptors.

Types and methods are described as they are written. Reading what is written for a type gives the
type back, whatever follows, and whatever is read was written for a type. No text is written for two
types, since the front of a text decides what stands there: a class name ends at the first
semicolon, and neither a closing parenthesis nor `V` begins a type.
-/

set_option autoImplicit false

namespace Linkage

theorem Text.splitOnce_eq_some_iff {α : Type} {isSeparator : α → Bool}
    {items before after : List α} :
    splitOnce isSeparator items = some (before, after) ↔
      (∀ item ∈ before, isSeparator item = false) ∧
        ∃ separator, isSeparator separator = true ∧ items = before ++ separator :: after := by
  induction items generalizing before with
  | nil => simp [splitOnce]
  | cons item rest ih =>
    rw [splitOnce]
    cases separates : isSeparator item with
    | true =>
      simp only [if_true, Option.some.injEq, Prod.mk.injEq]
      constructor
      · rintro ⟨rfl, rfl⟩
        exact ⟨fun _ member => absurd member List.not_mem_nil, item, separates, rfl⟩
      · rintro ⟨clear, separator, _, same⟩
        cases before with
        | nil =>
          cases same
          exact ⟨rfl, rfl⟩
        | cons first others =>
          cases same
          rw [clear item List.mem_cons_self] at separates
          cases separates
    | false =>
      simp only [Bool.false_eq_true, if_false, Option.map_eq_some_iff, Prod.exists, Prod.mk.injEq]
      constructor
      · rintro ⟨others, after, cut, rfl, rfl⟩
        obtain ⟨clear, separator, isSeparator, rfl⟩ := ih.1 cut
        refine ⟨?_, separator, isSeparator, rfl⟩
        rintro other member
        rcases List.mem_cons.1 member with rfl | member
        · exact separates
        · exact clear other member
      · rintro ⟨clear, separator, isSeparator, same⟩
        cases before with
        | nil =>
          cases same
          rw [isSeparator] at separates
          cases separates
        | cons first others =>
          cases same
          refine ⟨others, after, ih.2 ⟨?_, separator, isSeparator, rfl⟩, rfl, rfl⟩
          exact fun other member => clear other (List.mem_cons_of_mem _ member)

/-- A list is cut at the first occurrence of an element. -/
theorem Text.splitOnce_append {separator : Char} {before : List Char} (clear : separator ∉ before)
    (after : List Char) :
    splitOnce (· == separator) (before ++ separator :: after) = some (before, after) :=
  splitOnce_eq_some_iff.2 ⟨fun _ member => beq_false_of_ne fun same => clear (same ▸ member),
    separator, beq_self_eq_true separator, rfl⟩

namespace Descriptor

/-- The name of a class as descriptors write it: not empty, and without the semicolon that ends
it. -/
structure InternalName where
  text : List Char
  nonempty : text ≠ []
  unended : ';' ∉ text

/-- What an array is made of in the end, as it is written. -/
inductive WrittenElement where
  | base (type : BaseType)
  | object (name : InternalName)

/-- A field type as it is written: an element behind at most 255 brackets. -/
structure WrittenType where
  dimensions : Nat
  element : WrittenElement
  bounded : dimensions ≤ 255

/-- A method descriptor as it is written. -/
structure WrittenMethod where
  parameters : List WrittenType
  /-- `none` is written as `V`. -/
  returned : Option WrittenType

/-- The binary name: full stops stand in the place of slashes. -/
def InternalName.binary (name : InternalName) : String :=
  String.ofList (name.text.map fun c => if c = '/' then '.' else c)

namespace WrittenElement

def text : WrittenElement → List Char
  | base type => [type.letter]
  | object name => 'L' :: (name.text ++ [';'])

/-- The type that is written. -/
def type : WrittenElement → FieldType
  | base type => .base type
  | object name => .object name.binary

end WrittenElement

namespace WrittenType

def text (written : WrittenType) : List Char :=
  List.replicate written.dimensions '[' ++ written.element.text

/-- The type that is written. -/
def type (written : WrittenType) : FieldType :=
  .arrays written.dimensions written.element.type

/-- What is written for a result. -/
def returnText : Option WrittenType → List Char
  | none => ['V']
  | some written => written.text

end WrittenType

namespace WrittenMethod

def parameterText (written : WrittenMethod) : List Char :=
  written.parameters.flatMap WrittenType.text

def text (written : WrittenMethod) : List Char :=
  '(' :: (written.parameterText ++ ')' :: WrittenType.returnText written.returned)

/-- The types that are written. -/
def descriptor (written : WrittenMethod) : MethodDescriptor :=
  ⟨written.parameters.map WrittenType.type, written.returned.map WrittenType.type⟩

end WrittenMethod

section Elements

variable {cs rest others : List Char}

private theorem letter_of_ofLetter? {c : Char} {type : BaseType}
    (found : BaseType.ofLetter? c = some type) : type.letter = c :=
  beq_iff_eq.1 (List.find?_some (p := (BaseType.letter · == c)) found)

theorem ofLetter?_letter (type : BaseType) : BaseType.ofLetter? type.letter = some type := by
  cases type <;> rfl

theorem letter_ne_object (type : BaseType) : type.letter ≠ 'L' := by
  cases type <;> decide

/-- The first character of an element is none of those that mean something else. -/
theorem WrittenElement.exists_head (element : WrittenElement) :
    ∃ c tail, element.text = c :: tail ∧ c ≠ '[' ∧ c ≠ ')' ∧ c ≠ 'V' := by
  cases element with
  | base type => exact ⟨type.letter, [], rfl, by cases type <;> decide⟩
  | object name => exact ⟨'L', _, rfl, by decide⟩

theorem InternalName.binary_eq (name : InternalName) :
    name.binary = binaryName (String.ofList name.text) := by
  simp [binary, binaryName, Text.replaceChar]

private theorem element?_text (element : WrittenElement) (rest : List Char) :
    element? (element.text ++ rest) = some (element.type, rest) := by
  cases element with
  | base type =>
    simp [WrittenElement.text, element?, letter_ne_object, ofLetter?_letter, WrittenElement.type]
  | object name =>
    have cut := Text.splitOnce_append name.unended rest
    have nonempty : name.text.isEmpty = false := by simp [name.nonempty]
    simp [WrittenElement.text, element?, cut, nonempty, WrittenElement.type, name.binary_eq]

private theorem exists_of_element? {type : FieldType} (read : element? cs = some (type, rest)) :
    ∃ element : WrittenElement, element.text ++ rest = cs ∧ element.type = type := by
  cases cs with
  | nil => cases read
  | cons c tail =>
    rw [element?] at read
    split at read
    · next isObject =>
      split at read
      · cases read
      · next internal after cut =>
        split at read
        · cases read
        · next nonempty =>
          cases read
          obtain ⟨clear, separator, isSeparator, rfl⟩ := Text.splitOnce_eq_some_iff.1 cut
          rw [beq_iff_eq.1 isObject, beq_iff_eq.1 isSeparator]
          refine ⟨.object ⟨internal, by simpa using nonempty, fun member => ?_⟩, ?_, ?_⟩
          · simpa using clear _ member
          · simp [WrittenElement.text]
          · rw [WrittenElement.type, InternalName.binary_eq]
    · obtain ⟨base, found, same⟩ := Option.map_eq_some_iff.1 read
      cases same
      exact ⟨.base base, by rw [WrittenElement.text, letter_of_ofLetter? found]; rfl, rfl⟩

theorem WrittenElement.text_append_inj {element other : WrittenElement}
    (same : element.text ++ rest = other.text ++ others) : element = other ∧ rest = others := by
  cases element with
  | base type =>
    cases other with
    | base type' =>
      obtain ⟨letters, same⟩ := List.cons.inj same
      have types := congrArg BaseType.ofLetter? letters
      rw [ofLetter?_letter, ofLetter?_letter] at types
      exact ⟨congrArg base (Option.some.inj types), same⟩
    | object name => exact absurd (List.cons.inj same).1 (letter_ne_object type)
  | object name =>
    cases other with
    | base type => exact absurd (List.cons.inj same).1.symm (letter_ne_object type)
    | object name' =>
      have tails : name.text ++ ';' :: rest = name'.text ++ ';' :: others := by
        simpa [text] using same
      have cuts := congrArg (Text.splitOnce (· == ';')) tails
      rw [Text.splitOnce_append name.unended, Text.splitOnce_append name'.unended] at cuts
      cases name
      cases name'
      cases cuts
      exact ⟨rfl, rfl⟩

end Elements

section Types

variable {cs rest others : List Char}

theorem WrittenType.head?_text (written : WrittenType) (rest : List Char) :
    (written.text ++ rest).head? ≠ some ')' ∧ (written.text ++ rest).head? ≠ some 'V' := by
  obtain ⟨dimensions, element, _⟩ := written
  cases dimensions with
  | zero =>
    obtain ⟨c, tail, starts, _, different⟩ := element.exists_head
    simpa [text, starts] using different
  | succ dimensions => simp [text, List.replicate_succ]

theorem takeWhile_brackets (dimensions : Nat) (element : WrittenElement) (rest : List Char) :
    (List.replicate dimensions '[' ++ (element.text ++ rest)).takeWhile (· == '[') =
      List.replicate dimensions '[' := by
  obtain ⟨c, tail, text, different, _⟩ := element.exists_head
  rw [List.takeWhile_append_of_pos (by simp), text]
  simp [different]

theorem fieldType?_text (written : WrittenType) (rest : List Char) :
    fieldType? (written.text ++ rest) = some (written.type, rest) := by
  obtain ⟨dimensions, element, bounded⟩ := written
  simp only [WrittenType.text, List.append_assoc, fieldType?, takeWhile_brackets,
    List.length_replicate, maxDimensions, if_neg (Nat.not_lt.2 bounded)]
  rw [List.drop_left' List.length_replicate, element?_text]
  rfl

theorem exists_of_fieldType? {type : FieldType} (read : fieldType? cs = some (type, rest)) :
    ∃ written : WrittenType, written.text ++ rest = cs ∧ written.type = type := by
  rw [fieldType?] at read
  split at read
  · cases read
  · next few =>
    obtain ⟨⟨read, after⟩, isElement, same⟩ := Option.map_eq_some_iff.1 read
    cases same
    obtain ⟨element, text, rfl⟩ := exists_of_element? isElement
    refine ⟨⟨_, element, Nat.le_of_not_lt few⟩, ?_, rfl⟩
    have brackets : cs.takeWhile (· == '[') =
        List.replicate (cs.takeWhile (· == '[')).length '[' :=
      List.eq_replicate_iff.2
        ⟨rfl, fun c member => beq_iff_eq.1 (List.all_eq_true.1 List.all_takeWhile c member)⟩
    have front := List.prefix_iff_eq_append.1 (List.takeWhile_prefix (l := cs) (· == '['))
    rw [WrittenType.text, List.append_assoc, text, ← brackets]
    exact front

theorem WrittenType.text_append_inj {written other : WrittenType}
    (same : written.text ++ rest = other.text ++ others) : written = other ∧ rest = others := by
  obtain ⟨dimensions, element, _⟩ := written
  obtain ⟨dimensions', element', _⟩ := other
  simp only [WrittenType.text, List.append_assoc] at same
  have brackets := congrArg (List.takeWhile (· == '[')) same
  rw [takeWhile_brackets, takeWhile_brackets] at brackets
  rw [brackets] at same
  obtain ⟨elements, rests⟩ := WrittenElement.text_append_inj (List.append_cancel_left same)
  have counts := congrArg List.length brackets
  simp only [List.length_replicate] at counts
  subst counts
  subst elements
  exact ⟨rfl, rests⟩

end Types

section Methods

variable {cs rest others : List Char}

/-- A closing parenthesis ends the parameters, and no type begins with one. -/
theorem parameters?_text (parameters : List WrittenType) (rest : List Char) :
    parameters? (parameters.flatMap WrittenType.text ++ ')' :: rest) =
      some (parameters.map WrittenType.type, rest) := by
  induction parameters with
  | nil => simp [parameters?]
  | cons first later ih =>
    have opened := (first.head?_text (later.flatMap WrittenType.text ++ ')' :: rest)).1
    have read := fieldType?_text first (later.flatMap WrittenType.text ++ ')' :: rest)
    rw [List.flatMap_cons, List.append_assoc, parameters?, if_neg (by simpa using opened)]
    split
    · next failed =>
      rw [read] at failed
      cases failed
    · next found =>
      rw [read] at found
      cases found
      rw [ih]
      rfl

private theorem exists_of_parameters? {types : List FieldType}
    (read : parameters? cs = some (types, rest)) :
    ∃ parameters : List WrittenType,
      parameters.flatMap WrittenType.text ++ ')' :: rest = cs ∧
        parameters.map WrittenType.type = types := by
  fun_induction parameters? cs generalizing types with
  | case1 cs closed =>
    cases read
    obtain ⟨tail, rfl⟩ := List.head?_eq_some_iff.1 (beq_iff_eq.1 closed)
    exact ⟨[], rfl, rfl⟩
  | case2 => cases read
  | case3 cs opened type after found ih =>
    obtain ⟨⟨later, remaining⟩, readLater, same⟩ := Option.map_eq_some_iff.1 read
    cases same
    obtain ⟨parameters, text, rfl⟩ := ih readLater
    obtain ⟨first, whole, rfl⟩ := exists_of_fieldType? found
    refine ⟨first :: parameters, ?_, rfl⟩
    rw [List.flatMap_cons, List.append_assoc, text, whole]

theorem parameters_append_inj {parameters parameters' : List WrittenType}
    (same : parameters.flatMap WrittenType.text ++ ')' :: rest =
      parameters'.flatMap WrittenType.text ++ ')' :: others) :
    parameters = parameters' ∧ rest = others := by
  induction parameters generalizing parameters' with
  | nil =>
    cases parameters' with
    | nil => exact ⟨rfl, (List.cons.inj same).2⟩
    | cons first later =>
      rw [List.flatMap_cons, List.append_assoc] at same
      exact absurd (congrArg List.head? same).symm (first.head?_text _).1
  | cons first later ih =>
    rw [List.flatMap_cons, List.append_assoc] at same
    cases parameters' with
    | nil => exact absurd (congrArg List.head? same) (first.head?_text _).1
    | cons first' later' =>
      rw [List.flatMap_cons, List.append_assoc] at same
      obtain ⟨types, tails⟩ := WrittenType.text_append_inj same
      obtain ⟨parameters, rests⟩ := ih tails
      exact ⟨by rw [types, parameters], rests⟩

private theorem returnType?_text (returned : Option WrittenType) :
    returnType? (WrittenType.returnText returned) = some (returned.map WrittenType.type, []) := by
  cases returned with
  | none => rfl
  | some written =>
    have notVoid := (written.head?_text []).2
    have read := fieldType?_text written []
    rw [List.append_nil] at notVoid read
    rw [WrittenType.returnText, returnType?, if_neg (by simpa using notVoid), read]
    rfl

private theorem exists_of_returnType? {type : Option FieldType}
    (read : returnType? cs = some (type, [])) :
    ∃ returned : Option WrittenType,
      WrittenType.returnText returned = cs ∧ returned.map WrittenType.type = type := by
  rw [returnType?] at read
  split at read
  · next void =>
    obtain ⟨tail, rfl⟩ := List.head?_eq_some_iff.1 (beq_iff_eq.1 void)
    cases read
    exact ⟨none, rfl, rfl⟩
  · obtain ⟨⟨read, after⟩, found, same⟩ := Option.map_eq_some_iff.1 read
    cases same
    obtain ⟨written, text, rfl⟩ := exists_of_fieldType? found
    exact ⟨some written, by rw [WrittenType.returnText, ← text, List.append_nil], rfl⟩

private theorem returnText_injective : Function.Injective WrittenType.returnText := by
  intro returned other same
  have heads := congrArg (fun cs => (cs ++ []).head?) same
  cases returned with
  | none =>
    cases other with
    | none => rfl
    | some written => exact absurd heads.symm (written.head?_text []).2
  | some written =>
    cases other with
    | none => exact absurd heads (written.head?_text []).2
    | some written' => rw [(WrittenType.text_append_inj (congrArg (· ++ []) same)).1]

end Methods

theorem field?_eq_some_iff {cs : List Char} {type : FieldType} :
    field? cs = some type ↔ ∃ written : WrittenType, written.text = cs ∧ written.type = type := by
  constructor
  · intro read
    obtain ⟨⟨type', rest⟩, found, read⟩ := Option.bind_eq_some_iff.1 read
    dsimp only at read
    split at read
    · next ended =>
      cases read
      cases List.isEmpty_iff.1 ended
      simpa using exists_of_fieldType? found
    · cases read
  · rintro ⟨written, rfl, rfl⟩
    have read := fieldType?_text written []
    rw [List.append_nil] at read
    simp [field?, read]

private theorem method?_eq_some_iff {cs : List Char} {method : MethodDescriptor} :
    method? cs = some method ↔
      ∃ written : WrittenMethod, written.text = cs ∧ written.descriptor = method := by
  constructor
  · intro read
    unfold method? at read
    split at read
    · next tail =>
      obtain ⟨⟨types, afterTypes⟩, readTypes, read⟩ := Option.bind_eq_some_iff.1 read
      obtain ⟨⟨type, rest⟩, readType, read⟩ := Option.bind_eq_some_iff.1 read
      dsimp only at read readType
      split at read
      · next ended =>
        cases read
        cases List.isEmpty_iff.1 ended
        obtain ⟨parameters, rfl, rfl⟩ := exists_of_parameters? readTypes
        obtain ⟨returned, rfl, rfl⟩ := exists_of_returnType? readType
        exact ⟨⟨parameters, returned⟩, rfl, rfl⟩
      · cases read
    · cases read
  · rintro ⟨⟨parameters, returned⟩, rfl, rfl⟩
    simp [method?, WrittenMethod.text, WrittenMethod.parameterText, parameters?_text,
      returnType?_text, WrittenMethod.descriptor]

theorem WrittenMethod.text_injective : Function.Injective text := by
  rintro ⟨parameters, returned⟩ ⟨parameters', returned'⟩ same
  obtain ⟨parameters, results⟩ := parameters_append_inj (List.cons.inj same).2
  rw [WrittenMethod.mk.injEq]
  exact ⟨parameters, returnText_injective results⟩

theorem WrittenType.text_injective : Function.Injective text := by
  intro written other same
  exact (text_append_inj (congrArg (· ++ []) same)).1

section Texts

variable {descriptor : String}

theorem parseMethod_ok_iff {method : MethodDescriptor} :
    parseMethod descriptor = .ok method ↔
      ∃ written : WrittenMethod,
        written.text = descriptor.toList ∧ written.descriptor = method := by
  rw [← method?_eq_some_iff, parseMethod]
  cases method? descriptor.toList <;> simp

private theorem parseField_ok_iff {type : FieldType} :
    parseField descriptor = .ok type ↔
      ∃ written : WrittenType, written.text = descriptor.toList ∧ written.type = type := by
  rw [← field?_eq_some_iff, parseField]
  cases field? descriptor.toList <;> simp

private theorem parseMethod_error_iff :
    parseMethod descriptor = .error (.invalidDescriptor descriptor) ↔
      ∀ written : WrittenMethod, written.text ≠ descriptor.toList := by
  have unread : method? descriptor.toList = none ↔
      ∀ written : WrittenMethod, written.text ≠ descriptor.toList := by
    simp [Option.eq_none_iff_forall_ne_some, method?_eq_some_iff]
  rw [← unread, parseMethod]
  cases method? descriptor.toList <;> simp

private theorem parseField_error_iff :
    parseField descriptor = .error (.invalidDescriptor descriptor) ↔
      ∀ written : WrittenType, written.text ≠ descriptor.toList := by
  have unread : field? descriptor.toList = none ↔
      ∀ written : WrittenType, written.text ≠ descriptor.toList := by
    simp [Option.eq_none_iff_forall_ne_some, field?_eq_some_iff]
  rw [← unread, parseField]
  cases field? descriptor.toList <;> simp

end Texts

/-- Descriptors of methods and of fields are read exactly if they are written by the grammar, which
happens in one way only, and then they are read as the types that are written. All others are
refused as they stand. -/
theorem parse_exact :
    (∀ descriptor method, parseMethod descriptor = .ok method ↔
      ∃ written : WrittenMethod,
        written.text = descriptor.toList ∧ written.descriptor = method) ∧
    (∀ descriptor, parseMethod descriptor = .error (.invalidDescriptor descriptor) ↔
      ∀ written : WrittenMethod, written.text ≠ descriptor.toList) ∧
    Function.Injective WrittenMethod.text ∧
    (∀ descriptor type, parseField descriptor = .ok type ↔
      ∃ written : WrittenType, written.text = descriptor.toList ∧ written.type = type) ∧
    (∀ descriptor, parseField descriptor = .error (.invalidDescriptor descriptor) ↔
      ∀ written : WrittenType, written.text ≠ descriptor.toList) ∧
    Function.Injective WrittenType.text :=
  ⟨fun _ _ => parseMethod_ok_iff, fun _ => parseMethod_error_iff, WrittenMethod.text_injective,
    fun _ _ => parseField_ok_iff, fun _ => parseField_error_iff, WrittenType.text_injective⟩

end Descriptor

end Linkage
