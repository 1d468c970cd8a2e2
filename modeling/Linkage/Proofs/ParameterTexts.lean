import Linkage.Proofs.DescriptorGrammar
import Linkage.Proofs.HierarchySteps
import Linkage.Proofs.MethodResolution
import Linkage.Proofs.Origins

/-!
Comparing parameters by their texts.

Methods are taken for variants of each other if their descriptors agree up to the first closing
parenthesis. Class names may contain anything but a semicolon, so that this parenthesis need not be
the one that ends the parameters, and different names may stand for one binary name. Where names
contain neither a closing parenthesis nor a full stop, the texts agree exactly if the types do.
-/

set_option autoImplicit false

namespace Linkage

/-- What descriptors write for a type, unless a class name in it has a slash. -/
def FieldType.written : FieldType → List Char
  | base type => [type.letter]
  | object name => 'L' :: (name.toList.map (fun c => if c = '.' then '/' else c) ++ [';'])
  | array component => '[' :: component.written

namespace Descriptor

/-- A name that is told apart from all others by its binary name, and that does not end the
parameters. -/
def InternalName.IsPlain (name : InternalName) : Prop := ')' ∉ name.text ∧ '.' ∉ name.text

instance (name : InternalName) : Decidable name.IsPlain := inferInstanceAs (Decidable (_ ∧ _))

def WrittenType.IsPlain (written : WrittenType) : Prop :=
  ∀ name, written.element = .object name → name.IsPlain

/-- Whether the class names among the parameters of a method descriptor contain neither a closing
parenthesis nor a full stop. -/
def NamesPlainly (descriptor : String) : Prop :=
  ∀ written : WrittenMethod, written.text = descriptor.toList →
    ∀ parameter ∈ written.parameters, parameter.IsPlain

section Plain

private theorem InternalName.IsPlain.written_binary {name : InternalName} (plain : name.IsPlain) :
    name.binary.toList.map (fun c => if c = '.' then '/' else c) = name.text := by
  rw [binary, String.toList_ofList, List.map_map]
  conv => rhs; rw [← List.map_id name.text]
  apply List.map_congr_left
  intro c member
  have notDot : c ≠ '.' := fun dot => plain.2 (dot ▸ member)
  by_cases slash : c = '/'
  · simp [slash]
  · simp [slash, notDot]

private theorem written_arrays (count : Nat) (type : FieldType) :
    (FieldType.arrays count type).written = List.replicate count '[' ++ type.written := by
  induction count with
  | zero => rfl
  | succ count ih =>
    rw [FieldType.arrays, FieldType.written, ih, List.replicate_succ]
    rfl

private theorem WrittenType.IsPlain.written_type {written : WrittenType} (plain : written.IsPlain) :
    written.type.written = written.text := by
  obtain ⟨dimensions, element, _⟩ := written
  rw [WrittenType.type, WrittenType.text, written_arrays]
  cases element with
  | base type => rfl
  | object name =>
    rw [WrittenElement.type, WrittenElement.text, FieldType.written,
      (plain name rfl).written_binary]

theorem WrittenType.IsPlain.unclosed {written : WrittenType} (plain : written.IsPlain) :
    ')' ∉ written.text := by
  obtain ⟨dimensions, element, _⟩ := written
  cases element with
  | base type => cases type <;> simp [text, WrittenElement.text, BaseType.letter]
  | object name => simp [text, WrittenElement.text, (plain name rfl).1]

theorem WrittenMethod.unclosed {written : WrittenMethod}
    (plain : ∀ parameter ∈ written.parameters, parameter.IsPlain) :
    ')' ∉ written.parameterText := by
  intro member
  obtain ⟨parameter, among, closing⟩ := List.mem_flatMap.1 member
  exact (plain parameter among).unclosed closing

private theorem WrittenMethod.parameterText_eq {written : WrittenMethod}
    (plain : ∀ parameter ∈ written.parameters, parameter.IsPlain) :
    written.parameterText = written.descriptor.parameters.flatMap FieldType.written := by
  rw [parameterText, descriptor, List.flatMap_map]
  apply List.flatMap_congr
  intro parameter among
  exact (plain parameter among).written_type.symm

end Plain

section Parts

variable {written : WrittenMethod} {descriptor : String} (text : written.text = descriptor.toList)

include text

theorem parameterPart?_of_unclosed (unclosed : ')' ∉ written.parameterText) :
    parameterPart? descriptor =
      some (String.ofList ('(' :: (written.parameterText ++ [')']))) := by
  have clear : ')' ∉ '(' :: written.parameterText := by simp [unclosed]
  have cut := Text.splitOnce_append clear (WrittenType.returnText written.returned)
  rw [parameterPart?, ← text, WrittenMethod.text]
  rw [List.cons_append] at cut
  rw [cut]
  rfl

/-- If the texts up to the first closing parenthesis agree, and it ends the parameters of one of the
descriptors, then it ends those of the other one too. -/
theorem parameters_of_parameterPart? {other : WrittenMethod} {descriptor' : String}
    (text' : other.text = descriptor'.toList) (unclosed : ')' ∉ written.parameterText)
    (same : parameterPart? descriptor = parameterPart? descriptor') :
    written.parameters = other.parameters := by
  rw [parameterPart?_of_unclosed text unclosed, parameterPart?] at same
  split at same
  · next inner after cut =>
    have parts := String.ofList_injective (Option.some.inj same)
    have inner_eq : written.parameterText = inner := by simpa using parts
    obtain ⟨_, separator, isSeparator, whole⟩ := Text.splitOnce_eq_some_iff.1 cut
    rw [← text', beq_iff_eq.1 isSeparator, ← inner_eq] at whole
    exact (parameters_append_inj (List.cons.inj whole).2).1.symm
  · cases same

end Parts

private theorem parameterPart?_eq_iff {first second : String} {firstTypes secondTypes : MethodDescriptor}
    (readFirst : parseMethod first = .ok firstTypes) (plainFirst : NamesPlainly first)
    (readSecond : parseMethod second = .ok secondTypes) (plainSecond : NamesPlainly second) :
    ∃ firstPart secondPart,
      parameterPart? first = some firstPart ∧ parameterPart? second = some secondPart ∧
        (firstPart = secondPart ↔ firstTypes.parameters = secondTypes.parameters) := by
  obtain ⟨written, text, rfl⟩ := parseMethod_ok_iff.1 readFirst
  obtain ⟨other, text', rfl⟩ := parseMethod_ok_iff.1 readSecond
  have plain := plainFirst written text
  have plain' := plainSecond other text'
  have part := parameterPart?_of_unclosed text (WrittenMethod.unclosed plain)
  have part' := parameterPart?_of_unclosed text' (WrittenMethod.unclosed plain')
  refine ⟨_, _, part, part', ?_, ?_⟩
  · intro same
    have parameters := parameters_of_parameterPart? text text' (WrittenMethod.unclosed plain)
      (by rw [part, part', same])
    rw [WrittenMethod.descriptor, WrittenMethod.descriptor, parameters]
  · intro same
    rw [WrittenMethod.parameterText_eq plain, WrittenMethod.parameterText_eq plain', same]

end Descriptor

/-- A method of a class that a reference would reach but for its return type. -/
structure ClassInfo.Variant (info : ClassInfo) (method : MethodSymbol) (actual : String)
    (declared : MethodInfo) (types : MethodDescriptor) : Prop where
  declares : declared ∈ info.methods
  name : declared.name = method.name
  parses : Descriptor.parseMethod declared.descriptor = .ok types
  returns : types.returnTypeName = actual
  part : Descriptor.parameterPart? method.descriptor =
    Descriptor.parameterPart? declared.descriptor

private theorem ClassInfo.Varies.exists_variant {info : ClassInfo} {method : MethodSymbol} {actual : String}
    (varies : info.Varies method actual) :
    ∃ declared types, info.Variant method actual declared types := by
  obtain ⟨parameters, declared, types, part, first, parses, returns⟩ := varies
  have accepted := List.find?_some first
  simp only [Bool.and_eq_true, beq_iff_eq] at accepted
  exact ⟨declared, types, List.mem_of_find?_eq_some first, accepted.1, parses, returns,
    part.trans accepted.2.symm⟩

theorem ClassInfo.Variant.parameters_eq {info : ClassInfo} {method : MethodSymbol} {actual : String}
    {declared : MethodInfo} {types referred : MethodDescriptor}
    (isVariant : info.Variant method actual declared types)
    (read : Descriptor.parseMethod method.descriptor = .ok referred)
    (plain : Descriptor.NamesPlainly method.descriptor) :
    types.parameters = referred.parameters := by
  obtain ⟨written, text, rfl⟩ := Descriptor.parseMethod_ok_iff.1 read
  obtain ⟨other, text', rfl⟩ := Descriptor.parseMethod_ok_iff.1 isVariant.parses
  have unclosed := Descriptor.WrittenMethod.unclosed (plain written text)
  have same := Descriptor.parameters_of_parameterPart? text text' unclosed isVariant.part
  rw [Descriptor.WrittenMethod.descriptor, Descriptor.WrittenMethod.descriptor, same]

namespace CheckContext

variable {context : CheckContext} {look : Look} {source : SourceClass} {problem : Problem}
  {actual : String}

/-! Only the search for a method tells of a changed return type. -/

theorem classNotFound_unchanged {name : String}
    (answered : (context.classNotFound source name).answer look = .ok (some problem)) :
    problem.kind ≠ .returnTypeChanged actual := by
  rcases classNotFound_ok answered with none | same
  · cases none
  · cases same
    exact ProblemKind.noConfusion

private theorem symbolNotFound_unchanged {symbol : Symbol} {target : LoadedClass}
    (answered : (context.symbolNotFound source symbol target).answer look = .ok (some problem)) :
    problem.kind ≠ .returnTypeChanged actual := by
  rcases symbolNotFound_ok answered with none | same
  · cases none
  · cases same
    exact ProblemKind.noConfusion

theorem checkClassAccess_unchanged {target : LoadedClass}
    (answered : (context.checkClassAccess source target).answer look = .ok (some problem)) :
    problem.kind ≠ .returnTypeChanged actual := by
  obtain ⟨access, _, answered⟩ := Inquiry.answer_bind_ok answered
  cases access with
  | accessible => cases answered
  | inaccessible =>
    cases answered
    exact ProblemKind.noConfusion
  | missingEnclosing outer => exact classNotFound_unchanged answered

private theorem checkMemberAccess_unchanged {symbol : Symbol} {declaring : LoadedClass} {access : Access}
    (answered : (context.checkMemberAccess source symbol declaring access).answer look =
      .ok (some problem)) : problem.kind ≠ .returnTypeChanged actual := by
  rw [checkMemberAccess_kind answered]
  exact ProblemKind.noConfusion

theorem checkClass_unchanged {symbol : Symbol}
    (answered : (context.checkClass source symbol).answer look = .ok (some problem)) :
    problem.kind ≠ .returnTypeChanged actual := by
  obtain ⟨lookup, known, answered⟩ := Inquiry.answer_find_bind_ok answered
  cases lookup with
  | system => cases answered
  | notFound =>
    dsimp only at answered
    split at answered
    · cases answered
    · exact classNotFound_unchanged answered
  | found target =>
    dsimp only at answered
    split at answered
    · cases answered
      exact ProblemKind.noConfusion
    · exact checkClassAccess_unchanged answered

private theorem checkField_unchanged {field : FieldSymbol}
    (answered : (context.checkField source field).answer look = .ok (some problem)) :
    problem.kind ≠ .returnTypeChanged actual := by
  obtain ⟨lookup, known, answered⟩ := Inquiry.answer_find_bind_ok answered
  cases lookup with
  | system => cases answered
  | notFound => exact classNotFound_unchanged answered
  | found target =>
    obtain ⟨access, accessed, answered⟩ := Inquiry.answer_bind_ok answered
    cases access with
    | some other =>
      cases answered
      exact checkClassAccess_unchanged accessed
    | none =>
      obtain ⟨hierarchy, computed, answered⟩ := Inquiry.answer_bind_ok answered
      split at answered
      · exact classNotFound_unchanged answered
      · split at answered
        · exact checkMemberAccess_unchanged answered
        · split at answered
          · cases answered
          · exact symbolNotFound_unchanged answered

/-- A return type is reported as changed for a class that was looked up and has a variant of the
method. -/
structure Reports (look : Look) (method : MethodSymbol) (actual : String) (problem : Problem)
    (loaded : LoadedClass) : Prop where
  found : ∃ name, look name = .ok (.found loaded)
  varies : loaded.info.Varies method actual
  symbol : problem.symbol = .method method
  target : problem.target = some loaded.location

private theorem checkMethodIn_changed {method : MethodSymbol} {target : LoadedClass} {hierarchy : Hierarchy}
    (found : ∀ loaded ∈ hierarchy.classes, ∃ name, look name = .ok (.found loaded))
    (answered : (context.checkMethodIn source method target hierarchy).answer look =
      .ok (some problem))
    (changed : problem.kind = .returnTypeChanged actual) :
    ∃ loaded, Reports look method actual problem loaded := by
  unfold checkMethodIn at answered
  dsimp only at answered
  split at answered
  · exact absurd changed (checkMemberAccess_unchanged answered)
  · split at answered
    · cases answered
    · split at answered
      · next loaded returned variant =>
        cases answered
        cases changed
        obtain ⟨member, varies⟩ := changedReturnType?_some variant
        have listed : loaded ∈ hierarchy.classes := by
          split at member
          · exact List.mem_of_mem_take member
          · exact member
        exact ⟨loaded, found loaded listed, varies, rfl, rfl⟩
      · exact absurd changed (symbolNotFound_unchanged answered)

private theorem checkMethod_changed {method : MethodSymbol}
    (answered : (context.checkMethod source method).answer look = .ok (some problem))
    (changed : problem.kind = .returnTypeChanged actual) :
    ∃ loaded, Reports look method actual problem loaded := by
  unfold checkMethod at answered
  split at answered
  · cases answered
  · obtain ⟨lookup, known, answered⟩ := Inquiry.answer_find_bind_ok answered
    cases lookup with
    | system => cases answered
    | notFound => exact absurd changed (classNotFound_unchanged answered)
    | found target =>
      obtain ⟨access, accessed, answered⟩ := Inquiry.answer_bind_ok answered
      cases access with
      | some other =>
        cases answered
        exact absurd changed (checkClassAccess_unchanged accessed)
      | none =>
        dsimp only at answered
        split at answered
        · cases answered
          cases changed
        · obtain ⟨hierarchy, computed, answered⟩ := Inquiry.answer_bind_ok answered
          split at answered
          · exact absurd changed (classNotFound_unchanged answered)
          · refine checkMethodIn_changed (fun loaded member => ?_) answered changed
            rcases Hierarchy.of_allFound computed loaded member with same | found
            · exact ⟨method.owner, same ▸ known⟩
            · exact found

private theorem checkSymbol_changed {symbol : Symbol}
    (answered : (context.checkSymbol source symbol).answer look = .ok (some problem))
    (changed : problem.kind = .returnTypeChanged actual) :
    ∃ method loaded, Reports look method actual problem loaded := by
  cases symbol with
  | «class» name => exact absurd changed (checkClass_unchanged answered)
  | superClass name => exact absurd changed (checkClass_unchanged answered)
  | superInterface name => exact absurd changed (checkClass_unchanged answered)
  | method method => exact ⟨method, checkMethod_changed answered changed⟩
  | field field => exact absurd changed (checkField_unchanged answered)

end CheckContext

namespace Checker

variable {checker : Checker} {fs : FileSystem} {problems : List Problem} {problem : Problem}
  {actual : String}

private theorem reports_of_changed (ran : checker.problems fs = .ok problems) (member : problem ∈ problems)
    (changed : problem.kind = .returnTypeChanged actual) :
    ∃ method loaded,
      CheckContext.Reports (checker.loader.load fs) method actual problem loaded := by
  obtain ⟨row, _, info, _, found⟩ := findsAmong_of_mem ran member
  rcases found with ⟨_, _, symbol, _, _, answered⟩ | ⟨abstract, answered, member⟩
  · exact CheckContext.checkSymbol_changed answered changed
  · obtain ⟨declaring, method, _, rfl⟩ := CheckContext.checkAbstractMethods_ok answered member
    cases changed

/-- For descriptors that are read and name classes plainly, the texts of the parameters agree
exactly if the parameter types do. So every return type that a run reports as changed is that of a
method, declared by the class that the problem points to, with the name and the parameter types of
the reference. -/
theorem changed_returnTypes_keep_parameters :
    (∀ {first second : String} {firstTypes secondTypes : MethodDescriptor},
      Descriptor.parseMethod first = .ok firstTypes → Descriptor.NamesPlainly first →
      Descriptor.parseMethod second = .ok secondTypes → Descriptor.NamesPlainly second →
      ∃ firstPart secondPart, Descriptor.parameterPart? first = some firstPart ∧
        Descriptor.parameterPart? second = some secondPart ∧
        (firstPart = secondPart ↔ firstTypes.parameters = secondTypes.parameters)) ∧
    ∀ {checker : Checker} {fs : FileSystem} {problems : List Problem} {problem : Problem}
      {actual : String}, checker.problems fs = .ok problems → problem ∈ problems →
      problem.kind = .returnTypeChanged actual →
      ∃ method name loaded declared types, problem.symbol = .method method ∧
        checker.loader.load fs name = .ok (.found loaded) ∧
        problem.target = some loaded.location ∧
        declared ∈ loaded.info.methods ∧ declared.name = method.name ∧
        Descriptor.parseMethod declared.descriptor = .ok types ∧ types.returnTypeName = actual ∧
        ∀ referred, Descriptor.parseMethod method.descriptor = .ok referred →
          Descriptor.NamesPlainly method.descriptor → types.parameters = referred.parameters := by
  refine ⟨Descriptor.parameterPart?_eq_iff, ?_⟩
  intro checker fs problems problem actual ran member changed
  obtain ⟨method, loaded, reports⟩ := reports_of_changed ran member changed
  obtain ⟨name, found⟩ := reports.found
  obtain ⟨declared, types, isVariant⟩ := reports.varies.exists_variant
  exact ⟨method, name, loaded, declared, types, reports.symbol, found, reports.target,
    isVariant.declares, isVariant.name, isVariant.parses, isVariant.returns,
    fun _ => isVariant.parameters_eq⟩

end Checker

namespace ParameterSample

open Descriptor (WrittenType WrittenMethod NamesPlainly)

def objects : WrittenType := ⟨1, .object ⟨"a/B".toList, by decide, by decide⟩, by decide⟩

def number : WrittenType := ⟨0, .base .int, by decide⟩

/-- A method that takes an array of `a.B` and a number. -/
def taking (returned : Option WrittenType) : WrittenMethod := ⟨[objects, number], returned⟩

private theorem namesPlainly (returned : Option WrittenType) {descriptor : String}
    (text : (taking returned).text = descriptor.toList) : NamesPlainly descriptor := by
  intro written text'
  rw [WrittenMethod.text_injective (text'.trans text.symm)]
  intro parameter among
  simp only [taking, List.mem_cons, List.not_mem_nil, or_false] at among
  rcases among with rfl | rfl
  · rintro name ⟨⟩
    decide
  · rintro name ⟨⟩

private theorem parse_taking (returned : Option WrittenType) {descriptor : String}
    (text : (taking returned).text = descriptor.toList) :
    Descriptor.parseMethod descriptor = .ok (taking returned).descriptor :=
  Descriptor.parseMethod_ok_iff.2 ⟨_, text, rfl⟩

def library : ClasspathEntry := .ofPath ⟨"lib.jar"⟩

def application : ClasspathEntry := .ofPath ⟨"s.jar"⟩

/-- The class `a.S` calls a method of `p.C` that returns a number by now. Another one has the same
name, but other parameters. -/
def files : FileSystem := .ofNodes [
  (⟨false, ["lib.jar"]⟩, .archive [⟨"p/C.class", ((ClassDraft.ofClass "p.C").declareAll
    [.method .public "m" "(I)J", .method .public "m" "([La/B;I)I"]).build⟩]),
  (⟨false, ["s.jar"]⟩, .archive [⟨"a/S.class",
    ((ClassDraft.ofClass "a.S").declare (.invokes "p.C" "m" "([La/B;I)V")).build⟩])]

def changed : Problem :=
  ⟨.returnTypeChanged "int", .method ⟨"p.C", "m", "([La/B;I)V", false⟩, ⟨application, "a.S"⟩,
    some ⟨library, "p.C"⟩, none⟩

theorem changed_returnType_keeps_parameters :
    (∃ first second, Descriptor.parameterPart? "([La/B;I)V" = some first ∧
      Descriptor.parameterPart? "([La/B;I)I" = some second ∧ first = second) ∧
    ∃ checker name loaded declared types,
      Checker.create files (.ofPaths [library.path, application.path]) (CheckerConfig.default none)
        [] = .ok checker ∧
      checker.problems files = .ok [changed] ∧
      checker.loader.load files name = .ok (.found loaded) ∧ declared ∈ loaded.info.methods ∧
      Descriptor.parseMethod declared.descriptor = .ok types ∧ types.returnTypeName = "int" ∧
      types.parameters = [.array (.object "a.B"), .base .int] := by
  have read : Descriptor.parseMethod "([La/B;I)V" = _ := parse_taking none rfl
  have plain : NamesPlainly "([La/B;I)V" := namesPlainly none rfl
  have read' : Descriptor.parseMethod "([La/B;I)I" = _ := parse_taking (some number) rfl
  have plain' : NamesPlainly "([La/B;I)I" := namesPlainly (some number) rfl
  obtain ⟨first, second, part, part', same⟩ :=
    Checker.changed_returnTypes_keep_parameters.1 read plain read' plain'
  refine ⟨⟨first, second, part, part', same.2 rfl⟩, ?_⟩
  have ran : (Checker.create files (.ofPaths [library.path, application.path])
      (CheckerConfig.default none) [] >>= fun checker => checker.problems files) = .ok [changed] :=
    toOption_eq_some_iff.1 (by decide +kernel)
  obtain ⟨checker, created, ran⟩ := bind_ok ran
  obtain ⟨method, name, loaded, declared, types, symbol, found, _, declares, _, parses, returns,
    keeps⟩ := Checker.changed_returnTypes_keep_parameters.2 ran List.mem_cons_self rfl
  cases symbol
  exact ⟨checker, name, loaded, declared, types, created, ran, found, declares, parses, returns,
    keeps _ read plain⟩

end ParameterSample

end Linkage
