import Linkage.Proofs.WrittenElements

/-!
Written exclusion rules are read back.

The document of a baseline has one rule for each target and source class of its problems. Reading it
gives these rules, so different targets or sources are never written in the same way.
-/

set_option autoImplicit false

namespace Linkage

open Markup

namespace Matcher

def tag : Matcher → String
  | package _ => "Package"
  | «class» _ => "Class"
  | method _ _ => "Method"
  | field _ _ => "Field"

def assignments : Matcher → List Assignment
  | package name => [⟨"name", name⟩]
  | «class» name => [⟨"name", name⟩]
  | method owner name => [⟨"className", owner⟩, ⟨"name", name⟩]
  | field owner name => [⟨"className", owner⟩, ⟨"name", name⟩]

/-- Whether a document can hold the names of a matcher. -/
def Plain (matcher : Matcher) : Prop :=
  ∀ assignment ∈ matcher.assignments, ∀ c ∈ assignment.value.toList, IsPlain c

private theorem name_of_assignment {matcher : Matcher} {assignment : Assignment}
    (member : assignment ∈ matcher.assignments) :
    isLocalName assignment.name = true ∧ assignment.name ≠ "xmlns" := by
  have names : ∀ name ∈ ["name", "className"], isLocalName name = true ∧ name ≠ "xmlns" := by decide
  apply names
  cases matcher <;> simp only [assignments, List.mem_cons, List.not_mem_nil, or_false] at member
  case package | «class» => simp [member]
  case method | field => rcases member with rfl | rfl <;> simp

private theorem Plain.readableTag {matcher : Matcher} (plain : matcher.Plain) :
    ReadableTag matcher.tag matcher.assignments where
  isName := by
    have names : ∀ name ∈ ["Package", "Class", "Method", "Field"], isLocalName name = true := by
      decide
    apply names
    cases matcher <;> simp [tag]
  writable assignment member := ⟨(name_of_assignment member).1, plain assignment member⟩
  undeclaring assignment member := (name_of_assignment member).2
  nodup := by cases matcher <;> simp [assignments]

end Matcher

/-- The namespace declarations inside the root of an exclusion file. -/
def exclusionScope : List Markup.Declaration := [⟨none, exclusionNamespace⟩]

def exclusionElement (name : String) (contents : List Content) : Element :=
  writtenElement exclusionScope name [] contents

def Matcher.element (matcher : Matcher) : Element :=
  writtenElement exclusionScope matcher.tag matcher.assignments []

namespace ExclusionReader

theorem checkElement_written {allowed : List String} {name : String}
    {assignments : List Assignment} {contents : List Content}
    (isAllowed : allowed.contains name = true) :
    checkElement allowed (writtenElement exclusionScope name assignments contents) = .ok () := by
  have inNamespace : (writtenElement exclusionScope name assignments contents).uri =
      some exclusionNamespace := rfl
  rw [checkElement, inNamespace]
  simp only [Option.any_some, bne_self_eq_false, Bool.false_eq_true, if_false]
  exact if_pos isAllowed

private theorem matcher_element {allowed : List String} {target : Matcher}
    (isAllowed : allowed.contains target.tag = true) :
    matcher allowed target.element = .ok target := by
  rw [matcher, Matcher.element, checkElement_written isAllowed]
  cases target <;> rfl

private theorem matchers_written {allowed : List String} (target : Matcher) (name : String)
    (isAllowed : allowed.contains target.tag = true) :
    matchers allowed (exclusionElement name [target.element.content]) = .ok [target] := by
  have inside : (exclusionElement name [target.element.content]).elements = [target.element] :=
    elements_writtenElement name _
  rw [matchers, inside, List.mapM_cons, matcher_element isAllowed]
  rfl

private theorem addPart_target (target : Matcher) (rule : ExclusionRule) (new : rule.target = none) :
    addPart rule (exclusionElement "Target" [target.element.content]) =
      .ok { rule with target := some [target] } := by
  have isAllowed : ["Package", "Class", "Method", "Field"].contains target.tag = true := by
    cases target <;> rfl
  unfold addPart
  rw [exclusionElement, checkElement_written rfl, ← exclusionElement]
  change (if rule.target.isSome then _ else (matchers _ _).bind _) = _
  rw [new, matchers_written target "Target" isAllowed]
  rfl

private theorem addPart_source (source : String) (rule : ExclusionRule) (new : rule.source = none) :
    addPart rule (exclusionElement "Source" [(Matcher.class source).element.content]) =
      .ok { rule with source := some [.class source] } := by
  unfold addPart
  rw [exclusionElement, checkElement_written rfl, ← exclusionElement]
  change (if rule.source.isSome then _ else (matchers _ _).bind _) = _
  rw [new, matchers_written (.class source) "Source" rfl]
  rfl

end ExclusionReader

/-- A target and the class of a source, which a rule of a baseline is written for. -/
structure Suppression where
  target : Matcher
  source : String
  deriving DecidableEq, Repr

/-- The matcher that a symbol is written as. -/
def Symbol.matcher : Symbol → Matcher
  | .method symbol => .method symbol.owner symbol.name
  | .field symbol => .field symbol.owner symbol.name
  | symbol => .class symbol.className

namespace Suppression

def ofProblem (problem : Problem) : Suppression :=
  ⟨problem.symbol.matcher, problem.source.className⟩

def rule (suppression : Suppression) : ExclusionRule :=
  .of (some [.class suppression.source]) (some [suppression.target])

private theorem rule_injective {first second : Suppression} (same : first.rule = second.rule) :
    first = second := by
  cases first
  cases second
  cases same
  rfl

def Plain (suppression : Suppression) : Prop :=
  suppression.target.Plain ∧ (Matcher.class suppression.source).Plain

/-- The parts of a rule, with the white space around them. -/
def contents (suppression : Suppression) : List Content :=
  spaces "\n    ".toList ++
    [(exclusionElement "Target" [suppression.target.element.content]).content] ++
    (spaces "\n    ".toList ++
      [(exclusionElement "Source" [(Matcher.class suppression.source).element.content]).content]) ++
    spaces "\n  ".toList

def element (suppression : Suppression) : Element :=
  exclusionElement "LinkageError" suppression.contents

private theorem elements_element (suppression : Suppression) :
    suppression.element.elements =
      [exclusionElement "Target" [suppression.target.element.content],
        exclusionElement "Source" [(Matcher.class suppression.source).element.content]] := by
  rw [element, exclusionElement, elements_writtenElement, contents]
  simp only [List.filterMap_append, filterMap_spaces]
  rfl

private theorem rule_element (suppression : Suppression) :
    ExclusionReader.rule suppression.element = .ok suppression.rule := by
  have started : ExclusionReader.checkElement ["LinkageError"] suppression.element = .ok () :=
    ExclusionReader.checkElement_written rfl
  have first := ExclusionReader.addPart_target suppression.target (.of none none) rfl
  have second := ExclusionReader.addPart_source suppression.source
    (.of none (some [suppression.target])) rfl
  unfold ExclusionReader.rule
  rw [started, elements_element]
  change (ExclusionReader.addPart _ _).bind _ = _
  rw [first]
  exact congrArg (Except.bind · _) second

def sourceText (suppression : Suppression) (rest : List Char) : List Char :=
  "\n    ".toList ++ startTag "Source" [] false (
    startTag "Class" (Matcher.class suppression.source).assignments true (endTag "Source" rest))

def targetText (suppression : Suppression) (rest : List Char) : List Char :=
  "\n    ".toList ++ startTag "Target" [] false (
    startTag suppression.target.tag suppression.target.assignments true (endTag "Target" rest))

/-- A rule behind the end of a line. -/
def ruleText (suppression : Suppression) (rest : List Char) : List Char :=
  "\n  ".toList ++ startTag "LinkageError" [] false (suppression.targetText (
    suppression.sourceText ("\n  ".toList ++ endTag "LinkageError" rest)))

theorem Plain.reads {suppression : Suppression} (plain : suppression.Plain) :
    Reads exclusionScope suppression.ruleText
      (spaces "\n  ".toList ++ [suppression.element.content]) := by
  have plainTag : ∀ name ∈ ["LinkageError", "Target", "Source"], ReadableTag name [] := by
    intro name member
    have names : ∀ name ∈ ["LinkageError", "Target", "Source"], isLocalName name = true := by decide
    exact ⟨names name member, by simp, by simp, by simp⟩
  have target : Reads exclusionScope
      (startTag suppression.target.tag suppression.target.assignments true)
      [suppression.target.element.content] := Reads.ended plain.1.readableTag
  have source : Reads exclusionScope
      (startTag "Class" (Matcher.class suppression.source).assignments true)
      [(Matcher.class suppression.source).element.content] := Reads.ended plain.2.readableTag
  have targets := target.element (plainTag "Target" (by decide)) (show IsBlank [] by decide)
  have sources := source.element (plainTag "Source" (by decide)) (show IsBlank [] by decide)
  have indent : IsBlank "\n    ".toList := by decide
  have outdent : IsBlank "\n  ".toList := by decide
  have inner := (targets.indented indent fun _ => rfl).followed
    (sources.indented indent fun _ => rfl)
  exact (inner.element (plainTag "LinkageError" (by decide)) outdent).indented outdent fun _ => rfl

end Suppression

namespace ExclusionWriter

theorem toList_between (before inner after : String) (rest : List Char) :
    (before ++ inner ++ after).toList ++ rest =
      before.toList ++ (inner.toList ++ (after.toList ++ rest)) := by
  simp

theorem toList_escape (value : String) : (escape value).toList = value.toList.flatMap escapeChar :=
  String.toList_ofList

private theorem classElement_append (name : String) (rest : List Char) :
    (classElement name).toList ++ rest =
      startTag "Class" (Matcher.class name).assignments true rest := by
  have opening : ∀ tail, "<Class name=\"".toList ++ tail =
      '<' :: ("Class".toList ++ ' ' :: ("name".toList ++ '=' :: '"' :: tail)) := fun _ => rfl
  have written := toList_between "<Class name=\"" (escape name) "\"/>" rest
  rw [toList_escape] at written
  exact written.trans (opening _)

private theorem memberElement_append (kind owner name : String) (rest : List Char) :
    (memberElement kind owner name).toList ++ rest =
      startTag kind (Matcher.method owner name).assignments true rest := by
  have first : ∀ tail, " className=\"".toList ++ tail =
      ' ' :: ("className".toList ++ '=' :: '"' :: tail) := fun _ => rfl
  have second : ∀ tail, "\" name=\"".toList ++ tail =
      '"' :: ' ' :: ("name".toList ++ '=' :: '"' :: tail) := fun _ => rfl
  have written := toList_between ("<" ++ kind ++ " className=\"" ++ escape owner ++ "\" name=\"")
    (escape name) "\"/>" rest
  refine written.trans ((toList_between ("<" ++ kind ++ " className=\"") (escape owner) _ _).trans
    ((toList_between "<" kind _ _).trans ?_))
  rw [toList_escape, toList_escape, first, second]
  rfl

theorem targetElement_append (symbol : Symbol) (rest : List Char) :
    (targetElement symbol).toList ++ rest =
      startTag symbol.matcher.tag symbol.matcher.assignments true rest := by
  cases symbol with
  | method symbol => exact memberElement_append "Method" symbol.owner symbol.name rest
  | field symbol => exact memberElement_append "Field" symbol.owner symbol.name rest
  | «class» name | superClass name | superInterface name => exact classElement_append name rest

private theorem toList_text (rule : WrittenRule) (rest : List Char) :
    rule.text.toList ++ rest = "  <LinkageError>\n    <Target>".toList ++ (rule.target.toList ++
      ("</Target>\n    <Source>".toList ++ (rule.source.toList ++
        ("</Source>\n  </LinkageError>\n".toList ++ rest)))) :=
  (toList_between _ _ _ rest).trans (toList_between _ _ _ _)

private theorem text_append (problem : Problem) (rest : List Char) :
    '\n' :: ((WrittenRule.ofProblem problem).text.toList ++ rest) =
      (Suppression.ofProblem problem).ruleText ('\n' :: rest) := by
  have opening : ∀ tail, '\n' :: ("  <LinkageError>\n    <Target>".toList ++ tail) =
      "\n  ".toList ++ startTag "LinkageError" [] false (
        "\n    ".toList ++ startTag "Target" [] false tail) := fun _ => rfl
  have middle : ∀ tail, "</Target>\n    <Source>".toList ++ tail =
      endTag "Target" ("\n    ".toList ++ startTag "Source" [] false tail) := fun _ => rfl
  have source := (middle _).trans (congrArg
    (fun tail => endTag "Target" ("\n    ".toList ++ startTag "Source" [] false tail))
    (classElement_append problem.source.className
      ("</Source>\n  </LinkageError>\n".toList ++ rest)))
  have target := (targetElement_append problem.symbol _).trans (congrArg
    (startTag problem.symbol.matcher.tag problem.symbol.matcher.assignments true) source)
  -- Rewriting would compare the long literals with each other, so the equations are put together.
  refine (congrArg ('\n' :: ·) (toList_text _ rest)).trans ((opening _).trans ?_)
  exact congrArg (fun tail => "\n  ".toList ++ startTag "LinkageError" [] false (
    "\n    ".toList ++ startTag "Target" [] false tail)) target

def document (rules : List WrittenRule) : String :=
  "<?xml version=\"1.0\" encoding=\"UTF-8\"?>\n<LinkageCheckerFilter xmlns=\"" ++
    exclusionNamespace ++ "\">\n" ++ String.join (rules.map (·.text)) ++
    "</LinkageCheckerFilter>\n"

def rulesText (problems : List Problem) (rest : List Char) : List Char :=
  problems.foldr (fun problem => (Suppression.ofProblem problem).ruleText) rest

private theorem join_append (problems : List Problem) (rest : List Char) :
    '\n' :: ((String.join ((problems.map WrittenRule.ofProblem).map (·.text))).toList ++ rest) =
      rulesText problems ('\n' :: rest) := by
  induction problems with
  | nil => simp [rulesText]
  | cons problem others ih =>
    rw [List.map_cons, List.map_cons, String.join_cons, String.toList_append, List.append_assoc,
      text_append, ih]
    rfl

private theorem toList_document (rules : List WrittenRule) :
    (document rules).toList =
      "<?xml version=\"1.0\" encoding=\"UTF-8\"?>\n<LinkageCheckerFilter xmlns=\"".toList ++
        (exclusionNamespace.toList ++ ("\">\n".toList ++
          ((String.join (rules.map (·.text))).toList ++ "</LinkageCheckerFilter>\n".toList))) := by
  have parts := (toList_between _ _ _ []).trans (toList_between
    "<?xml version=\"1.0\" encoding=\"UTF-8\"?>\n<LinkageCheckerFilter xmlns=\"" exclusionNamespace
    "\">\n" ((String.join (rules.map (·.text))).toList ++
      ("</LinkageCheckerFilter>\n".toList ++ [])))
  rw [List.append_nil, List.append_nil] at parts
  exact parts

private theorem document_append (problems : List Problem) :
    (document (problems.map WrittenRule.ofProblem)).toList =
      declarationText.toList ++ ("\n".toList ++
        startTag "LinkageCheckerFilter" [⟨"xmlns", exclusionNamespace⟩] false
          (rulesText problems ("\n".toList ++ endTag "LinkageCheckerFilter" "\n".toList))) := by
  have header :
      "<?xml version=\"1.0\" encoding=\"UTF-8\"?>\n<LinkageCheckerFilter xmlns=\"".toList =
        declarationText.toList ++ "\n<LinkageCheckerFilter xmlns=\"".toList := by decide +kernel
  have opening : ∀ tail, "\n<LinkageCheckerFilter xmlns=\"".toList ++ tail =
      "\n".toList ++ '<' :: ("LinkageCheckerFilter".toList ++
        ' ' :: ("xmlns".toList ++ '=' :: '"' :: tail)) := fun _ => rfl
  have unescaped : exclusionNamespace.toList.flatMap escapeChar = exclusionNamespace.toList := by
    decide +kernel
  have body := congrArg
    (fun tail => exclusionNamespace.toList.flatMap escapeChar ++ '"' :: '>' :: tail)
    (join_append problems "</LinkageCheckerFilter>\n".toList)
  refine (toList_document _).trans ((congrArg (· ++ _) header).trans
    ((List.append_assoc _ _ _).trans (congrArg (declarationText.toList ++ ·)
      ((opening _).trans ?_))))
  rw [← unescaped]
  exact congrArg (fun tail => "\n".toList ++ '<' :: ("LinkageCheckerFilter".toList ++
    ' ' :: ("xmlns".toList ++ '=' :: '"' :: tail))) body

/-- The rules in the root, with the white space in front of them. -/
def rulesContents (problems : List Problem) : List Content :=
  problems.flatMap fun problem =>
    spaces "\n  ".toList ++ [(Suppression.ofProblem problem).element.content]

private theorem elements_rulesContents (problems : List Problem) :
    (rulesContents problems).filterMap Content.element? =
      problems.map fun problem => (Suppression.ofProblem problem).element := by
  induction problems with
  | nil => rfl
  | cons problem others ih =>
    rw [rulesContents] at ih ⊢
    rw [List.flatMap_cons, List.filterMap_append, List.filterMap_append, filterMap_spaces, ih]
    rfl

private theorem reads_rulesText {problems : List Problem}
    (plain : ∀ problem ∈ problems, (Suppression.ofProblem problem).Plain) :
    Reads exclusionScope (rulesText problems) (rulesContents problems) := by
  induction problems with
  | nil => exact Reads.nothing
  | cons problem others ih =>
    obtain ⟨first, follow⟩ := List.forall_mem_cons.1 plain
    exact first.reads.followed (ih follow)

private theorem parse?_document {problems : List Problem}
    (plain : ∀ problem ∈ problems, (Suppression.ofProblem problem).Plain) :
    parse? (document (problems.map WrittenRule.ofProblem)) =
      some (exclusionElement "LinkageCheckerFilter"
        (rulesContents problems ++ spaces "\n".toList)) := by
  have newline : IsBlank "\n".toList := by decide
  have uriPlain : ∀ c ∈ exclusionNamespace.toList, IsPlain c := isPlain_of_all (by decide +kernel)
  have skipped : Builder.next? ⟨[], none⟩ (.text "\n".toList) = some ⟨[], none⟩ := rfl
  have read := readFrom_root (show isLocalName "LinkageCheckerFilter" = true by decide)
    uriPlain (by decide) (reads_rulesText plain) newline newline
  rw [parse?_declared (document_append problems), readFrom_text newline (by decide) _ rfl, skipped,
    Option.bind_some, read]
  rfl

theorem parse_document {problems : List Problem}
    (plain : ∀ problem ∈ problems, (Suppression.ofProblem problem).Plain) :
    ExclusionReader.parse (document (problems.map WrittenRule.ofProblem)) =
      .ok (problems.map fun problem => (Suppression.ofProblem problem).rule) := by
  have inside : (exclusionElement "LinkageCheckerFilter"
      (rulesContents problems ++ spaces "\n".toList)).elements =
        problems.map fun problem => (Suppression.ofProblem problem).element := by
    rw [exclusionElement, elements_writtenElement, List.filterMap_append, elements_rulesContents,
      filterMap_spaces, List.append_nil]
  have root : ExclusionReader.checkElement ["LinkageCheckerFilter"]
      (exclusionElement "LinkageCheckerFilter" (rulesContents problems ++ spaces "\n".toList)) =
        .ok () := ExclusionReader.checkElement_written rfl
  unfold ExclusionReader.parse
  rw [parse?_document plain]
  dsimp only
  rw [root, inside, List.mapM_map]
  have rules : ExclusionReader.rule ∘ (fun problem => (Suppression.ofProblem problem).element) =
      fun problem => pure (Suppression.ofProblem problem).rule :=
    funext fun problem => (Suppression.ofProblem problem).rule_element
  exact (congrArg (problems.mapM ·) rules).trans List.mapM_pure

/-- Equal rules are written for the same target and source class only. -/
theorem ofProblem_eq_iff {first second : Problem} (plain : (Suppression.ofProblem first).Plain)
    (plain' : (Suppression.ofProblem second).Plain) :
    WrittenRule.ofProblem first = WrittenRule.ofProblem second ↔
      Suppression.ofProblem first = Suppression.ofProblem second := by
  constructor
  · intro same
    have read := parse_document (List.forall_mem_singleton.2 plain)
    have read' := parse_document (List.forall_mem_singleton.2 plain')
    rw [List.map_singleton, same, ← List.map_singleton, read'] at read
    exact (Suppression.rule_injective (List.singleton_inj.1 (Except.ok.inj read))).symm
  · intro same
    obtain ⟨target, source⟩ := Suppression.mk.inj same
    have written := targetElement_append first.symbol []
    rw [target, ← targetElement_append, List.append_nil, List.append_nil] at written
    rw [WrittenRule.ofProblem, WrittenRule.ofProblem, String.toList_inj.1 written, source]

end ExclusionWriter

end Linkage
