import Linkage.Exclusion.Reader

/-!
Writing exclusion rules that cover given problems.

There is one rule for each target and source class, in the order of their written forms. A method or
field is written without its descriptor.
-/

set_option autoImplicit false

namespace Linkage.ExclusionWriter

/-- The text for a character in an attribute value. -/
def escapeChar (c : Char) : List Char :=
  match c with
  | '&' => "&amp;".toList
  | '<' => "&lt;".toList
  | '>' => "&gt;".toList
  | '"' => "&quot;".toList
  | c => [c]

def escape (value : String) : String := String.ofList (value.toList.flatMap escapeChar)

/-- The matcher for a class. -/
def classElement (name : String) : String := "<Class name=\"" ++ escape name ++ "\"/>"

/-- The matcher for a member of some kind. -/
def memberElement (kind owner name : String) : String :=
  "<" ++ kind ++ " className=\"" ++ escape owner ++ "\" name=\"" ++ escape name ++ "\"/>"

/-- The matcher for a symbol. -/
def targetElement : Symbol → String
  | .method symbol => memberElement "Method" symbol.owner symbol.name
  | .field symbol => memberElement "Field" symbol.owner symbol.name
  | symbol => classElement symbol.className

/-- The written target and source of a rule. -/
structure WrittenRule where
  target : String
  source : String
  deriving DecidableEq, Repr

namespace WrittenRule

def order (a b : WrittenRule) : Ordering :=
  (compare a.target b.target).then (compare a.source b.source)

instance : Ord WrittenRule := ⟨order⟩

/-- The rule that covers a problem. -/
def ofProblem (problem : Problem) : WrittenRule :=
  ⟨targetElement problem.symbol, classElement problem.source.className⟩

def text (rule : WrittenRule) : String :=
  "  <LinkageError>\n    <Target>" ++ rule.target ++ "</Target>\n    <Source>" ++ rule.source ++
    "</Source>\n  </LinkageError>\n"

end WrittenRule

/-- The document with a rule for each problem. -/
def render (problems : List Problem) : String :=
  "<?xml version=\"1.0\" encoding=\"UTF-8\"?>\n<LinkageCheckerFilter xmlns=\"" ++
    exclusionNamespace ++ "\">\n" ++
    String.join ((Ordered.ofList (problems.map WrittenRule.ofProblem)).map (·.text)) ++
    "</LinkageCheckerFilter>\n"

end Linkage.ExclusionWriter
