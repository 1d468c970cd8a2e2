import Linkage.Problem

/-!
Rules that keep accepted problems out of a report.

A rule can restrict the source and the target of the problems that it covers. Each restriction is a
list of matchers, of which one has to match; without one, everything matches.
-/

set_option autoImplicit false

namespace Linkage

/-- Matches classes or members by their names. -/
inductive Matcher where
  /-- The classes of a package and of the packages below it. -/
  | package (name : String)
  | «class» (name : String)
  | method (owner name : String)
  | field (owner name : String)
  deriving DecidableEq, Repr

namespace Matcher

/-- Whether a source class matches. Any name that begins like the package counts, and a nested
class matches with its outermost one. Members have no sources. -/
def matchesSource (matcher : Matcher) (source : ClassLocation) : Bool :=
  match matcher with
  | package name => Text.startsWith source.className name
  | «class» name => source.className == name || source.topLevel.className == name
  | _ => false

/-- Whether a symbol matches. A package or class matches the members of its classes too. -/
def matchesTarget (matcher : Matcher) (symbol : Symbol) : Bool :=
  match matcher, symbol with
  | package name, symbol => Text.startsWith symbol.className (name ++ ".")
  | «class» name, symbol => symbol.className == name
  | method owner name, .method symbol => symbol.owner == owner && symbol.name == name
  | field owner name, .field symbol => symbol.owner == owner && symbol.name == name
  | _, _ => false

end Matcher

/-- A rule that covers problems. -/
structure ExclusionRule where
  source : Option (List Matcher)
  target : Option (List Matcher)
  reason : Option String
  deriving DecidableEq, Repr

namespace ExclusionRule

/-- A rule without a reason. -/
def of (source target : Option (List Matcher)) : ExclusionRule := ⟨source, target, none⟩

/-- Whether the rule covers a problem. -/
def covers (rule : ExclusionRule) (problem : Problem) : Bool :=
  (rule.source.all fun matchers => matchers.any (·.matchesSource problem.source)) &&
    rule.target.all fun matchers => matchers.any (·.matchesTarget problem.symbol)

/-- Rules for libraries whose problems are known not to matter: some classes are only loaded on a
newer platform, and some are put in place when the program runs. -/
def builtIn : List ExclusionRule := [
  of (some [.class "reactor.core.publisher.Traces"]) none,
  of (some [.package "com.oracle.svm", .package "com.oracle.graal", .package "org.graalvm"])
    (some [.package "jdk.vm.ci"]),
  of (some [.package "org.mockito.internal.creation.bytebuddy"])
    (some [.class "org.mockito.internal.creation.bytebuddy.MockMethodDispatcher"])]

/-- Whether one of some rules covers a problem. -/
def excludes (rules : List ExclusionRule) (problem : Problem) : Bool :=
  rules.any (·.covers problem)

end ExclusionRule

end Linkage
