import Unannotate.Configuration.Targets
import Unannotate.Failure
import Unannotate.FilterSet
import Unannotate.StripFlags

/-!
Rules, and the configuration that a list of rules amounts to.
-/
set_option autoImplicit false

namespace Unannotate

inductive MatcherKind
  | literal
  | regex
  deriving DecidableEq, Repr

structure MatcherSpec where
  kind : MatcherKind
  value : String
  deriving DecidableEq, Repr

/-- A rule as written: a matcher in full, or a name or a pattern in short. -/
structure RuleSpec where
  matcher : Option MatcherSpec := none
  name : Option String := none
  regexp : Option String := none
  targets : Targets := .all
  deriving DecidableEq, Repr

structure Rule where
  targets : Targets
  matcher : Matcher

/-- What a run removes, and what else it drops. -/
structure Configuration where
  filters : FilterSet
  flags : StripFlags

/-- A matcher of a pattern. -/
def Matcher.ofPattern (text : String) : Except Failure Matcher :=
  match Matcher.ofPattern? text with
  | some matcher => .ok matcher
  | none => .error (.ofCause (.invalidPattern text))

def MatcherSpec.toMatcher (spec : MatcherSpec) : Except Failure Matcher :=
  match spec.kind with
  | .literal => .ok (.literal spec.value)
  | .regex => Matcher.ofPattern spec.value

namespace RuleSpec

/-- The one matcher that a rule sets. -/
def toMatcher (spec : RuleSpec) : Except Failure Matcher :=
  match spec.matcher, spec.name, spec.regexp with
  | some matcher, none, none => matcher.toMatcher
  | none, some name, none => .ok (.literal name)
  | none, none, some text => Matcher.ofPattern text
  | none, none, none => .error (.ofCause (.configuration .noMatcher))
  | _, _, _ => .error (.ofCause (.configuration .severalMatchers))

def toRule (spec : RuleSpec) : Except Failure Rule := do
  let matcher ← spec.toMatcher
  return ⟨spec.targets, matcher⟩

end RuleSpec

/-- Adds a rule's matcher to every kind that the rule applies to. -/
def FilterSet.addRule (filters : FilterSet) (rule : Rule) : FilterSet :=
  rule.targets.toList.foldl (fun filters kind => filters.add kind rule.matcher) filters

/-- A configuration removes something: at least one rule is needed. -/
def Configuration.build (rules : List Rule) (flags : StripFlags) : Except Failure Configuration :=
  if rules.isEmpty then .error (.ofCause (.configuration .noRules))
  else .ok ⟨rules.foldl FilterSet.addRule .empty, flags⟩

end Unannotate
