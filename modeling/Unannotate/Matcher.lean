import Unannotate.Pattern.Parser

/-!
Predicates over the dotted class names of annotations.
-/
set_option autoImplicit false

namespace Unannotate

inductive Matcher
  /-- Equality of names. -/
  | literal (name : String)
  /-- A pattern with the text it was read from, matched between the ends of the name. -/
  | regex (text : String) (pattern : Pattern)

namespace Matcher

/-- The text of a pattern as it is compiled, so that it has to match the whole candidate. -/
def anchored (text : String) : String := "^(?:" ++ text ++ ")$"

/-- None when the text is no pattern. -/
def ofPattern? (text : String) : Option Matcher :=
  (Pattern.parse? (anchored text).toList).map (regex text)

def accepts : Matcher → String → Bool
  | literal name, candidate => name = candidate
  | regex _ pattern, candidate => pattern.occursIn candidate.toList

/-- The kind of matcher and what it was made from. -/
def description : Matcher → String
  | literal name => "name:" ++ name
  | regex text _ => "regexp:" ++ text

end Matcher

end Unannotate
