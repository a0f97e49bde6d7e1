import Unannotate.Configuration.Targets
import Unannotate.Json.Decoding

/-!
What can be wrong with a configuration.
-/
set_option autoImplicit false

namespace Unannotate

inductive ConfigurationFault
  | targets (fault : TargetsFault)
  | noRules
  | noMatcher
  | severalMatchers
  /-- A configuration text that is no configuration. -/
  | text (fault : DecodingFault TargetsFault)
  deriving DecidableEq, Repr

namespace ConfigurationFault

def detail : ConfigurationFault → String
  | targets fault => fault.detail
  | noRules => "no annotations set to be removed"
  | noMatcher => "rule needs a matcher: set either name or regexp"
  | severalMatchers => "rule sets more than one matcher: use only one of matcher, name or regexp"
  | text (.unreadable _) => "syntax error"
  | text (.mismatch path reason) => pathText path ++ ": " ++ reason.message TargetsFault.message

def message (fault : ConfigurationFault) : String := "invalid configuration: " ++ fault.detail

end ConfigurationFault

end Unannotate
