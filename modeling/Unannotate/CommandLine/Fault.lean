/-!
Why arguments are not taken, or what they ask for instead of a run.
-/
set_option autoImplicit false

namespace Unannotate

inductive UsageFault
  | missingRequiredArgument
  | unknownArgument
  | invalidValue
  | argumentConflict
  | tooManyValues
  | help
  | version
  deriving DecidableEq, Repr

def UsageFault.label : UsageFault → String
  | missingRequiredArgument => "MissingRequiredArgument"
  | unknownArgument => "UnknownArgument"
  | invalidValue => "InvalidValue"
  | argumentConflict => "ArgumentConflict"
  | tooManyValues => "TooManyValues"
  | help => "DisplayHelp"
  | version => "DisplayVersion"

end Unannotate
