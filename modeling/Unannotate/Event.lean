import Unannotate.AttachmentPoint
import Unannotate.Matcher
import Unannotate.StripFlags
import Unannotate.Text.Hexadecimal

/-!
Events that a run reports, and the log records that show them.
-/
set_option autoImplicit false

namespace Unannotate

inductive Severity
  | debug
  | info
  | warning
  deriving DecidableEq, Repr

def Severity.label : Severity → String
  | debug => "DEBUG"
  | info => "INFO"
  | warning => "WARN"

inductive Event
  /-- Neither a matcher nor a flag has anything to do. -/
  | nothingToPurge
  /-- A matcher of the configuration, by its description. -/
  | removing (matcher : String) (kind : ElementKind)
  | stripping (flags : StripFlags)
  | flagWithoutEffect (flag : StripFlag)
  /-- A trace was started; its identifier is random and not kept. -/
  | tracing
  | unsupportedInput (path : String)
  | processing (path : String)
  | upToDate (path : String)
  /-- The layout check stopped at an attribute that it does not know. -/
  | toleratedAttribute (name : String)
  | removed (removal : Removal) (className : String)
  | removedReferences (origin : String) (count : Nat) (className : String)
  | skippingDuplicates (origin : String) (count : Nat)
  | ignoringTruncatedField (origin : String) (id : Nat)
  | droppingField (origin : String) (id : Nat)
  | repackedArchive (origin : String) (count : Nat)
  deriving DecidableEq, Repr

namespace Event

def severity : Event → Severity
  | nothingToPurge | flagWithoutEffect _ | unsupportedInput _ | upToDate _ => .warning
  | stripping _ | tracing | processing _ | repackedArchive _ _ => .info
  | removing _ _ | toleratedAttribute _ | removed _ _ | removedReferences _ _ _
  | skippingDuplicates _ _ | ignoringTruncatedField _ _ | droppingField _ _ => .debug

/-- The part of the program that a record names. -/
def source : Event → String
  | nothingToPurge | removing _ _ | stripping _ | flagWithoutEffect _ | tracing => "purgeannorefs"
  | unsupportedInput _ | processing _ | upToDate _ => "purgeannorefs::walk"
  | toleratedAttribute _ | removed _ _ => "purgeannorefs::remover"
  | removedReferences _ _ _ | skippingDuplicates _ _ | ignoringTruncatedField _ _
  | droppingField _ _ | repackedArchive _ _ => "purgeannorefs::archive"

def fieldId (id : Nat) : String := "0x" ++ Text.hexPadded 4 id

def message : Event → String
  | nothingToPurge => "nothing to rewrite; classes will be copied unchanged"
  | removing matcher kind => s!"removing {matcher} from {kind.name}"
  | stripping flags => "rewrite flags: " ++ flags.description
  | flagWithoutEffect flag =>
    s!"rewrite flag {flag.label} has no effect; stack map frames are copied as they are"
  | tracing => "trace id *"
  | unsupportedInput path => "skipping unsupported input " ++ path
  | processing path => "processing " ++ path
  | upToDate path => path ++ " is up to date"
  | toleratedAttribute name =>
    "tolerating class file parser error: I/O Error: unmatched attribute: " ++ name
  | removed removal className => s!"removed {removal.description} class={className}"
  | removedReferences origin count className =>
    s!"{origin}: removed {count} annotation reference(s) from {className}"
  | skippingDuplicates origin count => s!"{origin}: skipping {count} duplicate entries"
  | ignoringTruncatedField origin id =>
    s!"{origin}: ignoring truncated extra field " ++ fieldId id
  | droppingField origin id => s!"{origin}: dropping extra field " ++ fieldId id
  | repackedArchive origin count => s!"{origin}: rewrote archive of {count} entries"

/-- Whether the record of an event is shown: details never are, and a quiet run shows warnings alone. -/
def isShown (quiet : Bool) (event : Event) : Bool :=
  match event.severity with
  | .warning => true
  | .info => !quiet
  | .debug => false

/-- The log record of an event. -/
def record (event : Event) : String :=
  event.severity.label ++ " " ++ event.source ++ ": " ++ event.message

end Event

/-- The records that are shown: warnings alone when the run is quiet. -/
def recordFilter (quiet : Bool) : String := if quiet then "warn" else "purgeannorefs=info,warn"

end Unannotate
