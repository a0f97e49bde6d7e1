import Unannotate.Configuration.Fault
import Unannotate.CommandLine.Fault
import Unannotate.Endpoint.Fault
import Unannotate.Malformation

/-!
Failures: a cause, and what was being done when it arose.

Contexts are kept from the outermost to the innermost, and a message shows them in this order in front of
the cause. A failed access to files shows its contexts only.
-/
set_option autoImplicit false

namespace Unannotate

inductive Cause
  | configuration (fault : ConfigurationFault)
  | invalidPattern (text : String)
  | malformed (fault : Malformation)
  /-- The file system, or compressed data, did not give what was asked for. -/
  | io
  | endpoint (fault : EndpointFault)
  | inputNotFound (path : String)
  | sharedDestination (first second destination : String)
  /-- Archives nested beyond the limit that a run allows. -/
  | nestingLimit
  | alreadyShutDown
  | usage (fault : UsageFault)
  deriving DecidableEq, Repr

inductive Context
  | loading (path : String)
  | configuring (path : String)
  | reading (name : String)
  | readingTime (name : String)
  | readingDirectory (path : String)
  | readingEntry (archive : String) (index : Nat)
  | processing (origin : String)
  | copying (name : String)
  | writing (name : String)
  | creating (path : String)
  deriving DecidableEq, Repr

structure Failure where
  contexts : List Context
  cause : Cause
  deriving DecidableEq, Repr

namespace Context

def text : Context → String
  | loading path => "failed to load " ++ path
  | configuring path => "invalid configuration in " ++ path
  | reading name => "failed to read " ++ name
  | readingTime name => "failed to read modification time of " ++ name
  | readingDirectory path => "failed to read directory " ++ path
  | readingEntry archive index => s!"failed to read {archive} entry #{index}"
  | processing origin => "failed to process " ++ origin
  | copying name => "failed to copy " ++ name
  | writing name => "failed to write " ++ name
  | creating path => "failed to create " ++ path

end Context

/-- The kinds of failure that callers tell apart. -/
inductive FailureKind
  | configuration
  | invalidPattern
  | malformedArtifact
  | io
  | other
  | usage
  deriving DecidableEq, Repr

namespace Cause

def kind : Cause → FailureKind
  | configuration _ => .configuration
  | invalidPattern _ => .invalidPattern
  | malformed _ => .malformedArtifact
  | io => .io
  | endpoint _ | inputNotFound _ | sharedDestination _ _ _ | nestingLimit | alreadyShutDown => .other
  | usage _ => .usage

/-- None where only the contexts are shown. -/
def message? : Cause → Option String
  | configuration fault => some fault.message
  | invalidPattern text => some ("invalid regular expression " ++ Text.quoted text)
  | malformed fault => some fault.message
  | io => none
  | endpoint fault => some fault.message
  | inputNotFound path => some ("input not found: " ++ path)
  | sharedDestination first second destination =>
    some s!"{first} and {second} would both be written to {destination}"
  | nestingLimit => some "archives nested too deeply"
  | alreadyShutDown => some "failed to shutdown tracer provider: Shutdown already invoked"
  | usage fault => some fault.label

end Cause

namespace Failure

def ofCause (cause : Cause) : Failure := ⟨[], cause⟩

def kind (failure : Failure) : FailureKind := failure.cause.kind

def message (failure : Failure) : String :=
  ": ".intercalate (failure.contexts.map (·.text) ++ failure.cause.message?.toList)

def addContext (context : Context) (failure : Failure) : Failure :=
  { failure with contexts := context :: failure.contexts }

end Failure

/-- The outcome of a step, with what was being done in front of a failure. -/
def whileDoing {α : Type} (context : Context) : Except Failure α → Except Failure α
  | .ok value => .ok value
  | .error failure => .error (failure.addContext context)

end Unannotate
