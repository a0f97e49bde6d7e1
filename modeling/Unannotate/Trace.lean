import Unannotate.Failure
import Unannotate.Span

/-!
Tracing nested calls.

A call that is traced covers what it calls with a span of its own. The parent of the span is the one that is
current where the call is made; without a current span it starts a new trace. A call that is not traced
leaves the current span as it is on the same thread, and has none on another thread. Spans are kept in the
order in which they end, so every span comes before its parent.
-/
set_option autoImplicit false

namespace Unannotate

structure OpenSpan where
  span : Nat
  trace : Nat
  deriving DecidableEq, Repr

structure EndedSpan where
  label : SpanLabel
  span : Nat
  trace : Nat
  parent : Option Nat
  deriving DecidableEq, Repr

structure Tracer where
  /-- In the order in which the spans ended. -/
  ended : List EndedSpan := []
  /-- How many spans were opened, and how many traces were started. -/
  spans : Nat := 0
  traces : Nat := 0
  isShutDown : Bool := false
  deriving DecidableEq, Repr

/-- What a call is named, whether it is traced, and whether it is made on another thread. -/
inductive Call
  | node (label : SpanLabel) (traced elsewhere : Bool) (inner : List Call)
  deriving Inhabited, Repr

/-- The trace that is current in a call and the one that is current around it. -/
structure Sight where
  name : String
  trace : Option Nat
  outer : Option Nat
  deriving DecidableEq, Repr

namespace Tracer

/-- Opens a span below the current one. -/
def start (tracer : Tracer) (current : Option OpenSpan) : OpenSpan × Tracer :=
  match current with
  | some outer => (⟨tracer.spans, outer.trace⟩, { tracer with spans := tracer.spans + 1 })
  | none =>
    (⟨tracer.spans, tracer.traces⟩,
      { tracer with spans := tracer.spans + 1, traces := tracer.traces + 1 })

def finish (tracer : Tracer) (label : SpanLabel) (opened : OpenSpan) (parent : Option OpenSpan) : Tracer :=
  { tracer with
    ended := tracer.ended ++ [⟨label, opened.span, opened.trace, parent.map (·.span)⟩] }

/-- The first call hands over what was kept; there is nothing to shut down a second time. -/
def shutDown (tracer : Tracer) : Except Failure Tracer :=
  if tracer.isShutDown then .error (.ofCause .alreadyShutDown)
  else .ok { tracer with isShutDown := true }

/-- What every span says about the program. -/
def service : List (String × String) :=
  [("service.name", "purgeannorefs"), ("service.version", "0.1.0")]

/-- The position of a span among those that ended. -/
def position? (tracer : Tracer) (span : Nat) : Option Nat := tracer.ended.findIdx? (·.span == span)

/-- The position of the first span of a trace that ended. -/
def firstOfTrace? (tracer : Tracer) (trace : Nat) : Option Nat :=
  tracer.ended.findIdx? (·.trace == trace)

end Tracer

mutual

/-- Makes a call and all that it calls, given the span that is current. -/
def Call.trace (tracer : Tracer) (current : Option OpenSpan) : Call → Tracer × List Sight
  | .node label traced elsewhere inner =>
    let sight (opened : Option OpenSpan) : Sight :=
      ⟨label.name, opened.map (·.trace), current.map (·.trace)⟩
    if traced then
      let (opened, tracer) := tracer.start current
      let (tracer, sights) := Call.traceAll tracer (some opened) inner
      (tracer.finish label opened current, sight (some opened) :: sights)
    else
      let here := if elsewhere then none else current
      let (tracer, sights) := Call.traceAll tracer here inner
      (tracer, sight here :: sights)

/-- Makes calls one after another. -/
def Call.traceAll (tracer : Tracer) (current : Option OpenSpan) : List Call → Tracer × List Sight
  | [] => (tracer, [])
  | call :: rest =>
    let (tracer, sights) := call.trace tracer current
    let (tracer, others) := Call.traceAll tracer current rest
    (tracer, sights ++ others)

end

end Unannotate
