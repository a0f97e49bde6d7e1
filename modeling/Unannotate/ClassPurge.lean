import Unannotate.ClassFile.Layout
import Unannotate.Configuration.Basic
import Unannotate.PurgedClass
import Unannotate.Work

/-!
Purging one class.

A configuration turns a class into what is left of it: every point whose annotation some matcher of its kind
accepts is dropped. The input, and not the result, then has to pass the layout check; an attribute that
the check does not know is tolerated, because a purge carries it through as it is.
-/
set_option autoImplicit false

namespace Unannotate

/-- What is done to the bytes of one class, and the events that this reports. -/
abbrev ClassOptimizer := Bytes → Except Failure (PurgedClass × List Event)

namespace Configuration

def decision (configuration : Configuration) : Decision :=
  fun _ point => configuration.filters.shouldRemove point.kind point.annotationName

/-- The layout check of a class, with the one fault that is tolerated reported. -/
def checkClass (data : Bytes) : Except Failure (List Event) :=
  match ClassFile.checkLayout data with
  | .ok () => .ok []
  | .error (.layout (.unmatchedAttribute name)) => .ok [.toleratedAttribute name]
  | .error fault => .error (.ofCause (.malformed fault))

def optimizer (configuration : Configuration) : ClassOptimizer := fun data =>
  match PurgedClass.ofBytes data configuration.flags configuration.decision with
  | .error fault => .error (.ofCause (.malformed fault))
  | .ok purged => do
    let events ← checkClass data
    return (purged, events ++ purged.removed.map (.removed · purged.className))

end Configuration

/-- What one class adds to a summary. -/
def PurgedClass.summary (origin : String) (purged : PurgedClass) : Summary :=
  { classes := 1
    changedClasses := if purged.bytes.isSome then 1 else 0
    removals := purged.removed.map fun removal => origin ++ ": " ++ removal.description }

/-- The bytes that replace a class, or none when it stands as it is. -/
def purgeClass (optimize : ClassOptimizer) (traced : Bool) (origin : String) (data : Bytes) :
    Work (Option Bytes) := do
  let label : SpanLabel := ⟨"class.purge", [("purgeannorefs.class", .text origin)]⟩
  let purged ← Work.within (.processing origin) (Work.inSpan traced label (do
    let (purged, events) ← Work.ofOutcome (optimize data)
    Work.report events
    return purged))
  Work.count (purged.summary origin)
  if !purged.removed.isEmpty then
    Work.report [.removedReferences origin purged.removed.length purged.className]
  return purged.bytes

end Unannotate
