import Unannotate.CommandLine.Settings
import Unannotate.Endpoint.Basic
import Unannotate.Processing

/-!
A whole run: settings, plan, jobs and report.

Everything that can be refused without reading an artifact is refused before the first job starts, so a run
that fails there changes no file.
-/
set_option autoImplicit false

namespace Unannotate

/-- What a run has to tell when it succeeded. -/
structure Report where
  /-- Whether the run only listed what it would remove. -/
  listing : Bool
  quiet : Bool
  timing : Bool
  files : Nat
  summary : Summary
  deriving DecidableEq, Repr

namespace Report

/-- The lines of the listing. -/
def output (report : Report) : List String := if report.listing then report.summary.removals else []

def timingLine (report : Report) (milliseconds : Nat) : String :=
  s!"timing: total_ms={milliseconds} files={report.files} classes={report.summary.classes} " ++
    s!"archives={report.summary.archives}"

/-- The closing lines of a run that took so long; there are none when the run is quiet. -/
def closing (report : Report) (milliseconds : Nat) : List String :=
  if report.quiet then []
  else report.summary.line report.listing
    :: if report.timing then [report.timingLine milliseconds] else []

end Report

namespace Configuration

/-- What a configuration has to tell before it is used. -/
def events (configuration : Configuration) : List Event :=
  (if configuration.filters.isEmpty && !configuration.flags.stripsAttributes then
    [.nothingToPurge] else [])
  ++ ElementKind.all.flatMap (fun kind =>
    (configuration.filters.matchers kind).map fun matcher => .removing matcher.description kind)
  ++ (if configuration.flags.stripsAttributes then [.stripping configuration.flags] else [])
  ++ configuration.flags.inert.map .flagWithoutEffect

end Configuration

namespace Arguments

/-- Whether spans are kept: when an endpoint is given, which has to be one. -/
def traced (arguments : Arguments) : Except Failure Bool :=
  match arguments.otel with
  | none => .ok false
  | some endpoint =>
    match Endpoint.ofText endpoint with
    | .ok _ => .ok true
    | .error fault => .error (.ofCause (.endpoint fault))

structure Prepared where
  configuration : Configuration
  mode : WriteMode
  jobs : List Job
  traced : Bool

/-- Everything that comes before the first job. -/
def prepare (tree : FileTree) (arguments : Arguments) : Work Prepared := do
  let (configuration, overwrite) ← Work.ofOutcome (arguments.configuration tree)
  let jobs ← Job.plan tree arguments.inputs arguments.targetDir
  Work.report configuration.events
  let traced ← Work.ofOutcome arguments.traced
  return { configuration, mode := { overwrite, dryRun := arguments.list }, jobs, traced }

def spanLabel (arguments : Arguments) : SpanLabel :=
  ⟨"purgeannorefs.run", [("purgeannorefs.inputs", .integer arguments.inputs.length)]⟩

/-- The jobs of a run, inside its span. -/
def runJobs (tree : FileTree) (arguments : Arguments) (prepared : Prepared) : FileTree × Work Unit :=
  let (tree, work) := Job.processAll prepared.configuration.optimizer prepared.traced prepared.mode
    tree prepared.jobs
  (tree, Work.inSpan prepared.traced arguments.spanLabel do
    if prepared.traced then Work.report [.tracing]
    work)

/-- The tree after a run, and the work that led to it. -/
def run (tree : FileTree) (arguments : Arguments) : FileTree × Work Report :=
  let prepared := arguments.prepare tree
  match prepared.outcome with
  | .error failure => (tree, ⟨prepared.journal, .error failure⟩)
  | .ok ready =>
    let (tree, work) := arguments.runJobs tree ready
    let report : Report :=
      { listing := arguments.list
        quiet := arguments.quiet
        timing := arguments.timing
        files := ready.jobs.length
        summary := work.journal.summary }
    (tree, ⟨prepared.journal ++ work.journal, work.outcome.map fun () => report⟩)

end Arguments

end Unannotate
