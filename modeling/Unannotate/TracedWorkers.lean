import Unannotate.Trace
import Unannotate.Workers

/-!
Workers that keep spans.

A run opens a span of its own and hands it to its workers. A worker opens the span of a job below the span
that it was handed, and the spans of what it purges below the one that is current on its own thread, and each
ends with what it covers. Workers open and end spans one by one, between the steps of other jobs, and share
one tracer. A source is read in one step, and the spans of purging it follow.
-/
set_option autoImplicit false

namespace Unannotate

/-- What a worker does to the spans on its thread. -/
inductive SpanMove
  /-- A span is opened, below the one that was handed over if one was, and else below the current one. -/
  | opens (label : SpanLabel) (handed : Option OpenSpan)
  /-- The current span ends. -/
  | ends
  deriving DecidableEq, Repr

mutual

/-- The moves of a piece of work that leaves a span, made where another span is current. -/
def Span.moves : Span → List SpanMove
  | .node label children => .opens label none :: (Span.allMoves children ++ [.ends])

def Span.allMoves : List Span → List SpanMove
  | [] => []
  | span :: rest => span.moves ++ Span.allMoves rest

end

/-- A span that is open on a thread, and what is said of it when it ends. -/
structure ThreadSpan where
  label : SpanLabel
  opened : OpenSpan
  parent : Option OpenSpan
  deriving DecidableEq, Repr

/-- The tracer and the open spans of a thread after a move; the first of these spans is the current one. -/
def SpanMove.perform (tracer : Tracer) (stack : List ThreadSpan) : SpanMove → Tracer × List ThreadSpan
  | .opens label handed =>
    let parent := handed.or (stack.head?.map (·.opened))
    let (opened, tracer) := tracer.start parent
    (tracer, ⟨label, opened, parent⟩ :: stack)
  | .ends =>
    match stack with
    | [] => (tracer, [])
    | current :: outer => (tracer.finish current.label current.opened current.parent, outer)

/-- The spans that the next step of a job leaves: those of purging its source when that is read. -/
def Assignment.purging (optimize : ClassOptimizer) (mode : WriteMode) (tree : FileTree)
    (assignment : Assignment) : List Span :=
  match assignment.stage with
  | .cleared => (assignment.job.transformed optimize true mode tree).journal.spans
  | _ => []

/-- The moves that come with the next step of a job. When the job ends its own span does. -/
def Assignment.moves (optimize : ClassOptimizer) (mode : WriteMode) (tree : FileTree)
    (assignment : Assignment) : List SpanMove :=
  let after := (assignment.advance optimize true mode tree).2
  Span.allMoves (assignment.purging optimize mode tree) ++
    if !assignment.stage.isOver && after.stage.isOver then [.ends] else []

/-- The thread of a worker while it carries out a job: the spans that are open on it, and the moves that come
before the next step of the job. -/
structure Thread where
  assignment : Assignment
  stack : List ThreadSpan := []
  moves : List SpanMove
  deriving DecidableEq, Repr

/-- A file tree and a tracer that workers share, the span that they were handed, and their threads in the
order of the plan. -/
structure TracedWorkers where
  tree : FileTree
  tracer : Tracer
  handed : OpenSpan
  threads : List Thread

namespace TracedWorkers

/-- Before the first step, inside the span of the run. -/
def start (tree : FileTree) (jobs : List Job) : TracedWorkers :=
  let (opened, tracer) := Tracer.start {} none
  ⟨tree, tracer, opened,
    jobs.map fun job => { assignment := { job }, moves := [.opens job.spanLabel (some opened)] }⟩

/-- The workers without their spans. -/
def workers (run : TracedWorkers) : Workers := ⟨run.tree, run.threads.map (·.assignment)⟩

/-- The next move or step of the job at a position. -/
def step (optimize : ClassOptimizer) (mode : WriteMode) (run : TracedWorkers) (position : Nat) :
    TracedWorkers :=
  match run.threads[position]? with
  | none => run
  | some thread =>
    match thread.moves with
    | move :: moves =>
      let (tracer, stack) := move.perform run.tracer thread.stack
      { run with tracer, threads := run.threads.set position { thread with stack, moves } }
    | [] =>
      let moves := thread.assignment.moves optimize mode run.tree
      let (tree, assignment) := thread.assignment.advance optimize true mode run.tree
      { run with tree, threads := run.threads.set position { thread with assignment, moves } }

/-- The moves and steps of a schedule, which lists the positions of the jobs that take them. -/
def follow (optimize : ClassOptimizer) (mode : WriteMode) (run : TracedWorkers) (schedule : List Nat) :
    TracedWorkers :=
  schedule.foldl (step optimize mode) run

/-- No job is under way: each is over with all its moves, or was not begun after a failure. -/
def Finished (run : TracedWorkers) : Prop :=
  ∀ thread ∈ run.threads, thread.assignment.stage.isOver ∧ thread.moves = [] ∨
    thread.assignment.stage = .waiting ∧ thread.stack = [] ∧ run.workers.Fails

instance (run : TracedWorkers) : Decidable run.Finished :=
  inferInstanceAs (Decidable (∀ thread ∈ run.threads, thread.assignment.stage.isOver ∧ thread.moves = [] ∨
    thread.assignment.stage = .waiting ∧ thread.stack = [] ∧ run.workers.Fails))

/-- The spans that have ended when the span of the run ends too. -/
def ended (label : SpanLabel) (run : TracedWorkers) : List EndedSpan :=
  (run.tracer.finish label run.handed none).ended

end TracedWorkers

end Unannotate
