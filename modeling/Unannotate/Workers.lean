import Unannotate.Processing

/-!
Jobs carried out by several workers.

Workers share one file tree and each carries out one job at a time, step by step: it looks whether the
destination is up to date, reads and purges the source, makes the directories on the way to the destination
one by one, and writes. A schedule says whose step is next, so there is a schedule for each way in which the
steps of different jobs can fall between each other. A step of a job that is over, or that there is not,
does nothing.
-/
set_option autoImplicit false

namespace Unannotate

/-- How far a worker has got with a job. -/
inductive Stage
  | waiting
  /-- The destination is not up to date. -/
  | cleared
  /-- There is something to write; the directories on the way to it are made as far as `place`. -/
  | making (content : Bytes) (place : Place) (ahead : List String)
  | skipped
  /-- There was nothing to write. -/
  | standing
  | written (content : Bytes)
  /-- The job failed before anything was written. -/
  | refused (failure : Failure)
  /-- What was there to write could not be written. -/
  | unwritten (failure : Failure)
  deriving DecidableEq, Repr

namespace Stage

/-- Whether a job has changed nothing so far and may still do so. -/
def isAhead : Stage → Bool
  | waiting | cleared => true
  | _ => false

def isOver : Stage → Bool
  | waiting | cleared | making _ _ _ => false
  | _ => true

def failure? : Stage → Option Failure
  | refused failure | unwritten failure => some failure
  | _ => none

end Stage

/-- A job, how far it has got, and what it has counted. -/
structure Assignment where
  job : Job
  stage : Stage := .waiting
  summary : Summary := {}
  deriving DecidableEq, Repr

namespace Assignment

/-- The stage of a job whose source was read and purged. -/
def stageAfter (tree : FileTree) (job : Job) : Except Failure (Option Bytes) → Stage
  | .error failure => .refused failure
  | .ok none => .standing
  | .ok (some content) =>
    .making content (tree.startOf job.destination) job.destination.parentSteps

/-- The next step of a job. -/
def advance (optimize : ClassOptimizer) (traced : Bool) (mode : WriteMode) (tree : FileTree)
    (assignment : Assignment) : FileTree × Assignment :=
  let job := assignment.job
  match assignment.stage with
  | .waiting =>
    match job.isSkipped mode tree with
    | .error failure => (tree, { assignment with stage := .refused failure })
    | .ok true => (tree, { assignment with stage := .skipped, summary := { skipped := 1 } })
    | .ok false => (tree, { assignment with stage := .cleared })
  | .cleared =>
    let work := job.transformed optimize traced mode tree
    (tree, { assignment with stage := stageAfter tree job work.outcome, summary := work.journal.summary })
  | .making content place (piece :: ahead) =>
    let next := FileTree.step place piece
    match tree.makeDirectory? next with
    | none =>
      (tree, { assignment with stage := .unwritten ⟨[.creating job.destination.parent.text], .io⟩ })
    | some tree => (tree, { assignment with stage := .making content next ahead })
  | .making content _ [] =>
    match tree.put? job.destination content with
    | none => (tree, { assignment with stage := .unwritten ⟨[.writing job.destination.text], .io⟩ })
    | some tree => (tree, { assignment with stage := .written content })
  | _ => (tree, assignment)

end Assignment

/-- A file tree that workers share, and their jobs in the order of the plan. -/
structure Workers where
  tree : FileTree
  assignments : List Assignment

namespace Workers

/-- Before the first step. -/
def start (tree : FileTree) (jobs : List Job) : Workers := ⟨tree, jobs.map fun job => { job }⟩

/-- The next step of the job at a position. -/
def step (optimize : ClassOptimizer) (traced : Bool) (mode : WriteMode) (workers : Workers)
    (position : Nat) : Workers :=
  match workers.assignments[position]? with
  | none => workers
  | some assignment =>
    let (tree, assignment) := assignment.advance optimize traced mode workers.tree
    ⟨tree, workers.assignments.set position assignment⟩

/-- The steps of a schedule, which lists the positions of the jobs that take them. -/
def follow (optimize : ClassOptimizer) (traced : Bool) (mode : WriteMode) (workers : Workers)
    (schedule : List Nat) : Workers :=
  schedule.foldl (step optimize traced mode) workers

/-- Whether some job has failed. -/
def Fails (workers : Workers) : Prop :=
  ∃ assignment ∈ workers.assignments, assignment.stage.failure?.isSome

instance (workers : Workers) : Decidable workers.Fails :=
  inferInstanceAs (Decidable (∃ assignment ∈ workers.assignments, assignment.stage.failure?.isSome))

/-- No job is under way. After a failure no further job is begun, without one all of them are over. -/
def Finished (workers : Workers) : Prop :=
  ∀ assignment ∈ workers.assignments,
    assignment.stage.isOver ∨ assignment.stage = .waiting ∧ workers.Fails

instance (workers : Workers) : Decidable workers.Finished :=
  inferInstanceAs (Decidable (∀ assignment ∈ workers.assignments,
    assignment.stage.isOver ∨ assignment.stage = .waiting ∧ workers.Fails))

/-- What all jobs have counted, in the order of the plan. -/
def summary (workers : Workers) : Summary :=
  (workers.assignments.map (·.summary)).foldr (· ++ ·) {}

end Workers

end Unannotate
