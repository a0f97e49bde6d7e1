import Unannotate.ArchivePurge
import Unannotate.Plan

/-!
Carrying out planned jobs.

A job reads its source, purges it and writes its destination, in this order, so a job that fails leaves its
destination alone. A destination that is newer than its source is skipped unless it is to be overwritten.
Jobs are carried out one after another up to the first failure; what earlier ones wrote stays.
-/
set_option autoImplicit false

namespace Unannotate

structure WriteMode where
  /-- Whether destinations are written even when they are newer than their sources. -/
  overwrite : Bool := false
  /-- Whether nothing is written at all. -/
  dryRun : Bool := false
  deriving DecidableEq, Repr

namespace Job

/-- Whether what stands at the destination was changed later than the source. -/
def isUpToDate (tree : FileTree) (job : Job) : Except Failure Bool :=
  match tree.modified? job.destination with
  | none => .ok false
  | some written =>
    match tree.modified? job.source with
    | none => .error ⟨[.readingTime job.source.text], .io⟩
    | some modified => .ok (modified < written)

/-- Whether a job is left out because its destination is up to date. -/
def isSkipped (mode : WriteMode) (tree : FileTree) (job : Job) : Except Failure Bool :=
  if job.isInPlace || mode.overwrite || mode.dryRun then .ok false else job.isUpToDate tree

/-- What a job writes, given what purging its source gave. -/
def written (mode : WriteMode) (job : Job) (data : Bytes) (purged : Option Bytes) : Option Bytes :=
  if mode.dryRun then none
  else
    match purged with
    | some bytes => some bytes
    | none => if job.isInPlace then none else some data

/-- What a job that is not skipped writes, if anything: its source is read and purged. -/
def transformed (optimize : ClassOptimizer) (traced : Bool) (mode : WriteMode) (tree : FileTree)
    (job : Job) : Work (Option Bytes) := do
  Work.report [.processing job.source.text]
  match tree.read? job.source with
  | none => Work.fail ⟨[.reading job.source.text], .io⟩
  | some data =>
    let purged ← purgeArtifact optimize traced job.kind job.source.text data
    return job.written mode data purged

/-- What a job writes, if anything. -/
def output (optimize : ClassOptimizer) (traced : Bool) (mode : WriteMode) (tree : FileTree) (job : Job) :
    Work (Option Bytes) := do
  if ← Work.ofOutcome (job.isSkipped mode tree) then
    Work.report [.upToDate job.destination.text]
    Work.count { skipped := 1 }
    return none
  else job.transformed optimize traced mode tree

/-- The tree after a job's output is written. -/
def finish (tree : FileTree) (job : Job) : Option Bytes → FileTree × Except Failure Unit
  | none => (tree, .ok ())
  | some bytes => tree.write job.destination bytes

def spanLabel (job : Job) : SpanLabel :=
  ⟨"file.purge", [("purgeannorefs.file", .text job.source.text)]⟩

/-- Carries out a job in a span of its own. -/
def process (optimize : ClassOptimizer) (traced : Bool) (mode : WriteMode) (tree : FileTree) (job : Job) :
    FileTree × Work Unit :=
  let work := job.output optimize traced mode tree
  let (tree, outcome) := match work.outcome with
    | .ok bytes => job.finish tree bytes
    | .error failure => (tree, .error failure)
  (tree, Work.inSpan traced job.spanLabel ⟨work.journal, outcome⟩)

/-- Carries out jobs in order, up to the first failure. -/
def processAll (optimize : ClassOptimizer) (traced : Bool) (mode : WriteMode) :
    FileTree → List Job → FileTree × Work Unit
  | tree, [] => (tree, pure ())
  | tree, job :: rest =>
    let (tree, work) := job.process optimize traced mode tree
    match work.outcome with
    | .error _ => (tree, work)
    | .ok () =>
      let (tree, others) := processAll optimize traced mode tree rest
      (tree, do work; others)

end Job

end Unannotate
