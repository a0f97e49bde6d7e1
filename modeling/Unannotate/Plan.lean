import Unannotate.ArtifactKind
import Unannotate.Files.FileTree
import Unannotate.Work

/-!
Planning a run: one job for each artifact that the inputs lead to.

A loose file is a job of its own, and a directory gives one for each artifact below it, in ascending order
of paths. Nothing below the target directory is taken as an input. Jobs write next to or below the target
directory, or in place without one; two jobs never have the same destination.
-/
set_option autoImplicit false

namespace Unannotate

structure Job where
  source : Path
  destination : Path
  kind : ArtifactKind
  deriving DecidableEq, Repr

namespace Job

def isInPlace (job : Job) : Bool := job.source.same job.destination

/-- Where a file goes whose path below its input is given by `names`. -/
def destinationOf (target : Option Path) (source : Path) (names : List String) : Path :=
  match target with
  | some target => target.join (Path.ofNames names)
  | none => source

/-- Whether a file below an input lies at or below the target directory. -/
def isBelowTarget (target : Option Path) (input : Path) (names : List String) : Bool :=
  match target.bind input.below? with
  | none | some [] => false
  | some skipped => skipped.isPrefixOf names

/-- The job for a file below an input directory. -/
def ofFileBelow? (target : Option Path) (input : Path) (names : List String) : Option Job := do
  let name ← names.getLast?
  let kind ← ArtifactKind.ofName? name
  let source := input.join (Path.ofNames names)
  return ⟨source, destinationOf target source names, kind⟩

/-- The job for a file that is an input itself. -/
def ofLooseFile? (target : Option Path) (input : Path) : Option Job := do
  let name ← input.fileName?
  let kind ← ArtifactKind.ofName? name
  return ⟨input, destinationOf target input [name], kind⟩

/-- The jobs that one input gives. -/
def ofInput (tree : FileTree) (target : Option Path) (input : Path) : Work (List Job) :=
  match tree.resolve? input with
  | none => Work.fail (.ofCause (.inputNotFound input.text))
  | some place =>
    match tree.lookup? place with
    | none => Work.fail (.ofCause (.inputNotFound input.text))
    | some .directory =>
      let files := (tree.filesBelow place).filter fun names => !isBelowTarget target input names
      pure (files.filterMap (ofFileBelow? target input))
    | some (.file _ _) =>
      match ofLooseFile? target input with
      | some job => pure [job]
      | none => do
        Work.report [.unsupportedInput input.text]
        return []

/-- The first job whose destination an earlier one has, with that earlier one. -/
def collision? (earlier : List Job) : List Job → Option (Job × Job)
  | [] => none
  | job :: rest =>
    match earlier.find? (·.destination.same job.destination) with
    | some other => some (other, job)
    | none => collision? (job :: earlier) rest

/-- The jobs of all inputs. -/
def plan (tree : FileTree) (inputs : List Path) (target : Option Path) : Work (List Job) := do
  let jobs := (← Work.each inputs (ofInput tree target)).flatten
  match collision? [] jobs with
  | none => return jobs
  | some (first, second) =>
    Work.fail (.ofCause
      (.sharedDestination first.source.text second.source.text second.destination.text))

end Job

end Unannotate
