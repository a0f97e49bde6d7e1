import Unannotate.Run
import Unannotate.Workers
import Unannotate.Proofs.ArchivePurge.Followed

/-!
# Work without its spans

To forget the spans of a piece of work commutes with everything that work is put together of. So keeping spans
changes neither how a purge, a job or a run ends, nor what it reports and counts, nor the files that it
leaves.
-/
set_option autoImplicit false

namespace Unannotate

namespace Work

variable {α β : Type}

/-- Work without the spans that it has left. -/
def untraced (work : Work α) : Work α :=
  { work with journal := { work.journal with spans := [] } }

@[simp] theorem outcome_untraced (work : Work α) : work.untraced.outcome = work.outcome := rfl

@[simp] theorem summary_untraced (work : Work α) :
    work.untraced.journal.summary = work.journal.summary := rfl

@[simp] theorem untraced_pure (value : α) : (pure value : Work α).untraced = pure value := rfl

@[simp] theorem untraced_fail (failure : Failure) : (fail failure : Work α).untraced = fail failure := rfl

@[simp] theorem untraced_ofOutcome (outcome : Except Failure α) :
    (ofOutcome outcome).untraced = ofOutcome outcome := rfl

@[simp] theorem untraced_report (events : List Event) : (report events).untraced = report events := rfl

@[simp] theorem untraced_count (summary : Summary) : (count summary).untraced = count summary := rfl

@[simp] theorem untraced_ofArtifact (context : Context) (result : Except Malformation α) :
    (ofArtifact context result).untraced = ofArtifact context result := by
  cases result <;> rfl

@[simp] theorem untraced_within (context : Context) (work : Work α) :
    (within context work).untraced = within context work.untraced := rfl

@[simp] theorem untraced_inSpan (traced : Bool) (label : SpanLabel) (work : Work α) :
    (inSpan traced label work).untraced = work.untraced := by
  cases traced <;> rfl

theorem inSpan_false (label : SpanLabel) (work : Work α) : inSpan false label work = work := rfl

@[simp] theorem untraced_bind (work : Work α) (next : α → Work β) :
    (work >>= next).untraced = work.untraced >>= fun value => (next value).untraced := by
  cases found : work.outcome with
  | error failure =>
    have kept : work.untraced.outcome = .error failure := found
    rw [bind_of_error found, bind_of_error kept]
    rfl
  | ok value =>
    have kept : work.untraced.outcome = .ok value := found
    rw [bind_of_ok found, bind_of_ok kept]
    rfl

@[simp] theorem untraced_each (items : List β) (work : β → Work α) :
    (each items work).untraced = each items fun item => (work item).untraced := by
  induction items with
  | nil => rfl
  | cons item rest ih => simp only [each, untraced_bind, ih, untraced_pure]

end Work

section Purge

variable (optimize : ClassOptimizer) (traced : Bool)

theorem untraced_purgeClass (origin : String) (data : Bytes) :
    (purgeClass optimize traced origin data).untraced = purgeClass optimize false origin data := by
  simp only [purgeClass, Work.untraced_bind, Work.untraced_within, Work.untraced_inSpan,
    Work.untraced_ofOutcome, Work.untraced_report, Work.untraced_pure, Work.untraced_count,
    Work.inSpan_false]
  refine congrArg _ (funext fun purged => congrArg _ (funext fun _ => ?_))
  split <;> rfl

theorem untraced_openArchive (origin : String) (data : Bytes) :
    (openArchive origin data).untraced = openArchive origin data := by
  unfold openArchive
  cases Archive.ofBytes data <;> rfl

theorem untraced_readContent (origin : String) (entry : Entry) (compression : Compression)
    (stored : Bytes) :
    (readContent origin entry compression stored).untraced
      = readContent origin entry compression stored := by
  unfold readContent
  cases entry.content? compression stored <;> rfl

variable {purge quiet : Purge} (same : ∀ origin data, (purge origin data).untraced = quiet origin data)

include same

theorem untraced_purgeContent (origin : String) (entry : Entry) (compression : Compression)
    (stored : Bytes) :
    (purgeContent purge origin entry compression stored).untraced
      = purgeContent quiet origin entry compression stored := by
  simp only [purgeContent, Work.untraced_bind, untraced_readContent, Work.untraced_report, same]
  refine congrArg _ (funext fun content => congrArg _ (funext fun _ => congrArg _ (funext fun new => ?_)))
  cases new <;> rfl

theorem untraced_purgeEntry (origin : String) (archive : Archive) (item : Entry × Nat) :
    (purgeEntry (purgeClass optimize traced) purge origin archive item).untraced
      = purgeEntry (purgeClass optimize false) quiet origin archive item := by
  obtain ⟨entry, index⟩ := item
  simp only [purgeEntry]
  cases archive.open? entry with
  | none => rfl
  | some kept =>
    cases entry.artifact? with
    | none => rfl
    | some kind =>
      cases kind with
      | classFile => exact untraced_purgeContent (untraced_purgeClass optimize traced) _ _ _ _
      | archive => exact untraced_purgeContent same _ _ _ _

theorem untraced_purgeEntries (origin : String) (archive : Archive) (comment : Bytes) (changed : Bool) :
    (purgeEntries (purgeClass optimize traced) purge origin archive comment changed).untraced
      = purgeEntries (purgeClass optimize false) quiet origin archive comment changed := by
  simp only [purgeEntries, Work.untraced_bind, Work.untraced_each,
    untraced_purgeEntry optimize traced same]
  refine congrArg _ (funext fun purged => ?_)
  split
  · simp only [Work.untraced_bind, Work.untraced_report]
    cases Archive.encode? (purged.map (·.1)) comment <;> rfl
  · rfl

theorem untraced_purgeOpened (origin : String) (archive : Archive) :
    (purgeOpened (purgeClass optimize traced) purge origin archive).untraced
      = purgeOpened (purgeClass optimize false) quiet origin archive := by
  simp only [purgeOpened, Work.untraced_bind, Work.untraced_ofArtifact]
  refine congrArg _ (funext fun reduction => ?_)
  cases reduction with
  | none => exact untraced_purgeEntries optimize traced same _ _ _ _
  | some reduction =>
    simp only [Work.untraced_bind, Work.untraced_report, untraced_openArchive,
      untraced_purgeEntries optimize traced same]

omit same

theorem untraced_purgeArchive (levels : Nat) (origin : String) (data : Bytes) :
    (purgeArchive optimize traced levels origin data).untraced
      = purgeArchive optimize false levels origin data := by
  induction levels generalizing origin data with
  | zero => rfl
  | succ levels ih =>
    simp only [purgeArchive, Work.untraced_inSpan, Work.inSpan_false, Work.untraced_bind,
      untraced_openArchive, Work.untraced_count, untraced_purgeOpened optimize traced ih]

theorem untraced_purgeArtifact (kind : ArtifactKind) (origin : String) (data : Bytes) :
    (purgeArtifact optimize traced kind origin data).untraced
      = purgeArtifact optimize false kind origin data := by
  cases kind with
  | classFile => exact untraced_purgeClass optimize traced origin data
  | archive => exact untraced_purgeArchive optimize traced maxNesting origin data

end Purge

/-! ## Jobs and runs -/

namespace Job

variable (optimize : ClassOptimizer) (traced : Bool) (mode : WriteMode) (tree : FileTree)

theorem untraced_transformed (job : Job) :
    (job.transformed optimize traced mode tree).untraced = job.transformed optimize false mode tree := by
  simp only [transformed, Work.untraced_bind, Work.untraced_report]
  cases tree.read? job.source with
  | none => rfl
  | some data =>
    simp only [Work.untraced_bind, untraced_purgeArtifact, Work.untraced_pure]

theorem untraced_output (job : Job) :
    (job.output optimize traced mode tree).untraced = job.output optimize false mode tree := by
  simp only [output, Work.untraced_bind, Work.untraced_ofOutcome]
  refine congrArg _ (funext fun skipped => ?_)
  cases skipped with
  | true => rfl
  | false => exact untraced_transformed optimize traced mode tree job

/-- A job does the same with and without spans, but for the spans. -/
theorem untraced_process (job : Job) :
    ((job.process optimize traced mode tree).1, (job.process optimize traced mode tree).2.untraced)
      = job.process optimize false mode tree := by
  have same := untraced_output optimize traced mode tree job
  unfold process
  simp only [Work.untraced_inSpan, Work.inSpan_false, ← same]
  rfl

theorem untraced_processAll (jobs : List Job) :
    ((processAll optimize traced mode tree jobs).1, (processAll optimize traced mode tree jobs).2.untraced)
      = processAll optimize false mode tree jobs := by
  induction jobs generalizing tree with
  | nil => rfl
  | cons job rest ih =>
    have first := untraced_process optimize traced mode tree job
    simp only [processAll, ← first, ← ih, Work.outcome_untraced]
    cases (job.process optimize traced mode tree).2.outcome with
    | error failure => rfl
    | ok done => simp only [Work.untraced_bind]

end Job

/-- The jobs of a run leave the same files, end the same and count the same inside a span and without one. -/
theorem Arguments.runJobs_traced (arguments : Arguments) (tree : FileTree) (ready : Prepared) :
    let spanned := arguments.runJobs tree { ready with traced := true }
    let plain := arguments.runJobs tree { ready with traced := false }
    spanned.1 = plain.1 ∧ spanned.2.outcome = plain.2.outcome ∧
      spanned.2.journal.summary = plain.2.journal.summary := by
  have same := Job.untraced_processAll ready.configuration.optimizer true ready.mode tree ready.jobs
  simp only [runJobs, ← same, Work.outcome_inSpan, Work.summary_inSpan]
  refine ⟨trivial, Work.outcome_then rfl _, ?_⟩
  exact (Work.summary_bind rfl _).trans (Summary.empty_append _)

/-! ## Workers -/

theorem Assignment.advance_traced (optimize : ClassOptimizer) (traced : Bool) (mode : WriteMode)
    (tree : FileTree) (assignment : Assignment) :
    assignment.advance optimize traced mode tree = assignment.advance optimize false mode tree := by
  unfold advance
  simp only [← Job.untraced_transformed optimize traced, Work.outcome_untraced, Work.summary_untraced]

/-- Workers take the same steps with and without spans. -/
theorem Workers.step_traced (optimize : ClassOptimizer) (traced : Bool) (mode : WriteMode) :
    Workers.step optimize traced mode = Workers.step optimize false mode := by
  funext workers position
  simp only [Workers.step, Assignment.advance_traced optimize traced]

theorem Workers.follow_traced (optimize : ClassOptimizer) (traced : Bool) (mode : WriteMode)
    (workers : Workers) (schedule : List Nat) :
    workers.follow optimize traced mode schedule = workers.follow optimize false mode schedule := by
  simp only [Workers.follow, Workers.step_traced optimize traced]

end Unannotate
