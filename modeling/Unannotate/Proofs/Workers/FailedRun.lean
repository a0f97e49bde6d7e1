import Unannotate.Run
import Unannotate.Proofs.Workers.Delivered
import Unannotate.Proofs.Workers.InOrder

/-!
# What a failed run leaves behind

A run that fails before its first job has changed nothing. At any later moment, whichever jobs are done, under
way or not begun, a file is what it was or the complete output of a job that writes it, and a job that has
failed before it wrote has left its destination alone, `run_leaves_whole_files`.
-/
set_option autoImplicit false

namespace Unannotate

variable {optimize : ClassOptimizer} {traced : Bool} {mode : WriteMode}

namespace Arguments

variable {tree : FileTree} {arguments : Arguments}

/-- What comes before the first job fails when the configuration, the plan or the endpoint is refused. -/
theorem prepare_fails_iff :
    (∃ failure, (arguments.prepare tree).outcome = .error failure) ↔
      (∃ failure, arguments.configuration tree = .error failure) ∨
      (∃ failure, (Job.plan tree arguments.inputs arguments.targetDir).outcome = .error failure) ∨
      ∃ failure, arguments.traced = .error failure := by
  unfold prepare
  simp only [Work.bind_error_iff, Work.outcome_ofOutcome, Work.outcome_report, Work.outcome_pure]
  cases configured : arguments.configuration tree with
  | error failure => simp
  | ok settings =>
    cases planned : (Job.plan tree arguments.inputs arguments.targetDir).outcome with
    | error failure => simp
    | ok jobs => cases arguments.traced <;> simp

theorem run_of_refused {failure : Failure} (refused : (arguments.prepare tree).outcome = .error failure) :
    (arguments.run tree).1 = tree ∧ (arguments.run tree).2.outcome = .error failure := by
  simp [run, refused]

/-- A run that has come to its jobs leaves what they leave, and fails when they fail. -/
theorem run_of_ready {ready : Prepared} (prepared : (arguments.prepare tree).outcome = .ok ready) :
    let jobs := Job.processAll ready.configuration.optimizer ready.traced ready.mode tree ready.jobs
    (arguments.run tree).1 = jobs.1 ∧
      ∀ failure, (arguments.run tree).2.outcome = .error failure ↔ jobs.2.outcome = .error failure := by
  intro jobs
  have span : (arguments.runJobs tree ready).2.outcome = jobs.2.outcome := by
    unfold runJobs
    rw [Work.outcome_inSpan]
    by_cases tracing : ready.traced = true
    · rw [if_pos tracing]
      exact Work.outcome_then (Work.outcome_report _) _
    · rw [if_neg tracing]
  have left : (arguments.runJobs tree ready).1 = jobs.1 := rfl
  unfold run
  simp only [prepared]
  refine ⟨left, fun failure => ?_⟩
  rw [span]
  cases jobs.2.outcome <;> simp [Except.map]

end Arguments

namespace Workers

variable {tree : FileTree} {jobs : List Job} {schedule : List Nat}

/-- What a job has written is what it makes of its source as it read it. -/
theorem output_of_written {position : Nat} {assignment : Assignment} {content : Bytes}
    (assigned : ((start tree jobs).follow optimize traced mode schedule).assignments[position]?
      = some assignment) (stage : assignment.stage = .written content) :
    ∃ read data purged, read <+: schedule ∧
      ((start tree jobs).follow optimize traced mode read).tree.read? assignment.job.source = some data ∧
      (purgeArtifact optimize traced assignment.job.kind assignment.job.source.text data).outcome
        = .ok purged ∧
      assignment.job.written mode data purged = some content := by
  obtain ⟨looked, read, -, early, -, -, follows⟩ := exists_moments assigned
  have followed := follows.stage
  rw [stage] at followed
  obtain ⟨data, purged, found, purges, output⟩ := Job.transformed_eq_ok_iff.mp followed.2
  exact ⟨read, data, purged, early, found, purges, output⟩

/-- The destination of a job is as it was before the run, or another job has written there, or one that writes
below it has made a directory where nothing was. -/
def LeftToOthers (tree : FileTree) (workers : Workers) (position : Nat) (job : Job) : Prop :=
  let place := tree.placeOf job.destination
  workers.tree.lookup? place = tree.lookup? place ∨
    ∃ (other : Nat) (writer : Assignment), other ≠ position ∧
      workers.assignments[other]? = some writer ∧
      ((∃ content, writer.stage = .written content ∧ tree.placeOf writer.job.destination = place) ∨
        writer.stage.hasBegun ∧ place ∈ writer.job.above tree ∧ tree.lookup? place = none ∧
          workers.tree.lookup? place = some .directory)

/-- A job that has not begun to write leaves its destination to others. -/
theorem leftToOthers_of_not_begun {position : Nat} {assignment : Assignment}
    (assigned : ((start tree jobs).follow optimize traced mode schedule).assignments[position]?
      = some assignment) (idle : ¬assignment.stage.hasBegun) :
    LeftToOthers tree ((start tree jobs).follow optimize traced mode schedule) position
      assignment.job := by
  have elsewhere {other : Nat} {writer : Assignment}
      (held : ((start tree jobs).follow optimize traced mode schedule).assignments[other]? = some writer)
      (begun : writer.stage.hasBegun) : other ≠ position := by
    rintro rfl
    rw [assigned] at held
    cases held
    exact idle begun
  cases fate optimize traced mode tree jobs schedule (tree.placeOf assignment.job.destination) with
  | kept same => exact .inl same
  | @made other writer held begun above absent stands =>
    exact .inr ⟨other, writer, elsewhere held begun, held, .inr ⟨begun, above, absent, stands⟩⟩
  | @written other writer content _ held stage there _ _ =>
    exact .inr ⟨other, writer, elsewhere held (by rw [stage]; rfl), held, .inl ⟨content, stage, there⟩⟩

/-- What can be said of the files at a moment of a run, whichever jobs are done by then. -/
structure LeavesWholeFiles (optimize : ClassOptimizer) (traced : Bool) (mode : WriteMode)
    (tree : FileTree) (jobs : List Job) (schedule : List Nat) : Prop where
  files : ∀ place content time, tree.lookup? place = some (.file content time) →
    ∃ content time, ((start tree jobs).follow optimize traced mode schedule).tree.lookup? place
      = some (.file content time)
  contents : ∀ place content time,
    ((start tree jobs).follow optimize traced mode schedule).tree.lookup? place
      = some (.file content time) →
    tree.lookup? place = some (.file content time) ∨
      ∃ job ∈ jobs, tree.placeOf job.destination = place ∧ ∃ read data purged, read <+: schedule ∧
        ((start tree jobs).follow optimize traced mode read).tree.read? job.source = some data ∧
        (purgeArtifact optimize traced job.kind job.source.text data).outcome = .ok purged ∧
        job.written mode data purged = some content
  refused : ∀ (position : Nat) (assignment : Assignment) (failure : Failure),
    ((start tree jobs).follow optimize traced mode schedule).assignments[position]? = some assignment →
    assignment.stage = .refused failure →
    LeftToOthers tree ((start tree jobs).follow optimize traced mode schedule) position assignment.job

theorem leavesWholeFiles (optimize : ClassOptimizer) (traced : Bool) (mode : WriteMode) (tree : FileTree)
    (jobs : List Job) (schedule : List Nat) :
    LeavesWholeFiles optimize traced mode tree jobs schedule := by
  refine ⟨(grows_follow (start tree jobs) schedule).file, ?_, ?_⟩
  · intro place content time stands
    cases fate optimize traced mode tree jobs schedule place with
    | kept same => exact .inl (same.symm.trans stands)
    | made _ _ _ _ directory =>
      rw [stands] at directory
      cases directory
    | @written position assignment _ _ assigned stage there _ stood =>
      cases stands.symm.trans stood
      exact .inr ⟨assignment.job, List.mem_of_getElem? (job_of_assigned assigned), there,
        output_of_written assigned stage⟩
  · intro position assignment failure assigned stage
    refine leftToOthers_of_not_begun assigned ?_
    rw [stage]
    exact Bool.false_ne_true

end Workers

/-- An empty file that is no class. -/
def brokenClass : FileTree where
  entries := [(["A.class"], .file [] 1)]
  clock := 2

end Unannotate
