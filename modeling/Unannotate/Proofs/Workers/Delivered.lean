import Unannotate.Proofs.Workers.Apart
import Unannotate.Proofs.ArchivePurge.Outcome

/-!
# What a run delivers

When jobs that stay out of each other's way have all been carried out, each of them was either left out, since
its destination was newer than its source, or its destination holds what purging its source gives. Nothing
else has changed but that there are directories above destinations, `delivers`.
-/
set_option autoImplicit false

namespace Unannotate

variable {optimize : ClassOptimizer} {traced : Bool} {mode : WriteMode}

/-! ## One job -/

namespace Job

variable {tree : FileTree} {job : Job}

/-- A job is left out exactly when it may be and its destination was changed later than its source. -/
theorem isSkipped_eq_true_iff : job.isSkipped mode tree = .ok true ↔
    (job.isInPlace = false ∧ mode.overwrite = false ∧ mode.dryRun = false) ∧
      ∃ written modified, tree.modified? job.destination = some written ∧
        tree.modified? job.source = some modified ∧ modified < written := by
  unfold isSkipped isUpToDate
  by_cases kept : (job.isInPlace || mode.overwrite || mode.dryRun) = true
  · rw [if_pos kept]
    simp only [Bool.or_eq_true] at kept
    constructor
    · intro impossible
      cases impossible
    · rintro ⟨⟨placed, overwritten, dry⟩, -⟩
      simp [placed, overwritten, dry] at kept
  · rw [if_neg kept]
    have may : job.isInPlace = false ∧ mode.overwrite = false ∧ mode.dryRun = false := by
      simpa [and_assoc] using kept
    rw [and_iff_right may]
    cases tree.modified? job.destination with
    | none => simp
    | some written =>
      cases tree.modified? job.source with
      | none => simp
      | some modified => simp

/-- A job gives an output when its source can be read and purged. -/
theorem transformed_eq_ok_iff {output : Option Bytes} :
    (job.transformed optimize traced mode tree).outcome = .ok output ↔
      ∃ data purged, tree.read? job.source = some data ∧
        (purgeArtifact optimize traced job.kind job.source.text data).outcome = .ok purged ∧
        job.written mode data purged = output := by
  unfold transformed
  rw [Work.bind_ok_iff]
  cases tree.read? job.source with
  | none => simp
  | some data =>
    simp only [Work.outcome_report, Work.bind_ok_iff]
    constructor
    · rintro ⟨-, -, purged, succeeds, same⟩
      exact ⟨data, purged, rfl, succeeds, by simpa using same⟩
    · rintro ⟨_, purged, ⟨⟩, succeeds, same⟩
      exact ⟨(), trivial, purged, succeeds, by simpa using same⟩

/-- What purging gave is written, or else the source, unless that already stands there. -/
theorem written_eq (writes : mode.dryRun = false) (data : Bytes) (purged : Option Bytes) :
    job.written mode data purged
      = if job.isInPlace ∧ purged = none then none else some (purged.getD data) := by
  unfold written
  cases purged with
  | none => simp [writes]
  | some bytes => simp [writes]

theorem skipped_purgeArtifact {kind : ArtifactKind} {origin : String} {data : Bytes}
    {purged : Option Bytes}
    (succeeds : (purgeArtifact optimize traced kind origin data).outcome = .ok purged) :
    (purgeArtifact optimize traced kind origin data).journal.summary.skipped = 0 := by
  rw [summary_purgeArtifact succeeds]
  rfl

theorem skipped_transformed {output : Option Bytes}
    (succeeds : (job.transformed optimize traced mode tree).outcome = .ok output) :
    (job.transformed optimize traced mode tree).journal.summary.skipped = 0 := by
  obtain ⟨data, purged, read, purges, -⟩ := transformed_eq_ok_iff.mp succeeds
  unfold transformed
  rw [read, Work.summary_bind (Work.outcome_report _), Work.summary_bind purges]
  have none := skipped_purgeArtifact purges
  simp only [Summary.append_def]
  rw [none]
  rfl

end Job

namespace Workers

variable {tree : FileTree} {jobs : List Job} {schedule : List Nat}

/-- Where nothing stands and no directory is made, nothing stands when the job looks. -/
theorem modified?_destination {position : Nat} {assignment : Assignment}
    (apart : jobs.Pairwise (Job.Apart tree))
    (assigned : ((start tree jobs).follow optimize traced mode schedule).assignments[position]?
      = some assignment) (ahead : assignment.stage.isAhead)
    (absent : tree.lookup? (tree.placeOf assignment.job.destination) = none)
    (clear : ∀ job ∈ jobs, tree.placeOf assignment.job.destination ∉ job.above tree) :
    ((start tree jobs).follow optimize traced mode schedule).tree.modified? assignment.job.destination
      = none := by
  have still : ((start tree jobs).follow optimize traced mode schedule).tree.lookup?
      (tree.placeOf assignment.job.destination) = none := by
    rcases kept_or_made_of_ahead (destination_elsewhere apart assigned) assigned ahead with
      same | ⟨-, -, job, planned, above⟩
    · rw [same, absent]
    · exact absurd above (clear job planned)
  refine FileTree.modified?_of_absent ?_
  rwa [placeOf_follow]

/-! ## After all jobs -/

/-- When a run ends without a failure, each job was left out, had nothing to write, or has written. -/
theorem ended_of_succeeds {workers : Workers} (finished : workers.Finished) (succeeds : ¬workers.Fails)
    {assignment : Assignment} (member : assignment ∈ workers.assignments) :
    assignment.stage = .skipped ∨ assignment.stage = .standing ∨
      ∃ content, assignment.stage = .written content := by
  have sound : assignment.stage.failure?.isSome = false := by
    rw [← Bool.not_eq_true]
    intro failed
    exact succeeds ⟨assignment, member, failed⟩
  rcases finished assignment member with settled | ⟨-, fails⟩
  · cases stage : assignment.stage with
    | skipped => exact .inl rfl
    | standing => exact .inr (.inl rfl)
    | written content => exact .inr (.inr ⟨content, rfl⟩)
    | waiting | cleared | making =>
      rw [stage] at settled
      cases settled
    | refused | unwritten =>
      rw [stage] at sound
      cases sound
  · exact absurd fails succeeds

theorem skipped_foldr {assignments : List Assignment}
    (counted : ∀ assignment ∈ assignments,
      assignment.summary.skipped = if assignment.stage = .skipped then 1 else 0) :
    ((assignments.map (·.summary)).foldr (· ++ ·) ({} : Summary)).skipped
      = assignments.countP (·.stage = .skipped) := by
  induction assignments with
  | nil => rfl
  | cons first rest ih =>
    rw [List.forall_mem_cons] at counted
    rw [List.map_cons, List.foldr_cons, Summary.append_def, List.countP_cons, ih counted.2, counted.1]
    simp [Nat.add_comm]

end Workers

/-- What a job has come to that was carried out to its end with others from `tree`, and looked whether it is
up to date at `looked`. -/
structure Assignment.Delivered (optimize : ClassOptimizer) (traced : Bool) (mode : WriteMode)
    (tree : FileTree) (jobs : List Job) (looked final : FileTree) (assignment : Assignment) : Prop where
  skipped : assignment.stage = .skipped ↔
    (assignment.job.isInPlace = false ∧ mode.overwrite = false) ∧
      ∃ written modified, looked.modified? assignment.job.destination = some written ∧
        looked.modified? assignment.job.source = some modified ∧ modified < written
  /-- The times are those before the run when files stood at both ends. -/
  newer : ∀ content written data modified,
    tree.find? assignment.job.destination = some (.file content written) →
    tree.find? assignment.job.source = some (.file data modified) →
    (assignment.stage = .skipped ↔
      (assignment.job.isInPlace = false ∧ mode.overwrite = false) ∧ modified < written)
  /-- Nothing is left out for a destination where nothing is. -/
  absent : tree.lookup? (tree.placeOf assignment.job.destination) = none →
    (∀ other ∈ jobs, tree.placeOf assignment.job.destination ∉ other.above tree) →
    assignment.stage ≠ .skipped
  untouched : assignment.stage = .skipped → ∀ node,
    tree.lookup? (tree.placeOf assignment.job.destination) = some node →
    final.lookup? (tree.placeOf assignment.job.destination) = some node
  delivered : assignment.stage ≠ .skipped → ∃ data time purged,
    tree.lookup? (tree.placeOf assignment.job.source) = some (.file data time) ∧
      (purgeArtifact optimize traced assignment.job.kind assignment.job.source.text data).outcome
        = .ok purged ∧
      if assignment.job.isInPlace ∧ purged = none then
        final.lookup? (tree.placeOf assignment.job.destination) = some (.file data time)
      else final.read? assignment.job.destination = some (purged.getD data)

namespace Workers

section Delivered

variable {tree : FileTree} {jobs : List Job} {schedule : List Nat}

/-- Files that stand at both ends of a job before the run are what it looks at. -/
theorem modified?_of_ahead {position : Nat} {assignment : Assignment}
    (apart : jobs.Pairwise (Job.Apart tree))
    (assigned : ((start tree jobs).follow optimize traced mode schedule).assignments[position]?
      = some assignment) (ahead : assignment.stage.isAhead)
    {content data : Bytes} {written modified : Nat}
    (destination : tree.find? assignment.job.destination = some (.file content written))
    (source : tree.find? assignment.job.source = some (.file data modified)) :
    ((start tree jobs).follow optimize traced mode schedule).tree.modified? assignment.job.destination
        = some written ∧
      ((start tree jobs).follow optimize traced mode schedule).tree.modified? assignment.job.source
        = some modified := by
  have there := find?_of_ahead (destination_elsewhere apart assigned) assigned ahead destination
  have here := find?_of_ahead (source_elsewhere apart assigned) assigned ahead source
  exact ⟨FileTree.modified?_of_find? there, FileTree.modified?_of_find? here⟩

/-- A place where something stood and no job has written is as it was. -/
theorem kept_of_node {place : Place} {node : Node} (stood : tree.lookup? place = some node)
    (unwritten : ∀ (position : Nat) (assignment : Assignment) (content : Bytes),
      ((start tree jobs).follow optimize traced mode schedule).assignments[position]? = some assignment →
      assignment.stage = .written content → tree.placeOf assignment.job.destination ≠ place) :
    ((start tree jobs).follow optimize traced mode schedule).tree.lookup? place = some node := by
  rcases kept_or_made unwritten with same | ⟨absent, -⟩
  · exact same.trans stood
  · rw [stood] at absent
    cases absent

/-- The destination of a job that has not written is not written at all. -/
theorem unwritten_elsewhere {position : Nat} {assignment : Assignment}
    (apart : jobs.Pairwise (Job.Apart tree))
    (assigned : ((start tree jobs).follow optimize traced mode schedule).assignments[position]?
      = some assignment) (unwritten : ∀ content, assignment.stage ≠ .written content)
    (other : Nat) (writer : Assignment) (content : Bytes)
    (held : ((start tree jobs).follow optimize traced mode schedule).assignments[other]? = some writer)
    (wrote : writer.stage = .written content) :
    tree.placeOf writer.job.destination ≠ tree.placeOf assignment.job.destination := by
  by_cases here : other = position
  · subst here
    rw [assigned] at held
    cases held
    exact absurd wrote (unwritten content)
  · exact destination_elsewhere apart assigned other writer.job here (job_of_assigned held)

/-- A job that was not left out has given its destination what purging its source gave. -/
theorem delivered_of_read {position : Nat} {assignment : Assignment} (writes : mode.dryRun = false)
    (apart : jobs.Pairwise (Job.Apart tree)) {read : List Nat} {before : Assignment}
    (assigned : ((start tree jobs).follow optimize traced mode schedule).assignments[position]?
      = some assignment)
    (held : ((start tree jobs).follow optimize traced mode read).assignments[position]? = some before)
    (ahead : before.stage.isAhead) {output : Option Bytes}
    (gives : (assignment.job.transformed optimize traced mode
      ((start tree jobs).follow optimize traced mode read).tree).outcome = .ok output)
    (ended : assignment.stage = output.elim .standing .written) :
    ∃ data time purged,
      tree.lookup? (tree.placeOf assignment.job.source) = some (.file data time) ∧
        (purgeArtifact optimize traced assignment.job.kind assignment.job.source.text data).outcome
          = .ok purged ∧
        if assignment.job.isInPlace ∧ purged = none then
          ((start tree jobs).follow optimize traced mode schedule).tree.lookup?
            (tree.placeOf assignment.job.destination) = some (.file data time)
        else ((start tree jobs).follow optimize traced mode schedule).tree.read?
          assignment.job.destination = some (purged.getD data) := by
  have same : before.job = assignment.job :=
    Option.some.inj ((job_of_assigned held).symm.trans (job_of_assigned assigned))
  obtain ⟨data, purged, found, succeeds, output⟩ := Job.transformed_eq_ok_iff.mp gives
  rw [← same] at found
  obtain ⟨time, stood⟩ := lookup?_of_read? apart held ahead found
  rw [same] at stood
  refine ⟨data, time, purged, stood, succeeds, ?_⟩
  rw [Job.written_eq writes] at output
  split at output
  next stands =>
    subst output
    rw [if_pos stands]
    -- In place, so the source stands where the job would have written.
    rw [FileTree.placeOf_eq_of_same tree stands.1] at stood
    exact kept_of_node stood (unwritten_elsewhere apart assigned (by simp [ended]))
  next changes =>
    subst output
    rw [if_neg changes]
    exact FileTree.read?_eq_some_iff.mpr
      (find?_of_written (destination_elsewhere apart assigned) assigned ended)

/-- A job that was carried out to its end is delivered. -/
theorem exists_delivered {position : Nat} {assignment : Assignment} (writes : mode.dryRun = false)
    (apart : jobs.Pairwise (Job.Apart tree))
    (assigned : ((start tree jobs).follow optimize traced mode schedule).assignments[position]?
      = some assignment)
    (ended : assignment.stage = .skipped ∨ assignment.stage = .standing ∨
      ∃ content, assignment.stage = .written content) :
    ∃ looked, looked <+: schedule ∧
      ((start tree jobs).follow optimize traced mode looked).assignments[position]?
        = some { job := assignment.job } ∧
      assignment.Delivered optimize traced mode tree jobs
        ((start tree jobs).follow optimize traced mode looked).tree
        ((start tree jobs).follow optimize traced mode schedule).tree := by
  obtain ⟨looked, read, early, -, waits, ⟨before, held, ahead⟩, follows⟩ := exists_moments assigned
  have followed := follows.stage
  -- Whether a job is left out is settled when it looks.
  have skipped : assignment.stage = .skipped ↔ assignment.job.isSkipped mode
      ((start tree jobs).follow optimize traced mode looked).tree = .ok true := by
    rcases ended with stage | stage | ⟨content, stage⟩
    · rw [stage] at followed ⊢
      exact iff_of_true rfl followed
    · rw [stage] at followed ⊢
      exact iff_of_false (by simp) (by simp [followed.1])
    · rw [stage] at followed ⊢
      exact iff_of_false (by simp) (by simp [followed.1])
  rw [Job.isSkipped_eq_true_iff, and_iff_left writes (a := mode.overwrite = false)] at skipped
  refine ⟨looked, early, waits, skipped, ?_, ?_, ?_, ?_⟩
  · intro content written data modified there here
    obtain ⟨destination, source⟩ := modified?_of_ahead apart waits rfl there here
    rw [skipped, destination, source]
    simp
  · intro absent clear left
    obtain ⟨-, written, -, found, -⟩ := skipped.mp left
    rw [modified?_destination apart waits rfl absent clear] at found
    cases found
  · intro left node stood
    exact kept_of_node stood (unwritten_elsewhere apart assigned (by simp [left]))
  · intro other
    rcases ended with stage | stage | ⟨content, stage⟩
    · exact absurd stage other
    · rw [stage] at followed
      exact delivered_of_read writes apart assigned held ahead followed.2 stage
    · rw [stage] at followed
      exact delivered_of_read writes apart assigned held ahead followed.2 stage

end Delivered

end Workers

/-- Three classes; a newer copy of the second one has been written before. -/
def copied : FileTree where
  entries := [(["A.class"], .file [7] 1), (["B.class"], .file [7] 1), (["C.class"], .file [] 1),
    (["out"], .directory), (["out", "B.class"], .file [8] 2)]
  clock := 3

/-- One class is purged in place and two are purged to a directory. -/
def threeJobs : List Job :=
  [⟨⟨"C.class"⟩, ⟨"C.class"⟩, .classFile⟩, ⟨⟨"A.class"⟩, ⟨"out/A.class"⟩, .classFile⟩,
    ⟨⟨"B.class"⟩, ⟨"out/B.class"⟩, .classFile⟩]

end Unannotate
