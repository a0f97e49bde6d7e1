import Unannotate.Proofs.Workers.Delivered

/-!
# Runs that the tree before them determines

A job is determined by the tree before the run when what it looks at and reads is as it was there. If all jobs
are, then so is how each of them ends, whether the run fails, and what it counts.
-/
set_option autoImplicit false

namespace Unannotate

variable {optimize : ClassOptimizer} {traced : Bool} {mode : WriteMode}

/-- How a job ends that finds this tree, and can write what it has to write. -/
def Job.stageAtEnd (optimize : ClassOptimizer) (traced : Bool) (mode : WriteMode) (tree : FileTree)
    (job : Job) : Stage :=
  match job.isSkipped mode tree with
  | .error failure => .refused failure
  | .ok true => .skipped
  | .ok false =>
    match (job.transformed optimize traced mode tree).outcome with
    | .error failure => .refused failure
    | .ok none => .standing
    | .ok (some content) => .written content

theorem Assignment.FollowsFrom.stage_eq {tree : FileTree} {assignment : Assignment}
    (follows : assignment.FollowsFrom optimize traced mode tree tree) (settled : assignment.stage.isOver)
    (writes : ∀ failure, assignment.stage ≠ .unwritten failure) :
    assignment.stage = assignment.job.stageAtEnd optimize traced mode tree := by
  have followed := follows.stage
  unfold Job.stageAtEnd
  cases stage : assignment.stage with
  | skipped =>
    rw [stage] at followed
    simp only [show assignment.job.isSkipped mode tree = .ok true from followed]
  | standing | written =>
    rw [stage] at followed
    simp only [followed.1, followed.2]
  | refused =>
    rw [stage] at followed
    rcases followed with looks | ⟨outdated, fails⟩
    · simp only [looks]
    · simp only [outdated, fails]
  | unwritten failure => exact absurd stage (writes failure)
  | waiting | cleared | making =>
    rw [stage] at settled
    cases settled

namespace Workers

section Determined

variable {tree : FileTree} {jobs : List Job} {schedule : List Nat}
  (determined : ∀ (position : Nat) (assignment : Assignment),
    ((start tree jobs).follow optimize traced mode schedule).assignments[position]? = some assignment →
    assignment.FollowsFrom optimize traced mode tree tree)
  (finished : ((start tree jobs).follow optimize traced mode schedule).Finished)

include determined finished

/-- A run fails when some job does. -/
theorem fails_iff
    (writes : ∀ assignment ∈ ((start tree jobs).follow optimize traced mode schedule).assignments,
      ∀ failure, assignment.stage ≠ .unwritten failure) :
    ((start tree jobs).follow optimize traced mode schedule).Fails ↔
      ∃ job ∈ jobs, (job.stageAtEnd optimize traced mode tree).failure?.isSome := by
  have ends (position : Nat) (assignment : Assignment)
      (assigned : ((start tree jobs).follow optimize traced mode schedule).assignments[position]?
        = some assignment) (settled : assignment.stage.isOver) :
      assignment.stage = assignment.job.stageAtEnd optimize traced mode tree :=
    (determined position assignment assigned).stage_eq settled
      (writes assignment (List.mem_of_getElem? assigned))
  constructor
  · rintro ⟨assignment, member, failed⟩
    obtain ⟨position, assigned⟩ := List.getElem?_of_mem member
    have settled : assignment.stage.isOver := by
      cases stage : assignment.stage with
      | refused | unwritten => rfl
      | waiting | cleared | making | skipped | standing | written =>
        rw [stage] at failed
        cases failed
    refine ⟨assignment.job, List.mem_of_getElem? (job_of_assigned assigned), ?_⟩
    rwa [← ends position assignment assigned settled]
  · rintro ⟨job, planned, failed⟩
    obtain ⟨position, planned⟩ := List.getElem?_of_mem planned
    obtain ⟨assignment, assigned, rfl⟩ := exists_assigned planned
    have member := List.mem_of_getElem? assigned
    rcases finished assignment member with settled | ⟨-, fails⟩
    · rw [← ends position assignment assigned settled] at failed
      exact ⟨assignment, member, failed⟩
    · exact fails

section Succeeds

variable (succeeds : ¬((start tree jobs).follow optimize traced mode schedule).Fails)

include succeeds

/-- Where no job fails, each ends as the tree before the run leads it to. -/
theorem stage_eq_of_succeeds {position : Nat} {assignment : Assignment}
    (assigned : ((start tree jobs).follow optimize traced mode schedule).assignments[position]?
      = some assignment) :
    assignment.stage = assignment.job.stageAtEnd optimize traced mode tree := by
  have member := List.mem_of_getElem? assigned
  refine (determined position assignment assigned).stage_eq ?_ ?_
  · rcases finished assignment member with settled | ⟨-, fails⟩
    · exact settled
    · exact absurd fails succeeds
  · intro failure stage
    exact succeeds ⟨assignment, member, by rw [stage]; rfl⟩

/-- Where no job fails, the run counts what each job counts, in the order of the plan. -/
theorem summary_eq_of_succeeds :
    ((start tree jobs).follow optimize traced mode schedule).summary
      = (jobs.map fun job => ((job.stageAtEnd optimize traced mode tree).counted optimize traced mode
          tree job).getD {}).foldr (· ++ ·) {} := by
  have counted : ∀ assignment ∈ ((start tree jobs).follow optimize traced mode schedule).assignments,
      assignment.summary = ((assignment.job.stageAtEnd optimize traced mode tree).counted optimize
        traced mode tree assignment.job).getD {} := by
    intro assignment member
    obtain ⟨position, assigned⟩ := List.getElem?_of_mem member
    rw [← stage_eq_of_succeeds determined finished succeeds assigned]
    have counts := (determined position assignment assigned).counted
    rcases ended_of_succeeds finished succeeds member with stage | stage | ⟨content, stage⟩
    all_goals
      rw [stage] at counts ⊢
      exact counts _ rfl
  have each : ((start tree jobs).follow optimize traced mode schedule).assignments.map (·.summary)
      = jobs.map fun job => ((job.stageAtEnd optimize traced mode tree).counted optimize traced mode
          tree job).getD {} := by
    rw [List.map_congr_left counted]
    conv_rhs => rw [← map_job_follow optimize traced mode tree jobs schedule]
    rw [List.map_map]
    rfl
  rw [summary, each]

/-- Where no job fails, what a job writes is its destination's content. -/
theorem content?_of_writer (apart : jobs.Pairwise (Job.Apart tree)) {job : Job} (planned : job ∈ jobs)
    {content : Bytes} (writes : job.stageAtEnd optimize traced mode tree = .written content) :
    ((start tree jobs).follow optimize traced mode schedule).tree.content?
      (tree.placeOf job.destination) = some content := by
  obtain ⟨position, planned⟩ := List.getElem?_of_mem planned
  obtain ⟨assignment, assigned, rfl⟩ := exists_assigned planned
  obtain ⟨time, found⟩ := find?_of_written (destination_elsewhere apart assigned) assigned
    ((stage_eq_of_succeeds determined finished succeeds assigned).trans writes)
  have stands := (FileTree.find?_eq_some_iff.mp found).2
  rw [placeOf_follow] at stands
  simp [FileTree.content?, stands]

/-- Where no job fails, a file that no job writes keeps its content. -/
theorem content?_of_no_writer {place : Place}
    (elsewhere : ∀ job ∈ jobs, ∀ content,
      job.stageAtEnd optimize traced mode tree = .written content →
      tree.placeOf job.destination ≠ place) :
    ((start tree jobs).follow optimize traced mode schedule).tree.content? place
      = tree.content? place := by
  have unwritten (position : Nat) (assignment : Assignment) (content : Bytes)
      (assigned : ((start tree jobs).follow optimize traced mode schedule).assignments[position]?
        = some assignment) (stage : assignment.stage = .written content) :
      tree.placeOf assignment.job.destination ≠ place := by
    refine elsewhere _ (List.mem_of_getElem? (job_of_assigned assigned)) content ?_
    rw [← stage_eq_of_succeeds determined finished succeeds assigned, stage]
  unfold FileTree.content?
  rcases kept_or_made unwritten with same | ⟨absent, stands, -⟩
  · rw [same]
  · rw [absent, stands]

end Succeeds

end Determined

end Workers

end Unannotate
