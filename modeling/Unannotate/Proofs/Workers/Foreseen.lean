import Unannotate.Proofs.Files.Parents
import Unannotate.Proofs.Workers.Listing

/-!
# Jobs that are foreseen

A job is foreseen when nothing but files stands where it reads and writes, so what it looks at does not depend
on what the other jobs have made. If the jobs also stay out of each other's way, one that could be written in
some order can be written in all of them, `not_unwritten_of_succeeds`. So all orders in which their steps can
come lead to the same files and the same summary, or fail, `schedules_agree`.
-/
set_option autoImplicit false

namespace Unannotate

variable {optimize : ClassOptimizer} {traced : Bool} {mode : WriteMode}

/-- What a job looks at before it writes is settled before the run: its source is a file, and its destination
is one or nothing, where no job makes a directory. -/
structure Job.Foreseen (tree : FileTree) (jobs : List Job) (job : Job) : Prop where
  source : ∃ data time, tree.find? job.source = some (.file data time)
  destination : (∃ data time, tree.find? job.destination = some (.file data time)) ∨
    tree.lookup? (tree.placeOf job.destination) = none ∧
      ∀ other ∈ jobs, tree.placeOf job.destination ∉ other.above tree

theorem Job.isSkipped_eq_of_modified? {before after : FileTree} {job : Job}
    (destination : after.modified? job.destination = before.modified? job.destination)
    (source : after.modified? job.source = before.modified? job.source) :
    job.isSkipped mode after = job.isSkipped mode before := by
  simp only [isSkipped, isUpToDate, destination, source]

namespace Workers

variable {tree : FileTree} {jobs : List Job} {schedule : List Nat}

/-- A job that is foreseen is left out when it would be left out before the run. -/
theorem isSkipped_of_ahead {position : Nat} {assignment : Assignment}
    (apart : jobs.Pairwise (Job.Apart tree))
    (assigned : ((start tree jobs).follow optimize traced mode schedule).assignments[position]?
      = some assignment) (ahead : assignment.stage.isAhead)
    (foreseen : assignment.job.Foreseen tree jobs) :
    assignment.job.isSkipped mode ((start tree jobs).follow optimize traced mode schedule).tree
      = assignment.job.isSkipped mode tree := by
  obtain ⟨data, time, source⟩ := foreseen.source
  have same := find?_of_ahead (source_elsewhere apart assigned) assigned ahead source
  refine Job.isSkipped_eq_of_modified? ?_
    ((FileTree.modified?_of_find? same).trans (FileTree.modified?_of_find? source).symm)
  rcases foreseen.destination with ⟨content, written, found⟩ | ⟨absent, clear⟩
  · have still := find?_of_ahead (destination_elsewhere apart assigned) assigned ahead found
    rw [FileTree.modified?_of_find? still, FileTree.modified?_of_find? found]
  · rw [modified?_destination apart assigned ahead absent clear, FileTree.modified?_of_absent absent]

/-- A job that is foreseen gets as far as the tree before the run leads it. -/
theorem followsFrom_start {position : Nat} {assignment : Assignment}
    (apart : jobs.Pairwise (Job.Apart tree)) (foreseen : ∀ job ∈ jobs, job.Foreseen tree jobs)
    (assigned : ((start tree jobs).follow optimize traced mode schedule).assignments[position]?
      = some assignment) : assignment.FollowsFrom optimize traced mode tree tree := by
  have readable : ∀ job ∈ jobs, (tree.read? job.source).isSome := by
    intro job member
    obtain ⟨data, time, found⟩ := (foreseen job member).source
    simp [FileTree.read?, found]
  obtain ⟨looked, -, waits, follows⟩ := exists_followsFrom (Job.independent_of_readable apart readable)
    assigned
  have seen := foreseen _ (List.mem_of_getElem? (job_of_assigned assigned))
  exact follows.of_isSkipped (isSkipped_of_ahead apart waits rfl seen).symm

end Workers

/-! ## The way to a destination -/

/-- Directories stand on the way to a job's destination, as far as the job has made them. -/
def Stage.Paved (tree now : FileTree) (job : Job) : Stage → Prop
  | making _ _ ahead => ∀ behind, job.destination.parentSteps = behind ++ ahead →
      ∀ left ∈ FileTree.way (tree.startOf job.destination) behind, now.lookup? left = some .directory
  | written _ => ∀ left ∈ job.above tree, now.lookup? left = some .directory
  | waiting | cleared | skipped | standing | refused _ | unwritten _ => True

section Paved

variable {tree now next : FileTree} {job : Job} {before after : Assignment}

theorem Stage.Paved.of_grows {stage : Stage} (grows : FileTree.Grows now next)
    (paved : stage.Paved tree now job) : stage.Paved tree next job := by
  cases stage with
  | making content place ahead =>
    intro behind split left member
    exact grows.directory left (paved behind split left member)
  | written content =>
    intro left member
    exact grows.directory left (paved left member)
  | waiting | cleared | skipped | standing | refused | unwritten => trivial

/-- A step that makes a directory paves the way as far as there. -/
theorem Stage.Paved.of_made {content : Bytes} {place : Place} {piece : String} {done ahead : List String}
    (paved : (Stage.making content place (piece :: ahead)).Paved tree now job)
    (steps : job.destination.parentSteps = done ++ piece :: ahead)
    (reached : place = done.foldl FileTree.step (tree.startOf job.destination))
    (made : now.makeDirectory? (FileTree.step place piece) = some next) :
    (Stage.making content (FileTree.step place piece) ahead).Paved tree next job := by
  intro behind split left member
  have same : behind = done ++ [piece] := by
    have both : behind ++ ahead = done ++ [piece] ++ ahead := by
      rw [← split, steps, List.append_assoc]
      rfl
    exact List.append_cancel_right both
  subst same
  rw [FileTree.way_concat] at member
  rcases List.mem_append.mp member with earlier | here
  · exact (FileTree.grows_makeDirectory? made).directory left (paved done steps left earlier)
  · have there : left = FileTree.step place piece := by
      rw [List.mem_singleton.mp here, List.foldl_append, ← reached]
      rfl
    rw [there]
    exact FileTree.lookup?_makeDirectory? made

theorem Assignment.Advances.paved
    (starts : now.lookup? (tree.startOf before.job.destination) = some .directory)
    (onWay : before.OnWay tree) (paved : before.stage.Paved tree now before.job)
    (step : before.Advances optimize traced mode now next after) :
    after.stage.Paved tree next after.job := by
  cases step with
  | rests => exact paved
  | cannotLook | skips | clears | cannotMake | cannotWrite => trivial
  | reads cleared =>
    simp only [Assignment.stageAfter]
    split
    · trivial
    · trivial
    · intro behind split left member
      obtain rfl : behind = [] := by simpa using split
      rwa [List.mem_singleton.mp member]
  | makes under made =>
    rw [under] at paved
    obtain ⟨done, steps, reached⟩ := onWay _ _ _ under
    exact paved.of_made steps reached made
  | writes under put =>
    rw [under] at paved
    intro left member
    exact (FileTree.grows_put? put).directory left (paved _ (List.append_nil _).symm left member)

end Paved

namespace Workers

variable {tree : FileTree} {jobs : List Job} {schedule : List Nat}

theorem paved_follow (based : tree.lookup? tree.base = some .directory) {position : Nat}
    {assignment : Assignment}
    (assigned : ((start tree jobs).follow optimize traced mode schedule).assignments[position]?
      = some assignment) :
    assignment.stage.Paved tree ((start tree jobs).follow optimize traced mode schedule).tree
      assignment.job := by
  induction schedule using List.reverseRecOn generalizing assignment with
  | nil =>
    rw [eq_of_assigned_start assigned]
    trivial
  | append_singleton earlier last ih =>
    rw [follow_concat] at assigned ⊢
    rcases assigned_step assigned with held | ⟨before, next, rfl, held, result, advance⟩
    · exact (ih held).of_grows (grows_step _ last)
    · rw [result]
      refine advance.paved ?_ (onWay_follow held) (ih held)
      exact (grows_follow (start tree jobs) earlier).directory _ (FileTree.lookup?_startOf based _)

/-- What could not be written failed at some step of its job. -/
theorem exists_failing_step {position : Nat} {assignment : Assignment} {failure : Failure}
    (assigned : ((start tree jobs).follow optimize traced mode schedule).assignments[position]?
      = some assignment) (stage : assignment.stage = .unwritten failure) :
    ∃ earlier before,
      ((start tree jobs).follow optimize traced mode earlier).assignments[position]? = some before ∧
      before.job = assignment.job ∧
      ((∃ content place piece ahead, before.stage = .making content place (piece :: ahead) ∧
          ((start tree jobs).follow optimize traced mode earlier).tree.makeDirectory?
            (FileTree.step place piece) = none) ∨
        ∃ content place, before.stage = .making content place [] ∧
          ((start tree jobs).follow optimize traced mode earlier).tree.put? before.job.destination content
            = none) := by
  induction schedule using List.reverseRecOn generalizing assignment with
  | nil =>
    rw [eq_of_assigned_start assigned] at stage
    cases stage
  | append_singleton earlier last ih =>
    rw [follow_concat] at assigned
    rcases assigned_step assigned with held | ⟨before, next, rfl, held, -, advance⟩
    · exact ih held stage
    cases advance with
    | rests => exact ih held stage
    | cannotLook | skips | clears | makes | writes => cases stage
    | reads =>
      simp only [Assignment.stageAfter] at stage
      split at stage <;> cases stage
    | cannotMake under inTheWay => exact ⟨earlier, before, held, rfl, .inl ⟨_, _, _, _, under, inTheWay⟩⟩
    | cannotWrite under fails => exact ⟨earlier, before, held, rfl, .inr ⟨_, _, under, fails⟩⟩

section Foreseen

variable (apart : jobs.Pairwise (Job.Apart tree)) (foreseen : ∀ job ∈ jobs, job.Foreseen tree jobs)

include foreseen

/-- A file above a destination was one before the run. -/
theorem file_above {job : Job} (planned : job ∈ jobs) {place : Place} (above : place ∈ job.above tree)
    {content : Bytes} {time : Nat}
    (file : ((start tree jobs).follow optimize traced mode schedule).tree.lookup? place
      = some (.file content time)) :
    ∃ content time, tree.lookup? place = some (.file content time) := by
  cases fate optimize traced mode tree jobs schedule place with
  | kept same => exact ⟨content, time, same ▸ file⟩
  | made _ _ _ _ directory =>
    rw [file] at directory
    cases directory
  | @written position writer _ _ assigned _ there =>
    subst there
    rcases (foreseen _ (List.mem_of_getElem? (job_of_assigned assigned))).destination with
      ⟨content, time, found⟩ | ⟨-, clear⟩
    · exact ⟨content, time, (FileTree.find?_eq_some_iff.mp found).2⟩
    · exact absurd above (clear job planned)

/-- No directory ever stands at a destination. -/
theorem destination_ne_directory {job : Job} (planned : job ∈ jobs) :
    ((start tree jobs).follow optimize traced mode schedule).tree.lookup? (tree.placeOf job.destination)
      ≠ some .directory := by
  intro directory
  rcases (foreseen job planned).destination with ⟨content, time, found⟩ | ⟨absent, clear⟩
  · obtain ⟨_, _, file⟩ := (grows_follow (start tree jobs) schedule).file _ content time
      (FileTree.find?_eq_some_iff.mp found).2
    cases directory.symm.trans file
  · cases fate optimize traced mode tree jobs schedule (tree.placeOf job.destination) with
    | kept same => cases absent.symm.trans (same.symm.trans directory)
    | made assigned _ above =>
      exact absurd above (clear _ (List.mem_of_getElem? (job_of_assigned assigned)))
    | written _ _ _ _ file => cases directory.symm.trans file

include apart

/-- What is written in one order of the steps can be written in all of them. -/
theorem not_unwritten_of_succeeds (based : tree.lookup? tree.base = some .directory) {first second : List Nat}
    (finished : ((start tree jobs).follow optimize traced mode second).Finished)
    (succeeds : ¬((start tree jobs).follow optimize traced mode second).Fails)
    (assignment : Assignment)
    (member : assignment ∈ ((start tree jobs).follow optimize traced mode first).assignments)
    (failure : Failure) : assignment.stage ≠ .unwritten failure := by
  intro unwritten
  obtain ⟨position, assigned⟩ := List.getElem?_of_mem member
  have planned := job_of_assigned assigned
  have listed := List.mem_of_getElem? planned
  -- In the other order the job has written, so directories stand above its destination in the end.
  obtain ⟨twin, there, same⟩ : ∃ twin : Assignment,
      ((start tree jobs).follow optimize traced mode second).assignments[position]? = some twin ∧
        twin.job = assignment.job := exists_assigned planned
  have led := (followsFrom_start apart foreseen assigned).stage
  rw [unwritten] at led
  obtain ⟨outdated, content, gives⟩ := led
  have written : twin.stage = .written content := by
    rw [stage_eq_of_succeeds (fun _ _ => followsFrom_start apart foreseen) finished succeeds there, same]
    simp only [Job.stageAtEnd, outdated, gives]
  obtain ⟨time, found⟩ := find?_of_written (destination_elsewhere apart there) there written
  have paved := paved_follow based there
  rw [written, same] at paved
  rw [same] at found
  obtain ⟨leads, stands⟩ := FileTree.find?_eq_some_iff.mp found
  rw [placeOf_follow] at stands
  obtain ⟨earlier, before, held, twice, step⟩ := exists_failing_step assigned unwritten
  rcases step with ⟨_, last, piece, ahead, under, inTheWay⟩ | ⟨_, last, under, fails⟩
  · -- A file stood in the way, so it does so before the run and in the other order.
    obtain ⟨_, _, file⟩ := FileTree.makeDirectory?_eq_none inTheWay
    obtain ⟨behind, steps, reached⟩ := onWay_follow held _ last (piece :: ahead) under
    rw [twice] at steps reached
    have above : FileTree.step last piece ∈ assignment.job.above tree :=
      FileTree.mem_way_iff.mpr ⟨behind ++ [piece], ahead, by simp [steps], by simp [reached]⟩
    obtain ⟨_, _, stood⟩ := file_above foreseen listed above file
    obtain ⟨_, _, still⟩ := (grows_follow (start tree jobs) second).file _ _ _ stood
    cases (paved _ above).symm.trans still
  · rw [twice] at fails
    rcases FileTree.put?_eq_none fails with lost | directory
    · -- The job has made all directories above its destination, so its path leads there.
      obtain ⟨spelled, directories⟩ := FileTree.resolve?_isSome_iff.mp leads
      rw [passedBy_follow] at directories
      have resolved : (((start tree jobs).follow optimize traced mode earlier).tree.resolve?
          assignment.job.destination).isSome := by
        refine FileTree.resolve?_isSome_iff.mpr ⟨spelled, fun left passed => ?_⟩
        rw [passedBy_follow] at passed
        rcases FileTree.mem_way_of_mem_passedBy passed with above | rfl
        · have made := paved_follow based held
          rw [under, twice] at made
          exact made _ (List.append_nil _).symm left above
        · cases (directories _ passed).symm.trans stands
      rw [lost] at resolved
      cases resolved
    · rw [placeOf_follow] at directory
      exact destination_ne_directory foreseen listed directory

end Foreseen

/-- When jobs that are foreseen stay out of each other's way, all orders in which their steps can come lead to
the same: either the run fails in all of them, or each gives every file the same content and counts the
same. -/
theorem schedules_agree (based : tree.lookup? tree.base = some .directory)
    (apart : jobs.Pairwise (Job.Apart tree)) (foreseen : ∀ job ∈ jobs, job.Foreseen tree jobs)
    (first second : List Nat) (finished : ((start tree jobs).follow optimize traced mode first).Finished)
    (ended : ((start tree jobs).follow optimize traced mode second).Finished) :
    let one := (start tree jobs).follow optimize traced mode first
    let two := (start tree jobs).follow optimize traced mode second
    (one.Fails ↔ two.Fails) ∧
      (¬one.Fails → one.summary = two.summary ∧
        ∀ place, one.tree.content? place = two.tree.content? place) := by
  intro one two
  have led (schedule : List Nat) (position : Nat) (assignment : Assignment)
      (assigned : ((start tree jobs).follow optimize traced mode schedule).assignments[position]?
        = some assignment) : assignment.FollowsFrom optimize traced mode tree tree :=
    followsFrom_start apart foreseen assigned
  -- An order in which nothing fails can be written, and so can every other one.
  have succeeds_too {first second : List Nat}
      (finished : ((start tree jobs).follow optimize traced mode first).Finished)
      (ended : ((start tree jobs).follow optimize traced mode second).Finished)
      (succeeds : ¬((start tree jobs).follow optimize traced mode second).Fails) :
      ¬((start tree jobs).follow optimize traced mode first).Fails := by
    rw [fails_iff (led first) finished (not_unwritten_of_succeeds apart foreseen based ended succeeds)]
    rwa [← fails_iff (led second) ended (not_unwritten_of_succeeds apart foreseen based ended succeeds)]
  have agree : one.Fails ↔ two.Fails :=
    not_iff_not.mp ⟨succeeds_too ended finished, succeeds_too finished ended⟩
  refine ⟨agree, fun succeeds => ?_⟩
  have also : ¬two.Fails := agree.not.mp succeeds
  constructor
  · rw [summary_eq_of_succeeds (led first) finished succeeds,
      summary_eq_of_succeeds (led second) ended also]
  · intro place
    by_cases writer : ∃ job ∈ jobs, ∃ content,
        job.stageAtEnd optimize traced mode tree = .written content ∧
        tree.placeOf job.destination = place
    · obtain ⟨job, planned, content, stage, rfl⟩ := writer
      rw [content?_of_writer (led first) finished succeeds apart planned stage,
        content?_of_writer (led second) ended also apart planned stage]
    · have elsewhere : ∀ job ∈ jobs, ∀ content,
          job.stageAtEnd optimize traced mode tree = .written content →
          tree.placeOf job.destination ≠ place :=
        fun job planned content stage there => writer ⟨job, planned, content, stage, there⟩
      rw [content?_of_no_writer (led first) finished succeeds elsewhere,
        content?_of_no_writer (led second) ended also elsewhere]

end Workers

end Unannotate
