import Unannotate.Proofs.Workers.Moments

/-!
# What workers change

A step of a job touches one place at most: where nothing was it makes a directory on the way to the job's
destination, or it writes the destination. So at any moment of a run each place has what it had before, or it
was given a directory or a content by a job of which this can be told, `fate`. What a job has written stands
as long as no other job writes there.
-/
set_option autoImplicit false

namespace Unannotate

variable {optimize : ClassOptimizer} {traced : Bool} {mode : WriteMode}

/-- The places above a job's destination, where directories are made. -/
def Job.above (tree : FileTree) (job : Job) : List Place :=
  FileTree.way (tree.startOf job.destination) job.destination.parentSteps

namespace Assignment

section Steps

variable {tree next : FileTree} {before after : Assignment}

/-- A step changes nothing, makes a directory where nothing was, or writes its destination. -/
theorem Advances.touches (step : Advances optimize traced mode tree before next after) (place : Place) :
    next.lookup? place = tree.lookup? place ∨
      (∃ content last piece ahead, before.stage = .making content last (piece :: ahead) ∧
        after.stage.hasBegun ∧ place = FileTree.step last piece ∧ tree.lookup? place = none ∧
        next.lookup? place = some .directory) ∨
      ∃ content, after.stage = .written content ∧ place = tree.placeOf before.job.destination ∧
        tree.lookup? place ≠ some .directory ∧ next.lookup? place = some (.file content tree.clock) := by
  cases step with
  | rests | cannotLook | skips | clears | reads | cannotMake | cannotWrite => exact .inl rfl
  | @makes content last piece ahead next under made =>
    by_cases here : place = FileTree.step last piece
    · subst here
      rcases FileTree.makeDirectory?_eq_some made with ⟨rfl, -⟩ | ⟨absent, -⟩
      · exact .inl rfl
      · exact .inr (.inl ⟨content, last, piece, ahead, under, rfl, rfl, absent,
          FileTree.lookup?_makeDirectory? made⟩)
    · exact .inl (FileTree.lookup?_makeDirectory?_of_ne made here)
  | @writes content last next under put =>
    obtain ⟨-, noDirectory, -, there, elsewhere⟩ := FileTree.put?_eq_some put
    by_cases here : place = tree.placeOf before.job.destination
    · subst here
      exact .inr (.inr ⟨content, rfl, rfl, noDirectory, there⟩)
    · exact .inl (elsewhere place here)

/-- A job that makes directories stands above its destination, and its further steps lead there. -/
def OnWay (tree : FileTree) (assignment : Assignment) : Prop :=
  ∀ content place ahead, assignment.stage = .making content place ahead →
    ∃ behind, assignment.job.destination.parentSteps = behind ++ ahead ∧
      place = behind.foldl FileTree.step (tree.startOf assignment.job.destination)

theorem Advances.onWay {first : FileTree} (base : tree.base = first.base)
    (step : Advances optimize traced mode tree before next after) (onWay : before.OnWay first) :
    after.OnWay first := by
  intro content place ahead under
  cases step with
  | rests => exact onWay content place ahead under
  | cannotLook | skips | clears | cannotMake | writes | cannotWrite => cases under
  | reads cleared =>
    simp only [stageAfter] at under
    split at under
    · cases under
    · cases under
    · cases under
      exact ⟨[], rfl, FileTree.startOf_eq_of_base base _⟩
  | @makes given last piece rest next was made =>
    obtain ⟨behind, split, reached⟩ := onWay given last (piece :: rest) was
    cases under
    exact ⟨behind ++ [piece], by simp [split], by simp [reached]⟩

end Steps

end Assignment

namespace Workers

variable {tree : FileTree} {jobs : List Job} {schedule : List Nat}

theorem onWay_follow {position : Nat} {assignment : Assignment}
    (assigned : ((start tree jobs).follow optimize traced mode schedule).assignments[position]?
      = some assignment) : assignment.OnWay tree := by
  induction schedule using List.reverseRecOn generalizing assignment with
  | nil =>
    intro content place ahead under
    rw [eq_of_assigned_start assigned] at under
    cases under
  | append_singleton earlier last ih =>
    rw [follow_concat] at assigned
    rcases assigned_step assigned with held | ⟨before, next, rfl, held, -, advance⟩
    · exact ih held
    · exact advance.onWay base_follow (ih held)

/-- What has become of a place. -/
inductive Fate (tree : FileTree) (workers : Workers) (place : Place) : Prop
  | kept (same : workers.tree.lookup? place = tree.lookup? place)
  | made {position : Nat} {assignment : Assignment}
      (assigned : workers.assignments[position]? = some assignment)
      (begun : assignment.stage.hasBegun) (above : place ∈ assignment.job.above tree)
      (absent : tree.lookup? place = none) (stands : workers.tree.lookup? place = some .directory)
  | written {position : Nat} {assignment : Assignment} {content : Bytes} {time : Nat}
      (assigned : workers.assignments[position]? = some assignment)
      (stage : assignment.stage = .written content)
      (there : tree.placeOf assignment.job.destination = place)
      (noDirectory : tree.lookup? place ≠ some .directory)
      (stands : workers.tree.lookup? place = some (.file content time))

/-- A step that leaves a place as it is leaves it its fate. -/
theorem Fate.step {workers : Workers} {place : Place} (fate : Fate tree workers place) {position : Nat}
    (same : (workers.step optimize traced mode position).tree.lookup? place
      = workers.tree.lookup? place) :
    Fate tree (workers.step optimize traced mode position) place := by
  cases fate with
  | kept before => exact .kept (same.trans before)
  | made assigned begun above absent stands =>
    obtain ⟨after, next, there, -, rfl | advance⟩ := exists_assigned_step position assigned
    · exact .made there begun above absent (same.trans stands)
    · exact .made there (advance.hasBegun begun) (advance.job_eq ▸ above) absent (same.trans stands)
  | written assigned stage there noDirectory stands =>
    obtain ⟨after, next, held, -, rfl | advance⟩ := exists_assigned_step position assigned
    · exact .written held stage there noDirectory (same.trans stands)
    · obtain ⟨-, rfl⟩ := advance.eq_of_isOver (by rw [stage]; rfl)
      exact .written held stage there noDirectory (same.trans stands)

theorem Fate.absent {workers : Workers} {place : Place} (fate : Fate tree workers place)
    (absent : workers.tree.lookup? place = none) : tree.lookup? place = none := by
  cases fate with
  | kept same => rw [← same, absent]
  | made _ _ _ before _ => exact before
  | written _ _ _ _ stands =>
    rw [absent] at stands
    cases stands

theorem Fate.noDirectory {workers : Workers} {place : Place} (fate : Fate tree workers place)
    (none : workers.tree.lookup? place ≠ some .directory) : tree.lookup? place ≠ some .directory := by
  cases fate with
  | kept same => rwa [← same]
  | made _ _ _ _ stands => exact absurd stands none
  | written _ _ _ before _ => exact before

/-- Along a schedule every place keeps what it has, unless a job makes a directory or writes there. -/
theorem fate (optimize : ClassOptimizer) (traced : Bool) (mode : WriteMode) (tree : FileTree)
    (jobs : List Job) (schedule : List Nat) (place : Place) :
    Fate tree ((start tree jobs).follow optimize traced mode schedule) place := by
  induction schedule using List.reverseRecOn with
  | nil => exact .kept rfl
  | append_singleton earlier last ih =>
    rw [follow_concat]
    rcases step_cases optimize traced mode ((start tree jobs).follow optimize traced mode earlier)
      last with
      same | ⟨before, after, next, held, advance, result⟩
    · rw [same]
      exact ih
    have there : ((start tree jobs).follow optimize traced mode earlier).step optimize traced mode last
        |>.assignments[last]? = some after := by
      rw [result]
      simp [(List.getElem?_eq_some_iff.mp held).1]
    have moved : (((start tree jobs).follow optimize traced mode earlier).step optimize traced mode
        last).tree = next := by
      rw [result]
    rcases advance.touches place with same
      | ⟨content, above, piece, ahead, under, begun, rfl, absent, stands⟩
      | ⟨content, stage, rfl, noDirectory, stands⟩
    · exact ih.step (moved ▸ same)
    · obtain ⟨behind, split, reached⟩ := onWay_follow held content above (piece :: ahead) under
      refine .made there begun ?_ (ih.absent absent) (moved ▸ stands)
      rw [Job.above, advance.job_eq, FileTree.mem_way_iff]
      exact ⟨behind ++ [piece], ahead, by simp [split], by simp [reached]⟩
    · refine .written there stage ?_ (ih.noDirectory noDirectory) (moved ▸ stands)
      rw [advance.job_eq, placeOf_follow]

/-- What a job has written is still there when no other job has the same destination. -/
theorem find?_of_written {position : Nat} {assignment : Assignment} {content : Bytes}
    (alone : ∀ other job, other ≠ position → jobs[other]? = some job →
      tree.placeOf job.destination ≠ tree.placeOf assignment.job.destination)
    (assigned : ((start tree jobs).follow optimize traced mode schedule).assignments[position]?
      = some assignment) (stage : assignment.stage = .written content) :
    ∃ time, ((start tree jobs).follow optimize traced mode schedule).tree.find?
      assignment.job.destination = some (.file content time) := by
  induction schedule using List.reverseRecOn with
  | nil =>
    rw [eq_of_assigned_start assigned] at stage
    cases stage
  | append_singleton earlier last ih =>
    rw [follow_concat] at assigned ⊢
    rcases step_cases optimize traced mode ((start tree jobs).follow optimize traced mode earlier)
      last with
      same | ⟨before, after, next, held, advance, result⟩
    · rw [same] at assigned ⊢
      exact ih assigned
    rw [result] at assigned ⊢
    -- What was written before this step still stands: the step touches another place.
    have stands (was : ((start tree jobs).follow optimize traced mode earlier).assignments[position]?
        = some assignment) (elsewhere : last ≠ position) : ∃ time, next.find?
        assignment.job.destination = some (.file content time) := by
      obtain ⟨time, found⟩ := ih was
      refine ⟨time, advance.grows.find? found ?_⟩
      rcases advance.touches (FileTree.placeOf _ assignment.job.destination) with
        same | ⟨_, _, _, _, _, _, _, absent, _⟩ | ⟨_, _, here, _, _⟩
      · exact same
      · rw [(FileTree.find?_eq_some_iff.mp found).2] at absent
        cases absent
      · rw [placeOf_follow, placeOf_follow] at here
        exact absurd here.symm (alone last before.job elsewhere (job_of_assigned held))
    by_cases here : last = position
    · subst here
      have made : after = assignment := by
        simpa [(List.getElem?_eq_some_iff.mp held).1] using assigned
      subst made
      cases advance with
      | rests => exact ih held
      | cannotLook | skips | clears | makes | cannotMake | cannotWrite => cases stage
      | reads =>
        simp only [Assignment.stageAfter] at stage
        split at stage <;> cases stage
      | writes under put =>
        cases stage
        exact ⟨_, FileTree.find?_of_put? put⟩
    · rw [List.getElem?_set_ne here] at assigned
      exact stands assigned here

end Workers

end Unannotate
