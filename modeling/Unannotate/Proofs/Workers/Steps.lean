import Mathlib.Data.List.Basic
import Unannotate.Proofs.Files.Places
import Unannotate.Workers

/-!
# The steps of workers

What one step of a job can do is said once, by the cases of `Advances`: it looks, reads, makes a directory or
writes, and a job that is over stays as it is. A step of the workers is such a step of one job and leaves the
other jobs alone. Along a schedule the tree only grows, and jobs keep their positions.
-/
set_option autoImplicit false

namespace Unannotate

variable {optimize : ClassOptimizer} {traced : Bool} {mode : WriteMode}

namespace Stage

/-- Whether a job has begun to write. -/
def hasBegun : Stage → Bool
  | making _ _ _ | written _ | unwritten _ => true
  | _ => false

theorem isAhead_eq_false_of_hasBegun {stage : Stage} (begun : stage.hasBegun) : stage.isAhead = false := by
  cases stage with
  | making | written | unwritten => rfl
  | waiting | cleared | skipped | standing | refused => cases begun

end Stage

namespace Assignment

/-- What a step of a job does to a tree and to the job. -/
inductive Advances (optimize : ClassOptimizer) (traced : Bool) (mode : WriteMode) (tree : FileTree)
    (before : Assignment) : FileTree → Assignment → Prop
  | rests (settled : before.stage.isOver) : Advances optimize traced mode tree before tree before
  | cannotLook {failure : Failure} (waits : before.stage = .waiting)
      (fails : before.job.isSkipped mode tree = .error failure) :
      Advances optimize traced mode tree before tree { before with stage := .refused failure }
  | skips (waits : before.stage = .waiting) (upToDate : before.job.isSkipped mode tree = .ok true) :
      Advances optimize traced mode tree before tree
        { before with stage := .skipped, summary := { skipped := 1 } }
  | clears (waits : before.stage = .waiting) (outdated : before.job.isSkipped mode tree = .ok false) :
      Advances optimize traced mode tree before tree { before with stage := .cleared }
  | reads (cleared : before.stage = .cleared) :
      Advances optimize traced mode tree before tree
        { before with
          stage := stageAfter tree before.job
            (before.job.transformed optimize traced mode tree).outcome
          summary := (before.job.transformed optimize traced mode tree).journal.summary }
  | makes {content : Bytes} {place : Place} {piece : String} {ahead : List String} {next : FileTree}
      (under : before.stage = .making content place (piece :: ahead))
      (made : tree.makeDirectory? (FileTree.step place piece) = some next) :
      Advances optimize traced mode tree before next
        { before with stage := .making content (FileTree.step place piece) ahead }
  | cannotMake {content : Bytes} {place : Place} {piece : String} {ahead : List String}
      (under : before.stage = .making content place (piece :: ahead))
      (inTheWay : tree.makeDirectory? (FileTree.step place piece) = none) :
      Advances optimize traced mode tree before tree
        { before with stage := .unwritten ⟨[.creating before.job.destination.parent.text], .io⟩ }
  | writes {content : Bytes} {place : Place} {next : FileTree}
      (under : before.stage = .making content place [])
      (put : tree.put? before.job.destination content = some next) :
      Advances optimize traced mode tree before next { before with stage := .written content }
  | cannotWrite {content : Bytes} {place : Place} (under : before.stage = .making content place [])
      (fails : tree.put? before.job.destination content = none) :
      Advances optimize traced mode tree before tree
        { before with stage := .unwritten ⟨[.writing before.job.destination.text], .io⟩ }

theorem advances (optimize : ClassOptimizer) (traced : Bool) (mode : WriteMode) (tree : FileTree)
    (before : Assignment) :
    Advances optimize traced mode tree before (before.advance optimize traced mode tree).1
      (before.advance optimize traced mode tree).2 := by
  obtain ⟨job, stage, summary⟩ := before
  cases stage with
  | waiting =>
    cases looked : job.isSkipped mode tree with
    | error failure =>
      simp only [advance, looked]
      exact .cannotLook rfl looked
    | ok upToDate =>
      cases upToDate with
      | true =>
        simp only [advance, looked]
        exact .skips rfl looked
      | false =>
        simp only [advance, looked]
        exact .clears rfl looked
  | cleared => exact .reads rfl
  | making content place ahead =>
    cases ahead with
    | nil =>
      cases put : tree.put? job.destination content with
      | none =>
        simp only [advance, put]
        exact .cannotWrite rfl put
      | some next =>
        simp only [advance, put]
        exact .writes rfl put
    | cons piece ahead =>
      cases made : tree.makeDirectory? (FileTree.step place piece) with
      | none =>
        simp only [advance, made]
        exact .cannotMake rfl made
      | some next =>
        simp only [advance, made]
        exact .makes rfl made
  | skipped | standing | written _ | refused _ | unwritten _ => exact .rests rfl

section Effects

variable {tree next : FileTree} {before after : Assignment}

theorem Advances.job_eq (step : Advances optimize traced mode tree before next after) :
    after.job = before.job := by
  cases step <;> rfl

theorem Advances.eq_of_isOver (step : Advances optimize traced mode tree before next after)
    (settled : before.stage.isOver) : next = tree ∧ after = before := by
  cases step with
  | rests => exact ⟨rfl, rfl⟩
  | cannotLook stage | skips stage | clears stage | reads stage | makes stage | cannotMake stage
  | writes stage | cannotWrite stage =>
    rw [stage] at settled
    cases settled

theorem Advances.hasBegun (step : Advances optimize traced mode tree before next after)
    (begun : before.stage.hasBegun) : after.stage.hasBegun := by
  cases step with
  | rests => exact begun
  | cannotLook stage | skips stage | clears stage | reads stage =>
    rw [stage] at begun
    cases begun
  | makes | cannotMake | writes | cannotWrite => rfl

theorem Advances.grows (step : Advances optimize traced mode tree before next after) :
    FileTree.Grows tree next := by
  cases step with
  | makes _ made => exact FileTree.grows_makeDirectory? made
  | writes _ put => exact FileTree.grows_put? put
  | rests | cannotLook | skips | clears | reads | cannotMake | cannotWrite => exact .refl _

end Effects

end Assignment

namespace Workers

/-- A step of the workers is a step of one of the jobs. -/
theorem step_cases (optimize : ClassOptimizer) (traced : Bool) (mode : WriteMode) (workers : Workers)
    (position : Nat) :
    workers.step optimize traced mode position = workers ∨
      ∃ before after next, workers.assignments[position]? = some before ∧
        before.Advances optimize traced mode workers.tree next after ∧
        workers.step optimize traced mode position = ⟨next, workers.assignments.set position after⟩ := by
  unfold step
  cases assigned : workers.assignments[position]? with
  | none => exact .inl rfl
  | some before => exact .inr ⟨before, _, _, rfl, before.advances .., rfl⟩

theorem follow_append (workers : Workers) (schedule more : List Nat) :
    workers.follow optimize traced mode (schedule ++ more) =
      (workers.follow optimize traced mode schedule).follow optimize traced mode more :=
  List.foldl_append

theorem follow_concat (workers : Workers) (schedule : List Nat) (position : Nat) :
    workers.follow optimize traced mode (schedule ++ [position]) =
      (workers.follow optimize traced mode schedule).step optimize traced mode position :=
  follow_append workers schedule [position]

/-- What every step preserves holds at the end of every schedule. -/
theorem follow_preserves (property : Workers → Prop) {workers : Workers}
    (preserved : ∀ workers position, property workers →
      property (workers.step optimize traced mode position))
    (holds : property workers) (schedule : List Nat) :
    property (workers.follow optimize traced mode schedule) := by
  induction schedule generalizing workers with
  | nil => exact holds
  | cons position rest ih => exact ih (preserved workers position holds)

theorem grows_step (workers : Workers) (position : Nat) :
    FileTree.Grows workers.tree (workers.step optimize traced mode position).tree := by
  rcases workers.step_cases optimize traced mode position with
    same | ⟨before, after, next, -, advance, result⟩
  · rw [same]
    exact .refl _
  · rw [result]
    exact advance.grows

/-- Along a schedule the tree only grows. -/
theorem grows_follow (workers : Workers) (schedule : List Nat) :
    FileTree.Grows workers.tree (workers.follow optimize traced mode schedule).tree :=
  follow_preserves (fun later => FileTree.Grows workers.tree later.tree)
    (fun later position grows => grows.trans (later.grows_step position)) (.refl _) schedule

/-! ## The jobs of workers -/

theorem eq_of_assigned_start {tree : FileTree} {jobs : List Job} {position : Nat} {assignment : Assignment}
    (assigned : (start tree jobs).assignments[position]? = some assignment) :
    assignment = { job := assignment.job } := by
  have planned : (jobs.map fun job => ({ job } : Assignment))[position]? = some assignment := assigned
  rw [List.getElem?_map] at planned
  obtain ⟨job, -, rfl⟩ := Option.map_eq_some_iff.mp planned
  rfl

/-- After a step a position holds what it held, or what that step has made of it. -/
theorem assigned_step {workers : Workers} {position other : Nat} {after : Assignment}
    (assigned : (workers.step optimize traced mode position).assignments[other]? = some after) :
    workers.assignments[other]? = some after ∨
      ∃ before next, other = position ∧ workers.assignments[position]? = some before ∧
        (workers.step optimize traced mode position).tree = next ∧
        before.Advances optimize traced mode workers.tree next after := by
  rcases workers.step_cases optimize traced mode position with
    same | ⟨before, made, next, held, advance, result⟩
  · rw [same] at assigned
    exact .inl assigned
  · rw [result] at assigned ⊢
    rw [List.getElem?_set] at assigned
    split at assigned
    next here =>
      subst here
      rw [if_pos (List.getElem?_eq_some_iff.mp held).1] at assigned
      cases assigned
      exact .inr ⟨before, next, rfl, held, rfl, advance⟩
    next => exact .inl assigned

/-- What a position holds before a step, it holds after it, or the step has carried it on. -/
theorem exists_assigned_step {workers : Workers} {other : Nat} {before : Assignment} (position : Nat)
    (assigned : workers.assignments[other]? = some before) :
    ∃ after next, (workers.step optimize traced mode position).assignments[other]? = some after ∧
      (workers.step optimize traced mode position).tree = next ∧
      (after = before ∨ before.Advances optimize traced mode workers.tree next after) := by
  rcases workers.step_cases optimize traced mode position with
    same | ⟨held, made, next, there, advance, result⟩
  · rw [same]
    exact ⟨before, _, assigned, rfl, .inl rfl⟩
  · rw [result]
    by_cases here : position = other
    · subst here
      rw [assigned] at there
      cases there
      exact ⟨made, next, by simp [(List.getElem?_eq_some_iff.mp assigned).1], rfl, .inr advance⟩
    · exact ⟨before, next, by rw [List.getElem?_set_ne here, assigned], rfl, .inl rfl⟩

theorem map_job_step (workers : Workers) (position : Nat) :
    (workers.step optimize traced mode position).assignments.map (·.job)
      = workers.assignments.map (·.job) := by
  rcases workers.step_cases optimize traced mode position with
    same | ⟨before, after, next, held, advance, result⟩
  · rw [same]
  · rw [result, List.map_set, advance.job_eq]
    apply List.ext_getElem?
    intro other
    rw [List.getElem?_set]
    split
    next here =>
      subst here
      rw [List.length_map, if_pos (List.getElem?_eq_some_iff.mp held).1, List.getElem?_map, held]
      rfl
    next => rfl

/-- Jobs keep their positions. -/
theorem map_job_follow (optimize : ClassOptimizer) (traced : Bool) (mode : WriteMode) (tree : FileTree)
    (jobs : List Job) (schedule : List Nat) :
    ((start tree jobs).follow optimize traced mode schedule).assignments.map (·.job) = jobs :=
  follow_preserves (fun workers => workers.assignments.map (·.job) = jobs)
    (fun workers position same => (workers.map_job_step position).trans same)
    (by simp [start, Function.comp_def]) schedule

section Follow

variable {tree : FileTree} {jobs : List Job} {schedule : List Nat}

theorem job_of_assigned {position : Nat} {assignment : Assignment}
    (assigned : ((start tree jobs).follow optimize traced mode schedule).assignments[position]?
      = some assignment) : jobs[position]? = some assignment.job := by
  conv_lhs => rw [← map_job_follow optimize traced mode tree jobs schedule]
  rw [List.getElem?_map, assigned]
  rfl

theorem exists_assigned {position : Nat} {job : Job} (planned : jobs[position]? = some job) :
    ∃ assignment,
      ((start tree jobs).follow optimize traced mode schedule).assignments[position]? = some assignment ∧
        assignment.job = job := by
  rw [← map_job_follow optimize traced mode tree jobs schedule, List.getElem?_map] at planned
  obtain ⟨assignment, assigned, same⟩ := Option.map_eq_some_iff.mp planned
  exact ⟨assignment, assigned, same⟩

theorem base_follow : ((start tree jobs).follow optimize traced mode schedule).tree.base = tree.base :=
  (grows_follow (start tree jobs) schedule).base

theorem passedBy_follow (path : Path) :
    ((start tree jobs).follow optimize traced mode schedule).tree.passedBy path = tree.passedBy path := by
  rw [FileTree.passedBy, FileTree.startOf_eq_of_base base_follow, FileTree.passedBy]

theorem placeOf_follow (path : Path) :
    ((start tree jobs).follow optimize traced mode schedule).tree.placeOf path = tree.placeOf path :=
  FileTree.placeOf_eq_of_base base_follow path

end Follow

end Workers

end Unannotate
