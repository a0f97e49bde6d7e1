import Mathlib.Data.List.Infix
import Unannotate.Proofs.Workers.Steps

/-!
# What a job has seen

A job depends on two moments of a run: the one when it looked whether it is to be skipped, before it had done
anything, and the one when it read its source, before it had changed anything. How far it got and what it
counted follows from the trees of these two moments, `exists_moments`.
-/
set_option autoImplicit false

namespace Unannotate

variable {optimize : ClassOptimizer} {traced : Bool} {mode : WriteMode}

/-- How far a job can get that looked at one tree and read in another. -/
def Stage.FollowsFrom (optimize : ClassOptimizer) (traced : Bool) (mode : WriteMode)
    (looked read : FileTree) (job : Job) : Stage → Prop
  | waiting => True
  | cleared => job.isSkipped mode looked = .ok false
  | skipped => job.isSkipped mode looked = .ok true
  | standing => job.isSkipped mode looked = .ok false ∧
      (job.transformed optimize traced mode read).outcome = .ok none
  | making content _ _ | written content => job.isSkipped mode looked = .ok false ∧
      (job.transformed optimize traced mode read).outcome = .ok (some content)
  | unwritten _ => job.isSkipped mode looked = .ok false ∧
      ∃ content, (job.transformed optimize traced mode read).outcome = .ok (some content)
  | refused failure => job.isSkipped mode looked = .error failure ∨
      job.isSkipped mode looked = .ok false ∧
        (job.transformed optimize traced mode read).outcome = .error failure

/-- What a job has counted that got so far. -/
def Stage.counted (optimize : ClassOptimizer) (traced : Bool) (mode : WriteMode) (read : FileTree)
    (job : Job) : Stage → Option Summary
  | waiting | cleared => some {}
  | skipped => some { skipped := 1 }
  | standing | making _ _ _ | written _ | unwritten _ =>
    some (job.transformed optimize traced mode read).journal.summary
  | refused _ => none

/-- A job is where the two trees that it saw have led it. What it counted before it failed is left open. -/
structure Assignment.FollowsFrom (optimize : ClassOptimizer) (traced : Bool) (mode : WriteMode)
    (looked read : FileTree) (assignment : Assignment) : Prop where
  stage : assignment.stage.FollowsFrom optimize traced mode looked read assignment.job
  counted : ∀ summary, assignment.stage.counted optimize traced mode read assignment.job = some summary →
    assignment.summary = summary

theorem Assignment.FollowsFrom.of_transformed {looked read other : FileTree} {assignment : Assignment}
    (follows : assignment.FollowsFrom optimize traced mode looked read)
    (same : assignment.job.transformed optimize traced mode other
      = assignment.job.transformed optimize traced mode read) :
    assignment.FollowsFrom optimize traced mode looked other := by
  obtain ⟨stage, counted⟩ := follows
  constructor
  · unfold Stage.FollowsFrom at stage ⊢
    rwa [same]
  · unfold Stage.counted at counted ⊢
    rwa [same]

theorem Assignment.FollowsFrom.of_isSkipped {looked read other : FileTree} {assignment : Assignment}
    (follows : assignment.FollowsFrom optimize traced mode looked read)
    (same : assignment.job.isSkipped mode other = assignment.job.isSkipped mode looked) :
    assignment.FollowsFrom optimize traced mode other read := by
  obtain ⟨stage, counted⟩ := follows
  constructor
  · unfold Stage.FollowsFrom at stage ⊢
    rwa [same]
  · exact counted

namespace Workers

variable {tree : FileTree} {jobs : List Job}

/-- Each job has seen two moments of the run that explain it: it looked before it had done anything, and
read before it had changed anything. -/
theorem exists_moments {schedule : List Nat} {position : Nat} {assignment : Assignment}
    (assigned : ((start tree jobs).follow optimize traced mode schedule).assignments[position]?
      = some assignment) :
    ∃ looked read, looked <+: schedule ∧ read <+: schedule ∧
      ((start tree jobs).follow optimize traced mode looked).assignments[position]?
        = some { job := assignment.job } ∧
      (∃ before, ((start tree jobs).follow optimize traced mode read).assignments[position]?
        = some before ∧ before.stage.isAhead) ∧
      assignment.FollowsFrom optimize traced mode
        ((start tree jobs).follow optimize traced mode looked).tree
        ((start tree jobs).follow optimize traced mode read).tree := by
  induction schedule using List.reverseRecOn generalizing assignment with
  | nil =>
    obtain ⟨job, stage, summary⟩ := assignment
    cases eq_of_assigned_start assigned
    exact ⟨[], [], List.nil_prefix, List.nil_prefix, assigned, ⟨_, assigned, rfl⟩,
      ⟨trivial, fun _ counts => Option.some.inj counts⟩⟩
  | append_singleton earlier last ih =>
    have still : earlier <+: earlier ++ [last] := List.prefix_append earlier [last]
    rw [follow_concat] at assigned
    rcases assigned_step assigned with held | ⟨before, next, rfl, held, -, advance⟩
    · obtain ⟨looked, read, one, two, rest⟩ := ih held
      exact ⟨looked, read, one.trans still, two.trans still, rest⟩
    obtain ⟨looked, read, one, two, waits, ahead, follows, counts⟩ := ih held
    -- A job that still waits has not counted anything: it looks and reads at this moment.
    have fresh (waiting : before.stage = .waiting) :
        ((start tree jobs).follow optimize traced mode earlier).assignments[position]?
          = some { job := before.job } := by
      obtain ⟨job, stage, summary⟩ := before
      cases waiting
      cases counts {} rfl
      exact held
    cases advance with
    | rests => exact ⟨looked, read, one.trans still, two.trans still, waits, ahead, follows, counts⟩
    | cannotLook waiting fails =>
      exact ⟨earlier, earlier, still, still, fresh waiting, ⟨before, held, by rw [waiting]; rfl⟩,
        .inl fails, fun _ counted => nomatch counted⟩
    | skips waiting upToDate =>
      exact ⟨earlier, earlier, still, still, fresh waiting, ⟨before, held, by rw [waiting]; rfl⟩,
        upToDate, fun _ counted => Option.some.inj counted⟩
    | clears waiting outdated =>
      refine ⟨earlier, earlier, still, still, fresh waiting, ⟨before, held, by rw [waiting]; rfl⟩,
        outdated, fun _ counted => ?_⟩
      rw [waiting] at counts
      exact (counts {} rfl).trans (Option.some.inj counted)
    | reads cleared =>
      rw [cleared] at follows
      refine ⟨looked, earlier, one.trans still, still, waits, ⟨before, held, by rw [cleared]; rfl⟩, ?_⟩
      cases found : (before.job.transformed optimize traced mode
          ((start tree jobs).follow optimize traced mode earlier).tree).outcome with
      | error failure => exact ⟨.inr ⟨follows, found⟩, fun _ counted => nomatch counted⟩
      | ok output =>
        cases output with
        | none => exact ⟨⟨follows, found⟩, fun _ counted => Option.some.inj counted⟩
        | some content => exact ⟨⟨follows, found⟩, fun _ counted => Option.some.inj counted⟩
    | makes under | writes under =>
      rw [under] at follows counts
      exact ⟨looked, read, one.trans still, two.trans still, waits, ahead, follows, counts⟩
    | cannotMake under | cannotWrite under =>
      rw [under] at follows counts
      exact ⟨looked, read, one.trans still, two.trans still, waits, ahead, ⟨follows.1, _, follows.2⟩,
        counts⟩

end Workers

end Unannotate
