import Unannotate.Proofs.ArchivePurge.Followed
import Unannotate.Proofs.Workers.Steps

/-!
# Jobs one after another

Jobs that are carried out one after another up to the first failure follow one of the schedules: each job has
all its steps before the next one has its first, `exists_schedule_processAll`. So what holds of every
schedule holds of them.
-/
set_option autoImplicit false

namespace Unannotate

variable {optimize : ClassOptimizer} {traced : Bool} {mode : WriteMode}

/-! ## One job -/

namespace Job

section Output

variable {tree : FileTree} {job : Job}

theorem output_of_error {failure : Failure} (fails : job.isSkipped mode tree = .error failure) :
    job.output optimize traced mode tree = ⟨.empty, .error failure⟩ := by
  unfold output
  rw [fails]
  exact Work.bind_of_error rfl _

theorem output_of_skipped (optimize : ClassOptimizer) (traced : Bool)
    (upToDate : job.isSkipped mode tree = .ok true) :
    (job.output optimize traced mode tree).outcome = .ok none ∧
      (job.output optimize traced mode tree).journal.summary = { skipped := 1 } := by
  unfold output
  rw [upToDate]
  exact ⟨rfl, rfl⟩

theorem output_of_outdated (outdated : job.isSkipped mode tree = .ok false) :
    job.output optimize traced mode tree = job.transformed optimize traced mode tree := by
  unfold output
  rw [outdated]
  exact Work.bind_pure false _

/-- The tree after a job, how it ended, and what it counted. -/
theorem process_eq (optimize : ClassOptimizer) (traced : Bool) (mode : WriteMode) (tree : FileTree)
    (job : Job) :
    let work := job.output optimize traced mode tree
    let process := job.process optimize traced mode tree
    (process.1, process.2.outcome)
        = (match work.outcome with
          | .ok bytes => job.finish tree bytes
          | .error failure => (tree, .error failure)) ∧
      process.2.journal.summary = work.journal.summary := by
  intro work process
  exact ⟨Prod.ext rfl (Work.outcome_inSpan ..), Work.summary_inSpan ..⟩

end Output

end Job

/-- A job that has ended as some work has. -/
structure Assignment.EndsAs (assignment : Assignment) (work : Work Unit) : Prop where
  settled : assignment.stage.isOver
  failure : ∀ failure, assignment.stage.failure? = some failure ↔ work.outcome = .error failure
  summary : assignment.summary = work.journal.summary

namespace Assignment

/-- Where the next steps of a job lead when no step of another job comes between them. -/
inductive Proceeds (optimize : ClassOptimizer) (traced : Bool) (mode : WriteMode) :
    FileTree → Assignment → FileTree → Assignment → Prop
  | stays (tree : FileTree) (assignment : Assignment) :
      Proceeds optimize traced mode tree assignment tree assignment
  | goes {tree next last : FileTree} {before after final : Assignment}
      (first : before.advance optimize traced mode tree = (next, after))
      (rest : Proceeds optimize traced mode next after last final) :
      Proceeds optimize traced mode tree before last final

/-- The directories are made and the destination is written, up to the first of these steps that fails. -/
theorem proceeds_making (optimize : ClassOptimizer) (traced : Bool) (mode : WriteMode) (tree : FileTree)
    (job : Job) (content : Bytes) (place : Place) (ahead : List String) (summary : Summary) :
    let result : FileTree × Except Failure Unit := match tree.makeDirectories place ahead with
      | (tree, false) => (tree, .error ⟨[.creating job.destination.parent.text], .io⟩)
      | (tree, true) =>
        match tree.put? job.destination content with
        | none => (tree, .error ⟨[.writing job.destination.text], .io⟩)
        | some tree => (tree, .ok ())
    ∃ stage, Proceeds optimize traced mode tree ⟨job, .making content place ahead, summary⟩ result.1
        ⟨job, stage, summary⟩ ∧
      stage.isOver ∧ ∀ failure, stage.failure? = some failure ↔ result.2 = .error failure := by
  induction ahead generalizing tree place with
  | nil =>
    simp only [FileTree.makeDirectories]
    cases put : tree.put? job.destination content with
    | none =>
      refine ⟨.unwritten ⟨[.writing job.destination.text], .io⟩, ?_, rfl, by simp [Stage.failure?]⟩
      exact .goes (by simp only [advance, put]) (.stays tree _)
    | some next =>
      refine ⟨.written content, ?_, rfl, by simp [Stage.failure?]⟩
      exact .goes (by simp only [advance, put]) (.stays next _)
  | cons piece ahead ih =>
    simp only [FileTree.makeDirectories]
    cases made : tree.makeDirectory? (FileTree.step place piece) with
    | none =>
      refine ⟨.unwritten ⟨[.creating job.destination.parent.text], .io⟩, ?_, rfl, by simp [Stage.failure?]⟩
      exact .goes (by simp only [advance, made]) (.stays tree _)
    | some next =>
      obtain ⟨stage, proceeds, ends⟩ := ih next (FileTree.step place piece)
      exact ⟨stage, .goes (by simp only [advance, made]) proceeds, ends⟩

theorem proceeds_write (optimize : ClassOptimizer) (traced : Bool) (mode : WriteMode) (tree : FileTree)
    (job : Job) (content : Bytes) (summary : Summary) :
    ∃ stage, Proceeds optimize traced mode tree
        ⟨job, .making content (tree.startOf job.destination) job.destination.parentSteps, summary⟩
        (tree.write job.destination content).1 ⟨job, stage, summary⟩ ∧
      stage.isOver ∧
      ∀ failure, stage.failure? = some failure ↔ (tree.write job.destination content).2 = .error failure := by
  have making := proceeds_making optimize traced mode tree job content (tree.startOf job.destination)
    job.destination.parentSteps summary
  unfold FileTree.write
  rcases made : tree.makeDirectories (tree.startOf job.destination) job.destination.parentSteps with
    ⟨left, whole⟩
  rw [made] at making
  cases whole with
  | false => exact making
  | true =>
    cases put : left.put? job.destination content with
    | none =>
      simp only [put] at making ⊢
      exact making
    | some next =>
      simp only [put] at making ⊢
      exact making

/-- A job that is not up to date is read and purged, and what it gives is written. -/
theorem proceeds_cleared (optimize : ClassOptimizer) (traced : Bool) (mode : WriteMode) (tree : FileTree)
    (job : Job) :
    let work := job.transformed optimize traced mode tree
    let result : FileTree × Except Failure Unit := match work.outcome with
      | .ok bytes => job.finish tree bytes
      | .error failure => (tree, .error failure)
    ∃ stage, Proceeds optimize traced mode tree ⟨job, .cleared, {}⟩ result.1
        ⟨job, stage, work.journal.summary⟩ ∧
      stage.isOver ∧ ∀ failure, stage.failure? = some failure ↔ result.2 = .error failure := by
  intro work
  have read : (⟨job, .cleared, {}⟩ : Assignment).advance optimize traced mode tree
      = (tree, ⟨job, stageAfter tree job work.outcome, work.journal.summary⟩) := rfl
  cases found : work.outcome with
  | error failure =>
    rw [found] at read
    exact ⟨.refused failure, .goes read (.stays tree _), rfl, by simp [Stage.failure?]⟩
  | ok output =>
    rw [found] at read
    cases output with
    | none => exact ⟨.standing, .goes read (.stays tree _), rfl, by simp [Stage.failure?, Job.finish]⟩
    | some content =>
      obtain ⟨stage, proceeds, ends⟩ := proceeds_write optimize traced mode tree job content
        work.journal.summary
      simp only [Job.finish]
      exact ⟨stage, .goes read proceeds, ends⟩

/-- A job that is left to itself ends as it does when jobs are carried out one after another. -/
theorem proceeds_process (optimize : ClassOptimizer) (traced : Bool) (mode : WriteMode) (tree : FileTree)
    (job : Job) :
    ∃ after, Proceeds optimize traced mode tree { job }
        (job.process optimize traced mode tree).1 after ∧
      after.EndsAs (job.process optimize traced mode tree).2 := by
  obtain ⟨ends, counts⟩ := Job.process_eq optimize traced mode tree job
  obtain ⟨left, outcome⟩ := Prod.mk.inj ends
  rw [left]
  cases looked : job.isSkipped mode tree with
  | error failure =>
    rw [Job.output_of_error looked] at outcome counts ⊢
    refine ⟨⟨job, .refused failure, {}⟩, .goes (by simp only [advance, looked]) (.stays tree _), ?_⟩
    exact ⟨rfl, by simp [Stage.failure?, outcome], counts.symm⟩
  | ok skipped =>
    cases skipped with
    | true =>
      obtain ⟨nothing, one⟩ := Job.output_of_skipped optimize traced looked
      rw [nothing] at outcome ⊢
      refine ⟨⟨job, .skipped, { skipped := 1 }⟩,
        .goes (by simp only [advance, looked]) (.stays tree _), rfl, ?_, (counts.trans one).symm⟩
      simp [Stage.failure?, outcome, Job.finish]
    | false =>
      rw [Job.output_of_outdated looked] at outcome counts ⊢
      obtain ⟨stage, proceeds, settled, failures⟩ := proceeds_cleared optimize traced mode tree job
      refine ⟨_, .goes (by simp only [advance, looked]) proceeds, settled, ?_, counts.symm⟩
      rw [outcome]
      exact failures

end Assignment

/-! ## All jobs -/

namespace Workers

theorem step_of_advance {tree next : FileTree} {assignments : List Assignment} {position : Nat}
    {before after : Assignment} (assigned : assignments[position]? = some before)
    (first : before.advance optimize traced mode tree = (next, after)) :
    step optimize traced mode ⟨tree, assignments⟩ position
      = ⟨next, assignments.set position after⟩ := by
  simp only [step, assigned, first]

/-- Steps of one job are a schedule that names its position again and again. -/
theorem exists_schedule_of_proceeds {assignments : List Assignment} {position : Nat}
    {tree last : FileTree} {before final : Assignment}
    (proceeds : Assignment.Proceeds optimize traced mode tree before last final)
    (assigned : assignments[position]? = some before) :
    ∃ schedule, follow optimize traced mode ⟨tree, assignments⟩ schedule
      = ⟨last, assignments.set position final⟩ := by
  induction proceeds generalizing assignments with
  | stays tree assignment =>
    refine ⟨[], ?_⟩
    obtain ⟨within, here⟩ := List.getElem?_eq_some_iff.mp assigned
    rw [← here, List.set_getElem_self within]
    rfl
  | @goes tree next last before after final first rest ih =>
    have stepped := step_of_advance assigned first
    have there : (assignments.set position after)[position]? = some after := by
      simp [(List.getElem?_eq_some_iff.mp assigned).1]
    obtain ⟨schedule, done⟩ := ih there
    refine ⟨position :: schedule, ?_⟩
    change (step optimize traced mode ⟨tree, assignments⟩ position).follow optimize traced mode schedule = _
    rw [stepped, done, List.set_set]

/-- What jobs have come to that were carried out one after another: they are over, or wait behind one that has
failed. -/
structure EndAs (assignments : List Assignment) (work : Work Unit) : Prop where
  ended : ∀ assignment ∈ assignments, assignment.stage.isOver ∨
    assignment.stage = .waiting ∧ ∃ failed ∈ assignments, failed.stage.failure?.isSome
  failure : ∀ failure, work.outcome = .error failure →
    ∃ assignment ∈ assignments, assignment.stage.failure? = some failure
  sound : work.outcome = .ok () → ∀ assignment ∈ assignments, assignment.stage.failure? = none
  summary : (assignments.map (·.summary)).foldr (· ++ ·) {} = work.journal.summary

theorem endAs_of_failure {first : Assignment} {work : Work Unit} (rest : List Job) (ends : first.EndsAs work)
    {failure : Failure} (fails : work.outcome = .error failure) :
    EndAs (first :: rest.map fun job => { job }) work := by
  have failed : first.stage.failure? = some failure := (ends.failure failure).mpr fails
  have uncounted : ((rest.map fun job => ({ job } : Assignment)).map (·.summary)).foldr (· ++ ·) {}
      = Summary.empty := by
    induction rest with
    | nil => rfl
    | cons job rest ih =>
      simp only [List.map_cons, List.foldr_cons]
      rw [ih]
      rfl
  constructor
  · intro assignment member
    rcases List.mem_cons.mp member with rfl | later
    · exact .inl ends.settled
    · obtain ⟨job, -, rfl⟩ := List.mem_map.mp later
      exact .inr ⟨rfl, first, List.mem_cons_self, by simp [failed]⟩
  · intro other same
    rw [fails] at same
    cases same
    exact ⟨first, List.mem_cons_self, failed⟩
  · intro succeeds
    rw [fails] at succeeds
    cases succeeds
  · rw [List.map_cons, List.foldr_cons, uncounted, Summary.append_empty, ends.summary]

theorem EndAs.cons {first : Assignment} {rest : List Assignment} {work others : Work Unit}
    (ends : first.EndsAs work) (succeeds : work.outcome = .ok ()) (later : EndAs rest others) :
    EndAs (first :: rest) (do work; others) := by
  have outcome : (do work; others : Work Unit).outcome = others.outcome := Work.outcome_then succeeds _
  have sound : first.stage.failure? = none := by
    rw [Option.eq_none_iff_forall_ne_some]
    intro failure failed
    have fails := (ends.failure failure).mp failed
    rw [succeeds] at fails
    cases fails
  constructor
  · intro assignment member
    rcases List.mem_cons.mp member with rfl | behind
    · exact .inl ends.settled
    · rcases later.ended assignment behind with settled | ⟨waits, failed, there, fails⟩
      · exact .inl settled
      · exact .inr ⟨waits, failed, List.mem_cons_of_mem _ there, fails⟩
  · intro failure fails
    obtain ⟨assignment, member, failed⟩ := later.failure failure (outcome ▸ fails)
    exact ⟨assignment, List.mem_cons_of_mem _ member, failed⟩
  · intro ends assignment member
    rcases List.mem_cons.mp member with rfl | behind
    · exact sound
    · exact later.sound (outcome ▸ ends) assignment behind
  · rw [List.map_cons, List.foldr_cons, later.summary, ends.summary, Work.summary_bind succeeds]

/-- Behind jobs that are over, the others can be carried out one after another. -/
theorem exists_schedule_behind (optimize : ClassOptimizer) (traced : Bool) (mode : WriteMode)
    (done : List Assignment) (tree : FileTree) (jobs : List Job) :
    ∃ schedule ended,
      follow optimize traced mode ⟨tree, done ++ jobs.map fun job => ({ job } : Assignment)⟩ schedule
        = ⟨(Job.processAll optimize traced mode tree jobs).1, done ++ ended⟩ ∧
      EndAs ended (Job.processAll optimize traced mode tree jobs).2 := by
  induction jobs generalizing done tree with
  | nil =>
    refine ⟨[], [], rfl, ?_⟩
    constructor
    · simp
    · simp [Job.processAll]
    · simp
    · rfl
  | cons job rest ih =>
    obtain ⟨after, proceeds, ends⟩ := Assignment.proceeds_process optimize traced mode tree job
    have assigned : (done ++ (job :: rest).map fun job => ({ job } : Assignment))[done.length]?
        = some { job } := by simp
    obtain ⟨first, once⟩ := exists_schedule_of_proceeds proceeds assigned
    have set : (done ++ (job :: rest).map fun job => ({ job } : Assignment)).set done.length after
        = done ++ after :: rest.map fun job => { job } := by simp
    rw [set] at once
    cases outcome : (job.process optimize traced mode tree).2.outcome with
    | error failure =>
      refine ⟨first, after :: rest.map fun job => { job }, ?_, ?_⟩
      · simp only [Job.processAll, outcome, once]
      · simp only [Job.processAll, outcome]
        exact endAs_of_failure rest ends outcome
    | ok _ =>
      obtain ⟨schedule, ended, run, later⟩ := ih (done ++ [after])
        (job.process optimize traced mode tree).1
      refine ⟨first ++ schedule, after :: ended, ?_, ?_⟩
      · rw [follow_append, once]
        simp only [Job.processAll, outcome]
        simpa using run
      · simp only [Job.processAll, outcome]
        exact .cons ends outcome later

/-- Jobs that are carried out one after another follow a schedule to its end: they leave the same tree, fail
as one of the jobs has, and count the same. -/
theorem exists_schedule_processAll (optimize : ClassOptimizer) (traced : Bool) (mode : WriteMode)
    (tree : FileTree) (jobs : List Job) :
    ∃ schedule,
      let workers := (start tree jobs).follow optimize traced mode schedule
      let result := Job.processAll optimize traced mode tree jobs
      workers.Finished ∧ workers.tree = result.1 ∧
        workers.summary = result.2.journal.summary ∧ (workers.Fails ↔ result.2.outcome ≠ .ok ()) ∧
        ∀ failure, result.2.outcome = .error failure →
          ∃ assignment ∈ workers.assignments, assignment.stage.failure? = some failure := by
  obtain ⟨schedule, ended, run, ends⟩ := exists_schedule_behind optimize traced mode [] tree jobs
  refine ⟨schedule, ?_⟩
  have final : (start tree jobs).follow optimize traced mode schedule
      = ⟨(Job.processAll optimize traced mode tree jobs).1, ended⟩ := run
  rw [final]
  refine ⟨ends.ended, rfl, ends.summary, ?_, ends.failure⟩
  constructor
  · rintro ⟨assignment, member, failed⟩ succeeds
    rw [ends.sound succeeds assignment member] at failed
    cases failed
  · intro fails
    cases outcome : (Job.processAll optimize traced mode tree jobs).2.outcome with
    | ok done => exact absurd outcome fails
    | error failure =>
      obtain ⟨assignment, member, failed⟩ := ends.failure failure outcome
      exact ⟨assignment, member, by simp [failed]⟩

end Workers

end Unannotate
