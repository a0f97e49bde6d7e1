import Unannotate.Proofs.Telemetry.SpanMoves
import Unannotate.Proofs.Telemetry.TracedSteps
import Unannotate.Proofs.Workers.Listing

/-!
# What threads leave

Each thread makes the moves of one span, that of its job, with those of what is purged below it; how far it
has got with them goes with how far it has got with the job, `Thread.Leaves`. What has ended is what all
threads have left, `Accounted`. They number their spans with one tracer, so no two spans have one number,
`Numbered`.
-/
set_option autoImplicit false

namespace Unannotate

variable {optimize : ClassOptimizer} {mode : WriteMode}

/-! ## One job -/

namespace Assignment

/-- The spans of what a job has purged by now; which they are is left open when it failed. -/
def spans? (optimize : ClassOptimizer) (mode : WriteMode) (tree : FileTree) (assignment : Assignment) :
    Option (List Span) :=
  match assignment.stage with
  | .waiting | .cleared | .skipped => some []
  | .standing | .making _ _ _ | .written _ | .unwritten _ =>
    some (assignment.job.transformed optimize true mode tree).journal.spans
  | .refused _ => none

/-- The moves that end the span of a job, once the job is over. -/
def closing (assignment : Assignment) : List SpanMove :=
  if assignment.stage.isOver then [.ends] else []

end Assignment

/-- A thread has left these records by now: of the moves of one span, that of its job below the one that was
handed over, it has made those that are not before its next step. -/
def Thread.Leaves (optimize : ClassOptimizer) (mode : WriteMode) (tree : FileTree) (handed : OpenSpan)
    (thread : Thread) (records : List EndedSpan) : Prop :=
  ∃ made spans, Performs [] made thread.stack records ∧
    made ++ thread.moves = .opens thread.assignment.job.spanLabel (some handed)
      :: (Span.allMoves spans ++ thread.assignment.closing) ∧
    ∀ known, thread.assignment.spans? optimize mode tree = some known → spans = known

theorem Span.allMoves_append (spans others : List Span) :
    allMoves (spans ++ others) = allMoves spans ++ allMoves others := by
  induction spans with
  | nil => rfl
  | cons span rest ih => rw [List.cons_append, allMoves, allMoves, ih, List.append_assoc]

section Leaves

variable {tree now next : FileTree} {handed : OpenSpan} {thread : Thread} {records : List EndedSpan}
  {before after : Assignment}

theorem Thread.Leaves.move (leaves : thread.Leaves optimize mode tree handed records) {move : SpanMove}
    {rest : List SpanMove} (pending : thread.moves = move :: rest) (tracer : Tracer) :
    Thread.Leaves optimize mode tree handed
      { thread with stack := (move.perform tracer thread.stack).2, moves := rest }
      (records ++ move.ending thread.stack) := by
  obtain ⟨made, spans, performed, script, known⟩ := leaves
  refine ⟨made ++ [move], spans, performed.concat move tracer, ?_, known⟩
  rw [← script, pending, List.append_assoc]
  rfl

theorem Assignment.purging_eq_nil (now : FileTree) {assignment : Assignment}
    (other : assignment.stage ≠ .cleared) : assignment.purging optimize mode now = [] := by
  unfold purging
  split
  next cleared => exact absurd cleared other
  next => rfl

/-- The moves of a job go on with the moves that come with its next step. -/
theorem Assignment.closing_append_moves (optimize : ClassOptimizer) (mode : WriteMode) (now : FileTree)
    (assignment : Assignment) (spans : List Span) :
    Span.allMoves spans ++ assignment.closing ++ assignment.moves optimize mode now
      = Span.allMoves (spans ++ assignment.purging optimize mode now)
        ++ (assignment.advance optimize true mode now).2.closing := by
  have step := assignment.advances optimize true mode now
  rw [Span.allMoves_append]
  unfold moves closing
  cases ended : assignment.stage.isOver with
  | false => simp
  | true =>
    obtain ⟨-, same⟩ := step.eq_of_isOver ended
    have nothing : assignment.purging optimize mode now = [] := by
      refine purging_eq_nil now fun cleared => ?_
      rw [cleared] at ended
      cases ended
    rw [same, ended, nothing]
    simp [Span.allMoves]

/-- What a job has purged after a step is what it had purged before, or what it purges with it. -/
theorem Assignment.Advances.spans? (step : before.Advances optimize true mode now next after)
    (source : before.stage = .cleared → now.read? before.job.source = tree.read? before.job.source)
    {spans known : List Span}
    (was : ∀ known, before.spans? optimize mode tree = some known → spans = known)
    (leads : after.spans? optimize mode tree = some known) :
    spans ++ before.purging optimize mode now = known := by
  have still (other : before.stage ≠ .cleared) (same : before.spans? optimize mode tree = some known) :
      spans ++ before.purging optimize mode now = known := by
    rw [purging_eq_nil now other, List.append_nil, was known same]
  obtain ⟨job, stage, summary⟩ := before
  cases step with
  | rests settled =>
    refine still ?_ leads
    rintro rfl
    cases settled
  | cannotLook => cases leads
  | skips waits | clears waits =>
    cases waits
    exact still (by simp) leads
  | reads cleared =>
    cases cleared
    rw [was [] rfl, List.nil_append]
    have same : job.transformed optimize true mode now = job.transformed optimize true mode tree :=
      Job.transformed_eq_of_read? (source rfl)
    simp only [Assignment.spans?, stageAfter] at leads
    simp only [purging, same]
    cases output : (job.transformed optimize true mode now).outcome with
    | error failure =>
      rw [output] at leads
      cases leads
    | ok content =>
      rw [output] at leads
      cases content <;> exact Option.some.inj leads
  | makes under | cannotMake under | writes under | cannotWrite under =>
    cases under
    exact still (by simp) leads

theorem Thread.Leaves.advance (leaves : thread.Leaves optimize mode tree handed records)
    (idle : thread.moves = [])
    (source : thread.assignment.stage = .cleared →
      now.read? thread.assignment.job.source = tree.read? thread.assignment.job.source) :
    Thread.Leaves optimize mode tree handed
      { thread with
        assignment := (thread.assignment.advance optimize true mode now).2
        moves := thread.assignment.moves optimize mode now } records := by
  obtain ⟨made, spans, performed, script, known⟩ := leaves
  have step := thread.assignment.advances optimize true mode now
  refine ⟨made, spans ++ thread.assignment.purging optimize mode now, performed, ?_,
    fun _ => step.spans? source known⟩
  rw [idle, List.append_nil] at script
  rw [script, step.job_eq, List.cons_append, Assignment.closing_append_moves]

/-- A thread that is done has left one span, below the one that was handed over. -/
theorem Thread.Leaves.mirrors (leaves : thread.Leaves optimize mode tree handed records)
    (ended : thread.assignment.stage.isOver) (done : thread.moves = []) {inner : List Span}
    (known : thread.assignment.spans? optimize mode tree = some inner) :
    thread.stack = [] ∧
      Mirrors handed.trace (some handed.span) [.node thread.assignment.job.spanLabel inner] records := by
  obtain ⟨made, spans, performed, script, same⟩ := leaves
  rw [done, List.append_nil, same inner known, Assignment.closing, if_pos ended] at script
  rw [script] at performed
  exact mirrors_of_span rfl (fun _ _ _ => mirrors_of_allMoves) performed

end Leaves

/-! ## All jobs -/

/-- A move gives the next number to the span that it opens, and ends one that has a number. -/
theorem SpanMove.numbers_perform (move : SpanMove) (tracer : Tracer) (stack : List ThreadSpan) :
    ∃ new : List Nat,
      ((move.ending stack).map (·.span) ++ (move.perform tracer stack).2.map (·.opened.span)).Perm
        (new ++ stack.map (·.opened.span)) ∧
      List.range (move.perform tracer stack).1.spans = List.range tracer.spans ++ new := by
  cases move with
  | opens label handed =>
    refine ⟨[tracer.spans], ?_, ?_⟩
    · simp only [ending, perform, Tracer.start]
      split <;> exact .refl _
    · simp only [perform, Tracer.start]
      split <;> exact List.range_succ
  | ends =>
    refine ⟨[], ?_, ?_⟩
    · cases stack <;> exact .refl _
    · cases stack <;> exact (List.append_nil _).symm

namespace TracedWorkers

/-- What has ended is what the threads have left. -/
def Accounted (optimize : ClassOptimizer) (mode : WriteMode) (tree : FileTree) (run : TracedWorkers) :
    Prop :=
  ∃ accounts : List (Thread × List EndedSpan), accounts.map (·.1) = run.threads ∧
    run.tracer.ended.Perm (accounts.flatMap (·.2)) ∧
    ∀ account ∈ accounts, account.1.Leaves optimize mode tree run.handed account.2

theorem accounted_start (optimize : ClassOptimizer) (mode : WriteMode) (tree : FileTree) (jobs : List Job) :
    (start tree jobs).Accounted optimize mode tree := by
  refine ⟨(start tree jobs).threads.map fun thread => (thread, []), ?_, ?_, ?_⟩
  · simp [Function.comp_def]
  · rw [List.flatMap_map]
    simp [start, Tracer.start]
  · intro account member
    obtain ⟨thread, there, rfl⟩ := List.mem_map.mp member
    obtain ⟨job, -, rfl⟩ := List.mem_map.mp there
    exact ⟨[], [], .done [], rfl, fun known same => Option.some.inj same⟩

/-- One thread has gone on, and the others stand as they were. -/
theorem Accounted.replace {tree : FileTree} {run next : TracedWorkers}
    (accounted : run.Accounted optimize mode tree) {front back : List Thread} {thread after : Thread}
    (threads : run.threads = front ++ thread :: back) (replaced : next.threads = front ++ after :: back)
    (handed : next.handed = run.handed) {new : List EndedSpan}
    (ended : next.tracer.ended = run.tracer.ended ++ new)
    (leaves : ∀ records, thread.Leaves optimize mode tree run.handed records →
      after.Leaves optimize mode tree run.handed (records ++ new)) :
    next.Accounted optimize mode tree := by
  obtain ⟨accounts, same, before, each⟩ := accounted
  rw [threads] at same
  obtain ⟨ahead, behind, rfl, rfl, later⟩ := List.map_eq_append_iff.mp same
  obtain ⟨⟨first, records⟩, others, rfl, here, rfl⟩ := List.map_eq_cons_iff.mp later
  obtain rfl : first = thread := here
  simp only [List.forall_mem_append, List.forall_mem_cons] at each
  obtain ⟨one, two, three⟩ := each
  refine ⟨ahead ++ (after, records ++ new) :: others, ?_, ?_, ?_⟩
  · rw [replaced, List.map_append, List.map_cons]
  · rw [ended]
    refine (before.append_right new).trans ?_
    simp only [List.flatMap_append, List.flatMap_cons, List.append_assoc]
    exact (List.perm_append_comm.append_left records).append_left _
  · rw [handed]
    simp only [List.forall_mem_append, List.forall_mem_cons]
    exact ⟨one, leaves records two, three⟩

theorem accounted_step {tree : FileTree} {run : TracedWorkers} (accounted : run.Accounted optimize mode tree)
    (sources : ∀ thread ∈ run.threads, thread.assignment.stage = .cleared →
      run.tree.read? thread.assignment.job.source = tree.read? thread.assignment.job.source)
    (position : Nat) : (run.step optimize mode position).Accounted optimize mode tree := by
  have step := run.steps optimize mode position
  generalize run.step optimize mode position = after at step
  cases step with
  | rests => exact accounted
  | moves threads here pending =>
    exact accounted.replace threads rfl rfl (SpanMove.ended_perform ..) fun records leaves =>
      leaves.move pending run.tracer
  | advances threads here idle =>
    refine accounted.replace threads rfl rfl (List.append_nil _).symm fun records leaves => ?_
    rw [List.append_nil]
    exact leaves.advance idle (sources _ (by simp [threads]))

/-- The numbers of the spans that are open on some thread. -/
def openNumbers (run : TracedWorkers) : List Nat :=
  run.threads.flatMap fun thread => thread.stack.map (·.opened.span)

/-- The spans are numbered in the order in which they were opened: that of the run, those that have ended and
those that are open. -/
def Numbered (run : TracedWorkers) : Prop :=
  (run.handed.span :: (run.tracer.ended.map (·.span) ++ run.openNumbers)).Perm
    (List.range run.tracer.spans)

theorem numbered_start (tree : FileTree) (jobs : List Job) : (start tree jobs).Numbered := by
  have nothing : (start tree jobs).openNumbers = [] := by simp [openNumbers, start]
  rw [Numbered, nothing]
  exact .refl _

theorem numbered_step {run : TracedWorkers} (numbered : run.Numbered) (position : Nat) :
    (run.step optimize mode position).Numbered := by
  have step := run.steps optimize mode position
  generalize run.step optimize mode position = after at step
  unfold Numbered openNumbers at numbered ⊢
  cases step with
  | rests => exact numbered
  | @moves front back thread move rest threads here pending =>
    obtain ⟨new, moved, range⟩ := move.numbers_perform run.tracer thread.stack
    rw [range]
    refine .trans ?_ (numbered.append_right new)
    simp only [threads, SpanMove.ended_perform, List.map_append, List.flatMap_append, List.flatMap_cons]
    rw [List.perm_iff_count]
    intro number
    have same := moved.count_eq number
    simp only [List.count_append, List.count_cons] at same ⊢
    omega
  | advances threads here idle =>
    rw [threads] at numbered
    simp only [List.flatMap_append, List.flatMap_cons] at numbered ⊢
    exact numbered

/-! ## Runs -/

theorem numbered_follow (optimize : ClassOptimizer) (mode : WriteMode) (tree : FileTree) (jobs : List Job)
    (schedule : List Nat) : ((start tree jobs).follow optimize mode schedule).Numbered :=
  follow_preserves Numbered (fun _ position numbered => numbered_step numbered position)
    (numbered_start tree jobs) schedule

section Runs

variable {tree : FileTree} {jobs : List Job} (independent : jobs.Pairwise (Job.Independent tree))

include independent

theorem accounted_follow (optimize : ClassOptimizer) (mode : WriteMode) (schedule : List Nat) :
    ((start tree jobs).follow optimize mode schedule).Accounted optimize mode tree := by
  induction schedule using List.reverseRecOn with
  | nil => exact accounted_start optimize mode tree jobs
  | append_singleton earlier position ih =>
    rw [follow_append]
    refine accounted_step ih (fun thread member cleared => ?_) position
    obtain ⟨plain, same⟩ := exists_plain optimize mode tree jobs earlier
    obtain ⟨there, found⟩ := List.getElem?_of_mem member
    have assigned : ((Workers.start tree jobs).follow optimize true mode plain).assignments[there]?
        = some thread.assignment := by
      rw [← same]
      simp [workers, found]
    have kept := Workers.read?_source independent assigned (by rw [cleared]; rfl)
    rwa [← same] at kept

end Runs

end TracedWorkers

end Unannotate
