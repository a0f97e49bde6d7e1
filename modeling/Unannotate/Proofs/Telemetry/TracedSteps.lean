import Unannotate.Proofs.Telemetry.Untraced
import Unannotate.Proofs.Workers.Steps
import Unannotate.TracedWorkers

/-!
# The steps of workers that keep spans

A step of such a run is a move on the spans of one thread, which the workers do not notice, or a step of the
job of that thread. So the run does to files and jobs what some run without spans does, `exists_plain`, and
every run without spans can be carried out with them, `exists_traced`.
-/
set_option autoImplicit false

namespace Unannotate.TracedWorkers

variable {optimize : ClassOptimizer} {mode : WriteMode}

/-- What a step of a run does. -/
inductive Steps (optimize : ClassOptimizer) (mode : WriteMode) (run : TracedWorkers) (position : Nat) :
    TracedWorkers → Prop
  | rests (nobody : run.threads[position]? = none) : Steps optimize mode run position run
  | moves {front back : List Thread} {thread : Thread} {move : SpanMove} {rest : List SpanMove}
      (threads : run.threads = front ++ thread :: back) (here : front.length = position)
      (pending : thread.moves = move :: rest) :
      Steps optimize mode run position
        { run with
          tracer := (move.perform run.tracer thread.stack).1
          threads := front ++
            { thread with stack := (move.perform run.tracer thread.stack).2, moves := rest } :: back }
  | advances {front back : List Thread} {thread : Thread}
      (threads : run.threads = front ++ thread :: back) (here : front.length = position)
      (idle : thread.moves = []) :
      Steps optimize mode run position
        { run with
          tree := (thread.assignment.advance optimize true mode run.tree).1
          threads := front ++
            { thread with
              assignment := (thread.assignment.advance optimize true mode run.tree).2
              moves := thread.assignment.moves optimize mode run.tree } :: back }

/-- What stands at a position, with what stands before it and behind. -/
theorem exists_split_of_getElem? {α : Type} {items : List α} {position : Nat} {item : α}
    (found : items[position]? = some item) :
    ∃ front back, items = front ++ item :: back ∧ front.length = position := by
  obtain ⟨within, rfl⟩ := List.getElem?_eq_some_iff.mp found
  refine ⟨items.take position, items.drop (position + 1), ?_, ?_⟩
  · rw [← List.drop_eq_getElem_cons within, List.take_append_drop]
  · rw [List.length_take, Nat.min_eq_left (Nat.le_of_lt within)]

theorem steps (optimize : ClassOptimizer) (mode : WriteMode) (run : TracedWorkers) (position : Nat) :
    Steps optimize mode run position (run.step optimize mode position) := by
  unfold step
  cases found : run.threads[position]? with
  | none => exact .rests found
  | some thread =>
    obtain ⟨front, back, split, rfl⟩ := exists_split_of_getElem? found
    have replaced (after : Thread) : run.threads.set front.length after = front ++ after :: back := by
      simp [split]
    cases pending : thread.moves with
    | nil =>
      simp only [pending, replaced]
      exact .advances split rfl pending
    | cons move rest =>
      simp only [pending, replaced]
      exact .moves split rfl pending

theorem follow_append (run : TracedWorkers) (schedule more : List Nat) :
    run.follow optimize mode (schedule ++ more)
      = (run.follow optimize mode schedule).follow optimize mode more :=
  List.foldl_append

/-- What every step preserves holds at the end of every schedule. -/
theorem follow_preserves (property : TracedWorkers → Prop) {run : TracedWorkers}
    (preserved : ∀ run position, property run → property (run.step optimize mode position))
    (holds : property run) (schedule : List Nat) : property (run.follow optimize mode schedule) := by
  induction schedule generalizing run with
  | nil => exact holds
  | cons position rest ih => exact ih (preserved run position holds)

/-! ## Runs without spans -/

theorem workers_start (tree : FileTree) (jobs : List Job) :
    (start tree jobs).workers = Workers.start tree jobs := by
  simp [start, workers, Workers.start]

/-- Workers do not notice the moves on spans. -/
theorem workers_step (run : TracedWorkers) (position : Nat) :
    (run.step optimize mode position).workers = run.workers ∨
      (run.step optimize mode position).workers = run.workers.step optimize true mode position := by
  have step := run.steps optimize mode position
  generalize run.step optimize mode position = after at step
  cases step with
  | rests => exact .inl rfl
  | @moves front back thread move rest threads here pending =>
    left
    simp only [workers, threads, List.map_append, List.map_cons]
  | @advances front back thread threads here idle =>
    right
    have assigned : (run.threads.map (·.assignment))[position]? = some thread.assignment := by
      simp [threads, ← here]
    simp only [workers, Workers.step, assigned]
    simp [threads, ← here]

theorem exists_plain (optimize : ClassOptimizer) (mode : WriteMode) (tree : FileTree) (jobs : List Job)
    (schedule : List Nat) :
    ∃ plain, ((start tree jobs).follow optimize mode schedule).workers
      = (Workers.start tree jobs).follow optimize true mode plain := by
  refine follow_preserves (fun run => ∃ plain, run.workers
    = (Workers.start tree jobs).follow optimize true mode plain) ?_ ⟨[], workers_start tree jobs⟩ schedule
  rintro run position ⟨plain, same⟩
  rcases run.workers_step position with still | stepped
  · exact ⟨plain, still.trans same⟩
  · refine ⟨plain ++ [position], ?_⟩
    rw [stepped, same, Workers.follow_concat]

/-! ## Runs with spans -/

/-- Jobs that are begun have no move before them, and the others no open span. -/
def Settled (run : TracedWorkers) : Prop :=
  ∀ thread ∈ run.threads, (thread.assignment.stage = .waiting → thread.stack = []) ∧
    (thread.assignment.stage ≠ .waiting → thread.moves = [])

/-- A thread can make all its moves. -/
theorem exists_settling (optimize : ClassOptimizer) (mode : WriteMode) (run : TracedWorkers)
    {front back : List Thread} {thread : Thread} (threads : run.threads = front ++ thread :: back) :
    ∃ schedule tracer stack, run.follow optimize mode schedule
      = { run with tracer, threads := front ++ { thread with stack, moves := [] } :: back } := by
  obtain ⟨assignment, stack, moves⟩ := thread
  induction moves generalizing run stack with
  | nil => exact ⟨[], run.tracer, stack, by rw [← threads]; rfl⟩
  | cons move rest ih =>
    have found : run.threads[front.length]? = some ⟨assignment, stack, move :: rest⟩ := by simp [threads]
    have once : run.step optimize mode front.length = { run with
        tracer := (move.perform run.tracer stack).1
        threads := front ++ ⟨assignment, (move.perform run.tracer stack).2, rest⟩ :: back } := by
      simp only [step, found]
      simp [threads]
    obtain ⟨schedule, tracer, last, done⟩ := ih (run.step optimize mode front.length)
      (move.perform run.tracer stack).2 (by rw [once])
    refine ⟨front.length :: schedule, tracer, last, ?_⟩
    change (run.step optimize mode front.length).follow optimize mode schedule = _
    rw [done, once]

/-- A job that has taken a step is begun. -/
theorem stage_advance_ne_waiting (optimize : ClassOptimizer) (traced : Bool) (tree : FileTree)
    (assignment : Assignment) : (assignment.advance optimize traced mode tree).2.stage ≠ .waiting := by
  intro waits
  have step := assignment.advances optimize traced mode tree
  generalize assignment.advance optimize traced mode tree = result at waits step
  obtain ⟨next, after⟩ := result
  simp only at waits step
  cases step with
  | rests settled =>
    rw [waits] at settled
    cases settled
  | reads =>
    simp only [Assignment.stageAfter] at waits
    split at waits <;> cases waits
  | cannotLook | skips | clears | makes | cannotMake | writes | cannotWrite => cases waits

/-- A step of a job without spans is taken with them, and the moves around it. -/
theorem exists_lifted {run : TracedWorkers} (settled : run.Settled) (position : Nat) :
    ∃ schedule, (run.follow optimize mode schedule).workers
        = run.workers.step optimize true mode position ∧
      (run.follow optimize mode schedule).Settled := by
  cases found : run.threads[position]? with
  | none =>
    refine ⟨[], ?_, settled⟩
    have nobody : (run.threads.map (·.assignment))[position]? = none := by simp [found]
    simp only [workers, Workers.step, nobody]
    rfl
  | some thread =>
    obtain ⟨front, back, split, rfl⟩ := exists_split_of_getElem? found
    -- The moves before the step, the step, and the moves that come with it.
    obtain ⟨before, tracer, stack, first⟩ := exists_settling optimize mode run split
    have once : (run.follow optimize mode before).step optimize mode front.length = { run with
        tree := (thread.assignment.advance optimize true mode run.tree).1
        tracer
        threads := front ++ {
          assignment := (thread.assignment.advance optimize true mode run.tree).2
          stack
          moves := thread.assignment.moves optimize mode run.tree } :: back } := by
      rw [first]
      simp [step]
    obtain ⟨behind, tracer, stack, last⟩ := exists_settling optimize mode
      ((run.follow optimize mode before).step optimize mode front.length) (by rw [once])
    have whole : run.follow optimize mode (before ++ front.length :: behind)
        = ((run.follow optimize mode before).step optimize mode front.length).follow optimize mode
          behind := follow_append run before (front.length :: behind)
    refine ⟨before ++ front.length :: behind, ?_, ?_⟩
    · rw [whole, last, once]
      simp [workers, Workers.step, split]
    · rw [whole, last, once]
      intro other member
      rcases List.mem_append.mp member with ahead | here
      · exact settled other (by simp [split, ahead])
      · rcases List.mem_cons.mp here with rfl | later
        · exact ⟨fun waits => absurd waits (stage_advance_ne_waiting optimize true _ _), fun _ => rfl⟩
        · exact settled other (by simp [split, later])

/-- Whatever workers do without spans they can do with them. -/
theorem exists_traced (optimize : ClassOptimizer) (mode : WriteMode) (tree : FileTree) (jobs : List Job)
    (plain : List Nat) :
    ∃ schedule, ((start tree jobs).follow optimize mode schedule).workers
        = (Workers.start tree jobs).follow optimize true mode plain ∧
      ((start tree jobs).follow optimize mode schedule).Settled := by
  induction plain using List.reverseRecOn with
  | nil =>
    refine ⟨[], workers_start tree jobs, fun thread member => ?_⟩
    obtain ⟨job, -, rfl⟩ := List.mem_map.mp member
    exact ⟨fun _ => rfl, fun begun => absurd rfl begun⟩
  | append_singleton earlier position ih =>
    obtain ⟨schedule, same, settled⟩ := ih
    obtain ⟨more, stepped, still⟩ := exists_lifted settled position
    refine ⟨schedule ++ more, ?_, ?_⟩
    · rw [follow_append, stepped, same, Workers.follow_concat]
    · rwa [follow_append]

theorem finished_workers {run : TracedWorkers} (finished : run.Finished) : run.workers.Finished := by
  intro assignment member
  obtain ⟨thread, there, rfl⟩ := List.mem_map.mp member
  rcases finished thread there with ⟨done, -⟩ | ⟨waits, -, fails⟩
  · exact .inl done
  · exact .inr ⟨waits, fails⟩

theorem finished_of_settled {run : TracedWorkers} (settled : run.Settled)
    (finished : run.workers.Finished) : run.Finished := by
  intro thread member
  obtain ⟨closed, done⟩ := settled thread member
  rcases finished thread.assignment (List.mem_map_of_mem member) with ended | ⟨waits, fails⟩
  · refine .inl ⟨ended, done fun waits => ?_⟩
    rw [waits] at ended
    cases ended
  · exact .inr ⟨waits, closed waits, fails⟩

end Unannotate.TracedWorkers
