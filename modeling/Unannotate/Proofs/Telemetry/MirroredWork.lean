import Unannotate.Proofs.Telemetry.Ledger
import Unannotate.Proofs.Workers.Foreseen

/-!
# What the spans of a run tell

Whether spans are kept changes nothing of what a run does, `Transparent`. And when independent jobs have all
been carried out, in whatever order their steps came, the spans that were kept are one tree that tells what
was done, `MirrorsWork`.
-/
set_option autoImplicit false

namespace Unannotate

variable {optimize : ClassOptimizer} {mode : WriteMode}

/-! ## The spans of jobs -/

/-- The spans of what is in the source of a job. -/
def Job.sourceSpans (tree : FileTree) (job : Job) : List Span :=
  match tree.read? job.source with
  | none => []
  | some data => spansOf maxNesting job.kind job.source.text data

theorem Job.spans_transformed {tree : FileTree} {job : Job} {output : Option Bytes}
    (succeeds : (job.transformed optimize true mode tree).outcome = .ok output) :
    (job.transformed optimize true mode tree).journal.spans = job.sourceSpans tree ∧
      (job.transformed optimize true mode tree).journal.summary.Covers (job.sourceSpans tree) := by
  obtain ⟨data, purged, read, purges, -⟩ := transformed_eq_ok_iff.mp succeeds
  obtain ⟨spans, covers⟩ := spans_purgeArtifact purges
  simp only [transformed, sourceSpans, read]
  rw [Work.spans_bind (Work.outcome_report _), Work.spans_bind_of_silent _ fun _ => rfl,
    Work.summary_bind (Work.outcome_report _), Work.summary_bind purges]
  have nothing (summary : Summary) : Summary.empty ++ (summary ++ Summary.empty) = summary := by simp
  exact ⟨spans, (nothing _).symm ▸ covers⟩

namespace Assignment

/-- The spans of what a job has purged that did not fail; one that is left out has purged nothing. -/
def inner (tree : FileTree) (assignment : Assignment) : List Span :=
  if assignment.stage = .skipped then [] else assignment.job.sourceSpans tree

/-- The span of a job that did not fail. -/
def span (tree : FileTree) (assignment : Assignment) : Span :=
  .node assignment.job.spanLabel (assignment.inner tree)

end Assignment

namespace TracedWorkers

/-- The spans of jobs, one for each, and what they have counted together. -/
theorem labels_of_covers {tree : FileTree} {assignments : List Assignment}
    (covers : ∀ assignment ∈ assignments, assignment.summary.Covers (assignment.inner tree)) :
    let total := (assignments.map (·.summary)).foldr (· ++ ·) ({} : Summary)
    let labels := Span.allLabels (assignments.map (Assignment.span tree))
    (∀ kind : ArtifactKind, labels.countP (·.name = kind.spanName) = kind.counted total) ∧
      labels.length = assignments.length + (total.archives + total.classes) := by
  induction assignments with
  | nil => exact ⟨fun kind => by cases kind <;> rfl, rfl⟩
  | cons assignment rest ih =>
    rw [List.forall_mem_cons] at covers
    obtain ⟨kinds, total⟩ := ih covers.2
    constructor
    · intro kind
      have other : assignment.job.spanLabel.name ≠ kind.spanName := by
        cases kind <;> simp [Job.spanLabel, ArtifactKind.spanName]
      have both (first second : Summary) :
          kind.counted (first ++ second) = kind.counted first + kind.counted second := by
        cases kind <;> rfl
      simp only [List.map_cons, List.foldr_cons, both, Span.allLabels, Assignment.span, Span.labels]
      rw [List.cons_append, List.countP_cons, List.countP_append, covers.1.kinds, kinds]
      simp [other]
    · have archives (first second : Summary) :
          (first ++ second).archives = first.archives + second.archives := rfl
      have classes (first second : Summary) :
          (first ++ second).classes = first.classes + second.classes := rfl
      simp only [List.map_cons, List.foldr_cons, archives, classes, Span.allLabels, Assignment.span,
        Span.labels, List.cons_append, List.length_cons, List.length_append, covers.1.total]
      omega

/-! ## Runs in which no job fails -/

/-- What threads have left that are done is what their jobs have left, one after the other. -/
theorem mirrors_flatMap {tree : FileTree} {trace : Nat} {parent : Option Nat}
    {accounts : List (Thread × List EndedSpan)}
    (each : ∀ account ∈ accounts, Mirrors trace parent [account.1.assignment.span tree] account.2) :
    Mirrors trace parent (accounts.map fun account => account.1.assignment.span tree)
      (accounts.flatMap (·.2)) := by
  induction accounts with
  | nil => exact .none parent
  | cons account rest ih =>
    rw [List.forall_mem_cons] at each
    exact each.1.append (ih each.2)

/-- The spans of a run tell what it did: all that have ended are one tree, in which the span of the run is on
top, one of each job is directly below it, and those of the archives and classes in the source of a job are
below that of the job, each directly below that of what directly contains it. There are as many as were
counted. -/
structure MirrorsWork (tree : FileTree) (jobs : List Job) (arguments : Arguments) (run : TracedWorkers) :
    Prop where
  planned : run.workers.assignments.map (·.job) = jobs
  tree : ∃ records, (run.ended arguments.spanLabel).Perm records ∧
    Mirrors run.handed.trace none
      [.node arguments.spanLabel (run.workers.assignments.map (Assignment.span tree))] records
  distinct : ((run.ended arguments.spanLabel).map (·.span)).Nodup
  kinds : ∀ kind : ArtifactKind, (run.ended arguments.spanLabel).countP (·.label.name = kind.spanName)
    = kind.counted run.workers.summary
  total : (run.ended arguments.spanLabel).length
    = 1 + jobs.length + (run.workers.summary.archives + run.workers.summary.classes)

/-- When nothing is open on the threads, no two spans that have ended are the same. -/
theorem nodup_ended {run : TracedWorkers} (label : SpanLabel) (numbered : run.Numbered)
    (closed : run.openNumbers = []) : ((run.ended label).map (·.span)).Nodup := by
  rw [Numbered, closed, List.append_nil] at numbered
  have numbers : ((run.ended label).map (·.span)).Perm (List.range run.tracer.spans) := by
    refine .trans ?_ numbered
    simp only [TracedWorkers.ended, Tracer.finish, List.map_append]
    exact List.perm_append_comm
  exact numbers.nodup_iff.mpr List.nodup_range

/-- The span of the run is not one of an archive or a class. -/
theorem countP_of_labels_perm {arguments : Arguments} {records : List EndedSpan} {inner : List SpanLabel}
    (labels : (records.map (·.label)).Perm (arguments.spanLabel :: inner)) (kind : ArtifactKind) :
    records.countP (·.label.name = kind.spanName) = inner.countP (·.name = kind.spanName) := by
  have other : arguments.spanLabel.name ≠ kind.spanName := by
    cases kind <;> simp [Arguments.spanLabel, ArtifactKind.spanName]
  have counted := labels.countP_eq (·.name = kind.spanName)
  rw [List.countP_map, List.countP_cons] at counted
  simp only [other, decide_false, Bool.false_eq_true, if_false, Nat.add_zero] at counted
  exact counted

section Succeeds

variable {tree : FileTree} {jobs : List Job} (independent : jobs.Pairwise (Job.Independent tree))

include independent

/-- What a job that did not fail has left and counted. -/
theorem spans?_of_ended {plain : List Nat} {position : Nat} {assignment : Assignment}
    (assigned : ((Workers.start tree jobs).follow optimize true mode plain).assignments[position]?
      = some assignment)
    (ended : assignment.stage = .skipped ∨ assignment.stage = .standing ∨
      ∃ content, assignment.stage = .written content) :
    assignment.spans? optimize mode tree = some (assignment.inner tree) ∧
      assignment.summary.Covers (assignment.inner tree) := by
  obtain ⟨looked, -, -, follows⟩ := Workers.exists_followsFrom independent assigned
  have followed := follows.stage
  have counted := follows.counted
  unfold Assignment.spans? Assignment.inner
  rcases ended with stage | stage | ⟨content, stage⟩
  · rw [stage] at counted ⊢
    rw [counted _ rfl]
    refine ⟨rfl, fun kind => ?_, rfl⟩
    cases kind <;> rfl
  all_goals
    rw [stage] at followed counted ⊢
    rw [counted _ rfl, if_neg (by simp)]
    obtain ⟨spans, covers⟩ := Job.spans_transformed followed.2
    exact ⟨congrArg some spans, covers⟩

variable {schedule : List Nat} (finished : ((start tree jobs).follow optimize mode schedule).Finished)
  (succeeds : ¬((start tree jobs).follow optimize mode schedule).workers.Fails)

include finished succeeds

theorem spans?_of_succeeds {thread : Thread}
    (member : thread ∈ ((start tree jobs).follow optimize mode schedule).threads) :
    thread.assignment.spans? optimize mode tree = some (thread.assignment.inner tree) ∧
      thread.assignment.summary.Covers (thread.assignment.inner tree) := by
  obtain ⟨plain, same⟩ := exists_plain optimize mode tree jobs schedule
  have there : thread.assignment ∈ ((start tree jobs).follow optimize mode schedule).workers.assignments :=
    List.mem_map_of_mem member
  have ended := Workers.ended_of_succeeds (finished_workers finished) succeeds there
  obtain ⟨position, found⟩ := List.getElem?_of_mem there
  rw [same] at found
  exact spans?_of_ended independent found ended

/-- The threads have left the spans of their jobs below that of the run, and nothing is open on them. -/
theorem exists_records :
    let run := (start tree jobs).follow optimize mode schedule
    run.openNumbers = [] ∧ ∃ records, run.tracer.ended.Perm records ∧
      Mirrors run.handed.trace (some run.handed.span)
        (run.workers.assignments.map (Assignment.span tree)) records := by
  intro run
  obtain ⟨accounts, threads, ended, leaves⟩ := accounted_follow independent optimize mode schedule
  have each (account : Thread × List EndedSpan) (member : account ∈ accounts) :
      account.1.stack = [] ∧
        Mirrors run.handed.trace (some run.handed.span) [account.1.assignment.span tree] account.2 := by
    have there : account.1 ∈ run.threads := threads ▸ List.mem_map_of_mem member
    rcases finished _ there with ⟨settled, done⟩ | ⟨-, -, fails⟩
    · have inner := (spans?_of_succeeds independent finished succeeds there).1
      exact (leaves account member).mirrors settled done inner
    · exact absurd fails succeeds
  refine ⟨?_, accounts.flatMap (·.2), ended, ?_⟩
  · rw [openNumbers, ← threads, List.flatMap_map, List.flatMap_eq_nil_iff]
    intro account member
    rw [(each account member).1, List.map_nil]
  · have all := mirrors_flatMap fun account member => (each account member).2
    rw [workers, List.map_map, ← threads, List.map_map]
    exact all

theorem mirrorsWork (arguments : Arguments) :
    ((start tree jobs).follow optimize mode schedule).MirrorsWork tree jobs arguments := by
  have numbered := numbered_follow optimize mode tree jobs schedule
  obtain ⟨closed, records, ended, inner⟩ := exists_records independent finished succeeds
  obtain ⟨plain, same⟩ := exists_plain optimize mode tree jobs schedule
  have planned := Workers.map_job_follow optimize true mode tree jobs plain
  rw [← same] at planned
  have covers : ∀ assignment ∈ ((start tree jobs).follow optimize mode schedule).workers.assignments,
      assignment.summary.Covers (assignment.inner tree) := by
    intro assignment member
    obtain ⟨thread, there, rfl⟩ := List.mem_map.mp member
    exact (spans?_of_succeeds independent finished succeeds there).2
  obtain ⟨kinds, total⟩ := labels_of_covers covers
  generalize (start tree jobs).follow optimize mode schedule = run at *
  -- The span of the run ends last.
  have exported : (run.ended arguments.spanLabel).Perm
      (records ++ [⟨arguments.spanLabel, run.handed.span, run.handed.trace, none⟩]) :=
    ended.append_right _
  have whole : Mirrors run.handed.trace none
      [.node arguments.spanLabel (run.workers.assignments.map (Assignment.span tree))]
      (records ++ [⟨arguments.spanLabel, run.handed.span, run.handed.trace, none⟩]) :=
    .span run.handed.span inner (.none none)
  have labels := (exported.map (·.label)).trans whole.labels_perm
  rw [Span.allLabels, Span.labels, Span.allLabels, List.append_nil] at labels
  refine ⟨planned, ⟨_, exported, whole⟩, nodup_ended _ numbered closed, ?_, ?_⟩
  · intro kind
    rw [countP_of_labels_perm labels, kinds, Workers.summary]
  · have counted := labels.length_eq
    have each : run.workers.assignments.length = jobs.length := by rw [← planned, List.length_map]
    rw [List.length_map, List.length_cons, total] at counted
    rw [counted, each, Workers.summary]
    omega

end Succeeds

/-! ## Runs with and without spans -/

/-- Workers do with spans what they do without: the ways in which their steps can come lead to the same files,
the same ends of jobs and the same counts. When the jobs are foreseen, any of these ways with spans and any
without them do. -/
structure Transparent (optimize : ClassOptimizer) (mode : WriteMode) (tree : FileTree) (jobs : List Job) :
    Prop where
  forth : ∀ schedule, ∃ plain, ((start tree jobs).follow optimize mode schedule).workers
    = (Workers.start tree jobs).follow optimize false mode plain
  back : ∀ plain, ((Workers.start tree jobs).follow optimize false mode plain).Finished →
    ∃ schedule, ((start tree jobs).follow optimize mode schedule).Finished ∧
      ((start tree jobs).follow optimize mode schedule).workers
        = (Workers.start tree jobs).follow optimize false mode plain
  agree : tree.lookup? tree.base = some .directory → (∀ job ∈ jobs, job.Foreseen tree jobs) →
    ∀ schedule plain,
    let spanned := ((start tree jobs).follow optimize mode schedule).workers
    let unspanned := (Workers.start tree jobs).follow optimize false mode plain
    spanned.Finished → unspanned.Finished →
    (spanned.Fails ↔ unspanned.Fails) ∧
      (¬spanned.Fails → spanned.summary = unspanned.summary ∧
        ∀ place, spanned.tree.content? place = unspanned.tree.content? place)

theorem transparent (optimize : ClassOptimizer) (mode : WriteMode) {tree : FileTree} {jobs : List Job}
    (apart : jobs.Pairwise (Job.Apart tree)) : Transparent optimize mode tree jobs := by
  constructor
  · intro schedule
    obtain ⟨plain, same⟩ := exists_plain optimize mode tree jobs schedule
    exact ⟨plain, same.trans (Workers.follow_traced ..)⟩
  · intro plain finished
    obtain ⟨schedule, same, settled⟩ := exists_traced optimize mode tree jobs plain
    rw [Workers.follow_traced] at same
    exact ⟨schedule, finished_of_settled settled (same ▸ finished), same⟩
  · intro based foreseen schedule plain spanned unspanned finished ended
    obtain ⟨other, same⟩ := exists_plain optimize mode tree jobs schedule
    rw [Workers.follow_traced] at same
    have spans : spanned = (Workers.start tree jobs).follow optimize false mode other := same
    rw [spans] at finished ⊢
    exact Workers.schedules_agree based apart foreseen other plain finished ended

end TracedWorkers

/-- An archive that holds another one beside what is there to be copied. -/
def shelved : FileTree where
  entries := (["app.jar"], .file (classBehind [0]) 1) :: copied.entries
  clock := 3

/-- The archive is purged in place, a class is purged to a directory, and another one has been before. -/
def shelvedJobs : List Job :=
  [⟨⟨"app.jar"⟩, ⟨"app.jar"⟩, .archive⟩, ⟨⟨"A.class"⟩, ⟨"out/A.class"⟩, .classFile⟩,
    ⟨⟨"B.class"⟩, ⟨"out/B.class"⟩, .classFile⟩]

end Unannotate
