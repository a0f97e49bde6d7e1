import Unannotate.Proofs.Workers.Frame

/-!
# Jobs that stay out of each other's way

No job writes a file that another one reads or writes. Then whatever the other jobs have done when a job reads
its source, it finds there what stood there before the run, `lookup?_of_read?`, and what could be found at
either end of a job before the run is found there until the job writes, `find?_of_ahead`.
-/
set_option autoImplicit false

namespace Unannotate

variable {optimize : ClassOptimizer} {traced : Bool} {mode : WriteMode}

/-- Neither of two jobs writes the file that the other one reads or writes. -/
structure Job.Apart (tree : FileTree) (first second : Job) : Prop where
  written : tree.placeOf first.destination ≠ tree.placeOf second.destination
  forth : tree.placeOf first.destination ≠ tree.placeOf second.source
  back : tree.placeOf second.destination ≠ tree.placeOf first.source

/-- What holds both ways of all pairs of a list holds of the items at any two positions. -/
theorem related_of_ne {α : Type} {related : α → α → Prop} {items : List α}
    (symm : ∀ {first second}, related first second → related second first)
    (pairs : items.Pairwise related) {position other : Nat} {first second : α} (different : position ≠ other)
    (one : items[position]? = some first) (two : items[other]? = some second) :
    related first second := by
  obtain ⟨here, rfl⟩ := List.getElem?_eq_some_iff.mp one
  obtain ⟨there, rfl⟩ := List.getElem?_eq_some_iff.mp two
  rcases Nat.lt_or_gt_of_ne different with before | behind
  · exact List.pairwise_iff_getElem.mp pairs position other here there before
  · exact symm (List.pairwise_iff_getElem.mp pairs other position there here behind)

namespace Job

instance (tree : FileTree) (first second : Job) : Decidable (Apart tree first second) :=
  decidable_of_iff (tree.placeOf first.destination ≠ tree.placeOf second.destination ∧
      tree.placeOf first.destination ≠ tree.placeOf second.source ∧
      tree.placeOf second.destination ≠ tree.placeOf first.source)
    ⟨fun ⟨written, forth, back⟩ => ⟨written, forth, back⟩,
      fun ⟨written, forth, back⟩ => ⟨written, forth, back⟩⟩

theorem Apart.symm {tree : FileTree} {first second : Job} (apart : Apart tree first second) :
    Apart tree second first :=
  ⟨apart.written.symm, apart.back, apart.forth⟩

end Job

namespace Workers

variable {tree : FileTree} {jobs : List Job} {schedule : List Nat}

/-- A place that no job has written is as it was, or a job has made a directory where nothing was. -/
theorem kept_or_made {place : Place}
    (unwritten : ∀ (position : Nat) (assignment : Assignment) (content : Bytes),
      ((start tree jobs).follow optimize traced mode schedule).assignments[position]? = some assignment →
      assignment.stage = .written content → tree.placeOf assignment.job.destination ≠ place) :
    ((start tree jobs).follow optimize traced mode schedule).tree.lookup? place = tree.lookup? place ∨
      tree.lookup? place = none ∧
      ((start tree jobs).follow optimize traced mode schedule).tree.lookup? place = some .directory ∧
      ∃ (position : Nat) (assignment : Assignment),
        ((start tree jobs).follow optimize traced mode schedule).assignments[position]? = some assignment ∧
        assignment.stage.hasBegun ∧ place ∈ assignment.job.above tree := by
  cases fate optimize traced mode tree jobs schedule place with
  | kept same => exact .inl same
  | @made position assignment assigned begun above absent stands =>
    exact .inr ⟨absent, stands, position, assignment, assigned, begun, above⟩
  | @written position assignment content _ assigned stage there =>
    exact absurd there (unwritten position assignment content assigned stage)

/-! ## Until a job writes -/

section Ahead

variable {position : Nat} {assignment : Assignment}

/-- Until a job writes, a place that only it may write is as it was, or a directory was made there. -/
theorem kept_or_made_of_ahead {place : Place}
    (elsewhere : ∀ (other : Nat) (job : Job), other ≠ position → jobs[other]? = some job →
      tree.placeOf job.destination ≠ place)
    (assigned : ((start tree jobs).follow optimize traced mode schedule).assignments[position]?
      = some assignment) (ahead : assignment.stage.isAhead) :
    ((start tree jobs).follow optimize traced mode schedule).tree.lookup? place = tree.lookup? place ∨
      tree.lookup? place = none ∧
      ((start tree jobs).follow optimize traced mode schedule).tree.lookup? place = some .directory ∧
      ∃ job ∈ jobs, place ∈ job.above tree := by
  have unwritten (other : Nat) (found : Assignment) (content : Bytes)
      (held : ((start tree jobs).follow optimize traced mode schedule).assignments[other]? = some found)
      (stage : found.stage = .written content) : tree.placeOf found.job.destination ≠ place := by
    by_cases here : other = position
    · subst here
      rw [assigned] at held
      cases held
      rw [stage] at ahead
      cases ahead
    · exact elsewhere other found.job here (job_of_assigned held)
  rcases kept_or_made unwritten with same | ⟨absent, stands, other, found, held, -, above⟩
  · exact .inl same
  · exact .inr ⟨absent, stands, found.job, List.mem_of_getElem? (job_of_assigned held), above⟩

theorem find?_of_ahead {path : Path} {data : Bytes} {time : Nat}
    (elsewhere : ∀ (other : Nat) (job : Job), other ≠ position → jobs[other]? = some job →
      tree.placeOf job.destination ≠ tree.placeOf path)
    (assigned : ((start tree jobs).follow optimize traced mode schedule).assignments[position]?
      = some assignment) (ahead : assignment.stage.isAhead)
    (found : tree.find? path = some (.file data time)) :
    ((start tree jobs).follow optimize traced mode schedule).tree.find? path
      = some (.file data time) := by
  refine (grows_follow (start tree jobs) schedule).find? found ?_
  rcases kept_or_made_of_ahead elsewhere assigned ahead with same | ⟨absent, -⟩
  · exact same
  · rw [(FileTree.find?_eq_some_iff.mp found).2] at absent
    cases absent

end Ahead

section Apart

variable {position : Nat} {assignment : Assignment}
  (apart : jobs.Pairwise (Job.Apart tree))
  (assigned : ((start tree jobs).follow optimize traced mode schedule).assignments[position]?
    = some assignment)
  (ahead : assignment.stage.isAhead)

include apart assigned

theorem source_elsewhere (other : Nat) (job : Job) (different : other ≠ position)
    (planned : jobs[other]? = some job) :
    tree.placeOf job.destination ≠ tree.placeOf assignment.job.source :=
  (related_of_ne Job.Apart.symm apart different planned (job_of_assigned assigned)).forth

theorem destination_elsewhere (other : Nat) (job : Job) (different : other ≠ position)
    (planned : jobs[other]? = some job) :
    tree.placeOf job.destination ≠ tree.placeOf assignment.job.destination :=
  (related_of_ne Job.Apart.symm apart different planned (job_of_assigned assigned)).written

include ahead

/-- What a job reads stood there before the run. -/
theorem lookup?_of_read? {data : Bytes}
    (read : ((start tree jobs).follow optimize traced mode schedule).tree.read? assignment.job.source
      = some data) :
    ∃ time, tree.lookup? (tree.placeOf assignment.job.source) = some (.file data time) := by
  obtain ⟨time, found⟩ := FileTree.read?_eq_some_iff.mp read
  have stands := (FileTree.find?_eq_some_iff.mp found).2
  rw [placeOf_follow] at stands
  rcases kept_or_made_of_ahead (source_elsewhere apart assigned) assigned ahead with
    same | ⟨-, directory, -⟩
  · exact ⟨time, same ▸ stands⟩
  · rw [directory] at stands
    cases stands

end Apart

end Workers

end Unannotate
