import Unannotate.Proofs.Workers.Determined

/-!
# A listing tells what a run would do

Independent jobs read the same in every order of their steps, also after other jobs have written. So a run
that lists what it would do, and changes nothing, fails when the run that does it fails, and counts the same,
`listing_agrees`.
-/
set_option autoImplicit false

namespace Unannotate

variable {optimize : ClassOptimizer} {traced : Bool} {mode : WriteMode}

/-- A source that is there, but not where its path can lead: a directory that the path goes through is
missing. -/
def Job.IsCutOff (tree : FileTree) (job : Job) : Prop :=
  tree.read? job.source = none ∧ (tree.content? (tree.placeOf job.source)).isSome

/-- Neither of two jobs writes a file that the other one reads or writes, and neither makes the directory that
cuts the other one off from its source. -/
structure Job.Independent (tree : FileTree) (first second : Job) : Prop extends
    Job.Apart tree first second where
  ahead : second.IsCutOff tree →
    ∀ place ∈ first.above tree, tree.lookup? place = none → place ∉ tree.passedBy second.source
  behind : first.IsCutOff tree →
    ∀ place ∈ second.above tree, tree.lookup? place = none → place ∉ tree.passedBy first.source

namespace Job

variable {tree : FileTree} {jobs : List Job}

theorem Independent.symm {first second : Job} (independent : Independent tree first second) :
    Independent tree second first :=
  ⟨independent.toApart.symm, independent.behind, independent.ahead⟩

theorem apart_of_independent (independent : jobs.Pairwise (Independent tree)) :
    jobs.Pairwise (Apart tree) :=
  independent.imp Independent.toApart

/-- Jobs whose sources can be read are independent when they stay out of each other's way. -/
theorem independent_of_readable (apart : jobs.Pairwise (Apart tree))
    (readable : ∀ job ∈ jobs, (tree.read? job.source).isSome) : jobs.Pairwise (Independent tree) := by
  refine apart.imp_of_mem fun {first second} one two apart => ⟨apart, ?_, ?_⟩
  · rintro ⟨unreadable, -⟩
    have found := readable second two
    rw [unreadable] at found
    cases found
  · rintro ⟨unreadable, -⟩
    have found := readable first one
    rw [unreadable] at found
    cases found

theorem transformed_eq_of_read? {before after : FileTree} {job : Job}
    (same : after.read? job.source = before.read? job.source) :
    job.transformed optimize traced mode after = job.transformed optimize traced mode before := by
  simp only [transformed, same]

/-- What a job counts and how it fails does not depend on what it writes. -/
theorem transformed_mode (optimize : ClassOptimizer) (traced : Bool) (mode other : WriteMode)
    (tree : FileTree) (job : Job) :
    (job.transformed optimize traced mode tree).journal.summary
        = (job.transformed optimize traced other tree).journal.summary ∧
      ∀ failure, (job.transformed optimize traced mode tree).outcome = .error failure ↔
        (job.transformed optimize traced other tree).outcome = .error failure := by
  unfold transformed
  cases tree.read? job.source with
  | none => exact ⟨rfl, fun _ => Iff.rfl⟩
  | some data =>
    cases purges : (purgeArtifact optimize traced job.kind job.source.text data).outcome with
    | error failure =>
      simp only [Work.bind_of_error purges]
      simp
    | ok purged =>
      simp only [Work.bind_of_ok purges, Work.bind_of_ok (Work.outcome_report _)]
      refine ⟨rfl, fun failure => iff_of_false ?_ ?_⟩
      · intro fails
        cases fails
      · intro fails
        cases fails

theorem ends_alike (optimize : ClassOptimizer) (traced : Bool) {mode other : WriteMode} {job : Job}
    (one : job.isSkipped mode tree = .ok false) (two : job.isSkipped other tree = .ok false) :
    let stage := job.stageAtEnd optimize traced mode tree
    let another := job.stageAtEnd optimize traced other tree
    stage.failure? = another.failure? ∧
      stage.counted optimize traced mode tree job = another.counted optimize traced other tree job := by
  unfold stageAtEnd
  simp only [one, two]
  obtain ⟨counts, fails⟩ := transformed_mode optimize traced mode other tree job
  cases first : (job.transformed optimize traced mode tree).outcome with
  | error failure =>
    rw [(fails failure).mp first]
    exact ⟨rfl, rfl⟩
  | ok output =>
    cases second : (job.transformed optimize traced other tree).outcome with
    | error failure =>
      rw [(fails failure).mpr second] at first
      cases first
    | ok another => cases output <;> cases another <;> exact ⟨rfl, congrArg some counts⟩

end Job

namespace Workers

variable {tree : FileTree} {jobs : List Job} {schedule : List Nat}

/-- No directory that is made leads an independent job to a source that it was cut off from. -/
theorem resolve?_source {position : Nat} {assignment : Assignment}
    (independent : jobs.Pairwise (Job.Independent tree))
    (assigned : ((start tree jobs).follow optimize traced mode schedule).assignments[position]?
      = some assignment) (ahead : assignment.stage.isAhead)
    (cutOff : assignment.job.IsCutOff tree)
    (leads : (((start tree jobs).follow optimize traced mode schedule).tree.resolve?
      assignment.job.source).isSome) : (tree.resolve? assignment.job.source).isSome := by
  obtain ⟨spelled, directories⟩ := FileTree.resolve?_isSome_iff.mp leads
  rw [passedBy_follow] at directories
  refine FileTree.resolve?_isSome_iff.mpr ⟨spelled, fun left member => ?_⟩
  have stands := directories left member
  cases fate optimize traced mode tree jobs schedule left with
  | kept same => exact same.symm.trans stands
  | @made other maker held begun above absent _ =>
    by_cases here : other = position
    · subst here
      rw [assigned] at held
      cases held
      rw [Stage.isAhead_eq_false_of_hasBegun begun] at ahead
      cases ahead
    · have pair := related_of_ne Job.Independent.symm independent here (job_of_assigned held)
        (job_of_assigned assigned)
      exact absurd member (pair.ahead cutOff left above absent)
  | written _ _ _ _ file =>
    rw [stands] at file
    cases file

/-- Until an independent job writes, it reads what it could read before the run. -/
theorem read?_source {position : Nat} {assignment : Assignment}
    (independent : jobs.Pairwise (Job.Independent tree))
    (assigned : ((start tree jobs).follow optimize traced mode schedule).assignments[position]?
      = some assignment) (ahead : assignment.stage.isAhead) :
    ((start tree jobs).follow optimize traced mode schedule).tree.read? assignment.job.source
      = tree.read? assignment.job.source := by
  have apart := Job.apart_of_independent independent
  cases before : tree.read? assignment.job.source with
  | some data =>
    obtain ⟨time, found⟩ := FileTree.read?_eq_some_iff.mp before
    exact FileTree.read?_eq_some_iff.mpr
      ⟨time, find?_of_ahead (source_elsewhere apart assigned) assigned ahead found⟩
  | none =>
    rw [Option.eq_none_iff_forall_ne_some]
    intro data read
    obtain ⟨time, stood⟩ := lookup?_of_read? apart assigned ahead read
    obtain ⟨_, found⟩ := FileTree.read?_eq_some_iff.mp read
    have leads := resolve?_source independent assigned ahead ⟨before, by simp [FileTree.content?, stood]⟩
      (FileTree.find?_eq_some_iff.mp found).1
    have readable : tree.read? assignment.job.source = some data :=
      FileTree.read?_eq_some_iff.mpr ⟨time, FileTree.find?_eq_some_iff.mpr ⟨leads, stood⟩⟩
    rw [before] at readable
    cases readable

/-- An independent job gets as far as what it read before the run leads it. -/
theorem exists_followsFrom {position : Nat} {assignment : Assignment}
    (independent : jobs.Pairwise (Job.Independent tree))
    (assigned : ((start tree jobs).follow optimize traced mode schedule).assignments[position]?
      = some assignment) :
    ∃ looked, looked <+: schedule ∧
      ((start tree jobs).follow optimize traced mode looked).assignments[position]?
        = some { job := assignment.job } ∧
      assignment.FollowsFrom optimize traced mode
        ((start tree jobs).follow optimize traced mode looked).tree tree := by
  obtain ⟨looked, read, early, -, waits, ⟨before, held, ahead⟩, follows⟩ := exists_moments assigned
  have same : before.job = assignment.job :=
    Option.some.inj ((job_of_assigned held).symm.trans (job_of_assigned assigned))
  have unchanged := read?_source independent held ahead
  rw [same] at unchanged
  exact ⟨looked, early, waits, follows.of_transformed (Job.transformed_eq_of_read? unchanged.symm)⟩

/-- A run that leaves nothing out is determined when its jobs are independent. -/
theorem determined_of_unskipped (optimize : ClassOptimizer) (traced : Bool) (schedule : List Nat)
    (independent : jobs.Pairwise (Job.Independent tree))
    (unskipped : ∀ (job : Job) (tree : FileTree), job.isSkipped mode tree = .ok false)
    (position : Nat) (assignment : Assignment)
    (assigned : ((start tree jobs).follow optimize traced mode schedule).assignments[position]?
      = some assignment) : assignment.FollowsFrom optimize traced mode tree tree := by
  obtain ⟨looked, -, -, follows⟩ := exists_followsFrom independent assigned
  exact follows.of_isSkipped ((unskipped _ _).trans (unskipped _ _).symm)

/-! ## Runs that only list -/

/-- A run that only lists has nothing to write. -/
theorem not_hasBegun_of_dryRun (dry : mode.dryRun = true) {position : Nat} {assignment : Assignment}
    (assigned : ((start tree jobs).follow optimize traced mode schedule).assignments[position]?
      = some assignment) : ¬assignment.stage.hasBegun := by
  intro begun
  obtain ⟨looked, read, -, -, -, -, follows⟩ := exists_moments assigned
  have followed := follows.stage
  have nothing {content : Bytes} {tree : FileTree}
      (gives : (assignment.job.transformed optimize traced mode tree).outcome = .ok (some content)) :
      False := by
    obtain ⟨data, purged, -, -, written⟩ := Job.transformed_eq_ok_iff.mp gives
    simp [Job.written, dry] at written
  cases stage : assignment.stage with
  | making | written =>
    rw [stage] at followed
    exact nothing followed.2
  | unwritten failure =>
    rw [stage] at followed
    obtain ⟨-, content, gives⟩ := followed
    exact nothing gives
  | waiting | cleared | skipped | standing | refused =>
    rw [stage] at begun
    cases begun

/-- A run that only lists leaves the whole tree as it was, directories and times included. -/
theorem tree_eq_of_dryRun (dry : mode.dryRun = true) (tree : FileTree) (jobs : List Job)
    (schedule : List Nat) : ((start tree jobs).follow optimize traced mode schedule).tree = tree := by
  induction schedule using List.reverseRecOn with
  | nil => rfl
  | append_singleton earlier last ih =>
    rw [follow_concat]
    rcases step_cases optimize traced mode ((start tree jobs).follow optimize traced mode earlier)
      last with same | ⟨before, after, next, held, advance, result⟩
    · rw [same, ih]
    · rw [result]
      have idle := not_hasBegun_of_dryRun dry held
      cases advance with
      | rests | cannotLook | skips | clears | reads | cannotMake | cannotWrite => exact ih
      | makes under | writes under =>
        rw [under] at idle
        exact absurd rfl idle

end Workers

end Unannotate
