import Unannotate.Proofs.Workers.Foreseen

/-!
# Planned jobs

A plan refuses two destinations that are spelled alike, so no two of its jobs have the same one as a path,
`destinations_differ`. What it does not see is that paths that are spelled in different ways may lead to the
same file, and that a file that one job writes may be one that another job reads. Where neither is the case,
and nothing but files stands where jobs read and write, all orders in which the steps of the jobs can come
lead to the same files and the same summary, `planned_jobs_agree`.
-/
set_option autoImplicit false

namespace Unannotate

variable {optimize : ClassOptimizer} {traced : Bool} {mode : WriteMode}

/-! ## What a plan refuses -/

namespace Job

theorem collision?_eq_none_iff {earlier jobs : List Job} : collision? earlier jobs = none ↔
    jobs.Pairwise (fun first second => first.destination.same second.destination = false) ∧
      ∀ first ∈ earlier, ∀ second ∈ jobs, first.destination.same second.destination = false := by
  induction jobs generalizing earlier with
  | nil => simp [collision?]
  | cons job rest ih =>
    unfold collision?
    cases found : earlier.find? (·.destination.same job.destination) with
    | some other =>
      have same := List.find?_some found
      have known := List.mem_of_find?_eq_some found
      refine iff_of_false (by simp) ?_
      rintro ⟨-, differ⟩
      rw [differ other known job List.mem_cons_self] at same
      cases same
    | none =>
      have fresh : ∀ first ∈ earlier, first.destination.same job.destination = false := by
        simpa using found
      simp only [ih, List.pairwise_cons, List.mem_cons, forall_eq_or_imp]
      constructor
      · rintro ⟨pairs, ahead, later⟩
        exact ⟨⟨ahead, pairs⟩, fun first known => ⟨fresh first known, later first known⟩⟩
      · rintro ⟨⟨ahead, pairs⟩, later⟩
        exact ⟨pairs, ahead, fun first known => (later first known).2⟩

section Plan

variable {tree : FileTree} {inputs : List Path} {target : Option Path} {input : Path} {jobs : List Job}
  {job : Job}

/-- A planned job is for a file below an input directory, or for an input that is a file itself. -/
theorem of_mem_ofInput (gives : (ofInput tree target input).outcome = .ok jobs)
    (member : job ∈ jobs) :
    (∃ names, names ∈ tree.filesBelow (tree.placeOf input) ∧
      isBelowTarget target input names = false ∧ ofFileBelow? target input names = some job) ∨
    ofLooseFile? target input = some job := by
  unfold ofInput at gives
  split at gives
  · cases gives
  · next place leads =>
    rw [FileTree.resolve?_eq_placeOf leads] at gives
    split at gives
    · cases gives
    · cases gives
      obtain ⟨names, kept, planned⟩ := List.mem_filterMap.mp member
      obtain ⟨listed, beside⟩ := List.mem_filter.mp kept
      exact .inl ⟨names, listed, by simpa using beside, planned⟩
    · split at gives
      · next planned =>
        cases gives
        obtain rfl := List.mem_singleton.mp member
        exact .inr planned
      · cases gives
        cases member

theorem destination_of_ofInput (gives : (ofInput tree target input).outcome = .ok jobs)
    (member : job ∈ jobs) : ∃ names, job.destination = destinationOf target job.source names := by
  obtain ⟨names, -, -, planned⟩ | planned := of_mem_ofInput gives member
  all_goals
    obtain ⟨name, -, planned⟩ := Option.bind_eq_some_iff.mp planned
    obtain ⟨kind, -, planned⟩ := Option.bind_eq_some_iff.mp planned
    cases planned
    exact ⟨_, rfl⟩

theorem plan_eq_ok (planned : (plan tree inputs target).outcome = .ok jobs) :
    collision? [] jobs = none ∧ ∀ job ∈ jobs, ∃ input ∈ inputs, ∃ list,
      (ofInput tree target input).outcome = .ok list ∧ job ∈ list := by
  obtain ⟨lists, each, rest⟩ := Work.bind_ok_iff.mp planned
  have clear : collision? [] lists.flatten = none ∧ lists.flatten = jobs := by
    dsimp only at rest
    split at rest
    next clear =>
      cases rest
      exact ⟨clear, rfl⟩
    next => cases rest
  obtain ⟨clear, rfl⟩ := clear
  refine ⟨clear, fun job member => ?_⟩
  obtain ⟨list, listed, member⟩ := List.mem_flatten.mp member
  obtain ⟨input, inInputs, gives⟩ := exists_related_of_mem (Work.each_ok_iff.mp each).flip listed
  exact ⟨input, inInputs, list, gives, member⟩

/-- The destinations of planned jobs differ as paths, and without a target every job is in place. -/
theorem destinations_of_plan (planned : (plan tree inputs target).outcome = .ok jobs) :
    jobs.Pairwise (fun first second => first.destination.same second.destination = false) ∧
      (target = none → ∀ job ∈ jobs, job.destination = job.source) := by
  obtain ⟨clear, origins⟩ := plan_eq_ok planned
  refine ⟨(collision?_eq_none_iff.mp clear).1, ?_⟩
  rintro rfl job member
  obtain ⟨input, -, list, gives, member⟩ := origins job member
  obtain ⟨names, destination⟩ := destination_of_ofInput gives member
  exact destination

end Plan

end Job

/-- The destinations of a plan differ as paths. When paths that lead to the same place are spelled alike,
and no job writes where another one reads, the jobs stay out of each other's way, and when they are foreseen
the run does the same in every order of their steps. -/
theorem planned_jobs_agree (optimize : ClassOptimizer) (traced : Bool) (mode : WriteMode) (tree : FileTree)
    (inputs : List Path) (target : Option Path) (jobs : List Job)
    (planned : (Job.plan tree inputs target).outcome = .ok jobs) :
    jobs.Pairwise (fun first second => first.destination.same second.destination = false) ∧
    ((∀ first ∈ jobs, ∀ second ∈ jobs, tree.placeOf first.destination = tree.placeOf second.destination →
        first.destination.same second.destination) →
      (target ≠ none → jobs.Pairwise fun first second =>
        tree.placeOf first.destination ≠ tree.placeOf second.source ∧
          tree.placeOf second.destination ≠ tree.placeOf first.source) →
      jobs.Pairwise (Job.Apart tree) ∧
      (tree.lookup? tree.base = some .directory → (∀ job ∈ jobs, job.Foreseen tree jobs) →
        ∀ first second,
        let one := (Workers.start tree jobs).follow optimize traced mode first
        let two := (Workers.start tree jobs).follow optimize traced mode second
        one.Finished → two.Finished →
        (one.Fails ↔ two.Fails) ∧
          (¬one.Fails → one.summary = two.summary ∧
            ∀ place, one.tree.content? place = two.tree.content? place))) := by
  obtain ⟨differ, inPlace⟩ := Job.destinations_of_plan planned
  refine ⟨differ, fun alike unread => ?_⟩
  have written : jobs.Pairwise fun first second =>
      tree.placeOf first.destination ≠ tree.placeOf second.destination := by
    refine differ.imp_of_mem fun {first second} one two different same => ?_
    rw [alike first one second two same] at different
    cases different
  have apart : jobs.Pairwise (Job.Apart tree) := by
    by_cases loose : target = none
    · refine written.imp_of_mem fun {first second} one two different => ⟨different, ?_, ?_⟩
      · rwa [← inPlace loose second two]
      · rw [← inPlace loose first one]
        exact different.symm
    · exact (written.and (unread loose)).imp fun both => ⟨both.1, both.2.1, both.2.2⟩
  refine ⟨apart, ?_⟩
  intro based foreseen first second one two finished ended
  exact Workers.schedules_agree based apart foreseen first second finished ended

/-- Two classes that go to one directory, one job after the other and step by step in turn. -/
theorem planned_jobs_agree_copied :
    let jobs : List Job := [⟨⟨"A.class"⟩, ⟨"out/A.class"⟩, .classFile⟩,
      ⟨⟨"C.class"⟩, ⟨"out/C.class"⟩, .classFile⟩]
    let one := (Workers.start copied jobs).follow dropping false {} [0, 0, 0, 0, 1, 1, 1, 1]
    let two := (Workers.start copied jobs).follow dropping false {} [1, 0, 0, 1, 1, 0, 1, 0]
    (Job.plan copied [⟨"A.class"⟩, ⟨"C.class"⟩] (some ⟨"out"⟩)).outcome = .ok jobs ∧ ¬one.Fails ∧
      one.summary = two.summary ∧ ∀ place, one.tree.content? place = two.tree.content? place := by
  intro jobs one two
  have planned : (Job.plan copied [⟨"A.class"⟩, ⟨"C.class"⟩] (some ⟨"out"⟩)).outcome = .ok jobs := by
    decide +kernel
  have succeeds : ¬one.Fails := by decide +kernel
  have foreseen : ∀ job ∈ jobs, job.Foreseen copied jobs := by
    rw [List.forall_mem_cons, List.forall_mem_singleton]
    constructor
    · exact ⟨⟨[7], 1, by decide +kernel⟩, .inr (by decide +kernel)⟩
    · exact ⟨⟨[], 1, by decide +kernel⟩, .inr (by decide +kernel)⟩
  obtain ⟨-, agree⟩ := (planned_jobs_agree dropping false {} copied _ _ jobs planned).2
    (by decide +kernel) (fun _ => by decide +kernel)
  exact ⟨planned, succeeds, (agree rfl foreseen _ _ (by decide +kernel) (by decide +kernel)).2 succeeds⟩

/-! ## What a plan does not refuse -/

/-- A class, and an older one where its purged copy goes. -/
def outdated : FileTree where
  entries := [(["A.class"], .file [7] 1), (["out"], .directory), (["out", "A.class"], .file [9] 0)]
  clock := 2

/-- Every class stays as it is. -/
def unchanging : ClassOptimizer := fun _ => .ok (⟨"A", none, []⟩, [])

/-- The plan for one directory, given what it lists. -/
theorem Job.plan_directory {tree : FileTree} {input : Path} {target : Option Path} {place : Place}
    {files : List Place} {jobs : List Job} (leads : tree.resolve? input = some place)
    (stands : tree.lookup? place = some .directory) (listed : tree.filesBelow place = files)
    (made : (files.filter fun names => !isBelowTarget target input names).filterMap
      (ofFileBelow? target input) = jobs)
    (clear : collision? [] jobs = none) : (plan tree [input] target).outcome = .ok jobs := by
  have gives : ofInput tree target input = pure jobs := by
    unfold ofInput
    simp only [leads, stands, listed, made]
  have each : (Work.each [input] (ofInput tree target)).outcome = .ok [jobs] :=
    Work.each_ok_iff.mpr (.cons (congrArg Work.outcome gives) .nil)
  refine Work.bind_ok_iff.mpr ⟨[jobs], each, ?_⟩
  simp only [List.flatten_singleton, clear]
  rfl

/-- The target is spelled in another way than where it stands among the inputs. -/
theorem plan_outdated : (Job.plan outdated [⟨"."⟩] (some ⟨"out"⟩)).outcome
    = .ok [⟨⟨"./A.class"⟩, ⟨"out/A.class"⟩, .classFile⟩,
        ⟨⟨"./out/A.class"⟩, ⟨"out/out/A.class"⟩, .classFile⟩] := by
  have files : outdated.filesBelow [] = [["A.class"], ["out", "A.class"]] := by
    refine (List.mergeSort_of_pairwise ?_).trans (by decide +kernel)
    decide +kernel
  have here : outdated.resolve? ⟨"."⟩ = some [] := by decide +kernel
  exact Job.plan_directory here rfl files (by decide +kernel) (by decide +kernel)

/-- A class that is named in two ways is purged in place twice, and is counted once or twice. And a directory
that holds the target is not seen to hold it, so a copy is taken of what was there before or of what the
other job has written there. -/
theorem planned_jobs_disagree :
    (∃ jobs first second, (Job.plan outdated [⟨"A.class"⟩, ⟨"./A.class"⟩] none).outcome = .ok jobs ∧
      let one := (Workers.start outdated jobs).follow dropping false {} first
      let two := (Workers.start outdated jobs).follow dropping false {} second
      one.Finished ∧ two.Finished ∧ ¬one.Fails ∧ ¬two.Fails ∧ one.summary ≠ two.summary) ∧
    ∃ jobs first second, (Job.plan outdated [⟨"."⟩] (some ⟨"out"⟩)).outcome = .ok jobs ∧
      let one := (Workers.start outdated jobs).follow unchanging false { overwrite := true } first
      let two := (Workers.start outdated jobs).follow unchanging false { overwrite := true } second
      one.Finished ∧ two.Finished ∧ ¬one.Fails ∧ ¬two.Fails ∧
        one.tree.content? ["out", "out", "A.class"] ≠ two.tree.content? ["out", "out", "A.class"] := by
  constructor
  · exact ⟨[⟨⟨"A.class"⟩, ⟨"A.class"⟩, .classFile⟩, ⟨⟨"./A.class"⟩, ⟨"./A.class"⟩, .classFile⟩],
      [0, 0, 0, 1, 1], [0, 0, 1, 1, 0, 1, 1], by decide +kernel⟩
  · exact ⟨_, [0, 0, 0, 0, 1, 1, 1, 1, 1], [1, 1, 1, 1, 1, 0, 0, 0, 0], plan_outdated,
      by decide +kernel⟩

end Unannotate
