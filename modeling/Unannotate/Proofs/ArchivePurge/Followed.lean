import Unannotate.Proofs.ArchivePurge.Walk

/-!
# A purge follows its walk

A purge that follows steps fails where the first of them fails and with its failure, and otherwise gives
what is computed beside it and counts what the steps count. It asks the optimizer only about the classes
that it reaches before it fails. Work that follows steps is put together as the steps are.
-/
set_option autoImplicit false

namespace Unannotate

open Archive

/-! ## Work that follows steps -/

/-- Steps and a value that belong to a piece of work, whatever it asks the optimizer. -/
structure Follows {α : Type} (optimize : ClassOptimizer) (steps : List PurgeStep)
    (work : ClassOptimizer → Work α) (value : Option α) : Prop where
  fails : ∀ failure, firstFailure? optimize steps = some failure →
    (work optimize).outcome = .error failure
  succeeds : firstFailure? optimize steps = none → ∃ given, value = some given ∧
    (work optimize).outcome = .ok given ∧ (work optimize).journal.summary = tally optimize steps
  depends : ∀ other : ClassOptimizer,
    (∀ item ∈ visits .classFile (performed optimize steps), other item.2 = optimize item.2) →
    work other = work optimize

namespace Follows

variable {α β : Type} {optimize : ClassOptimizer} {steps : List PurgeStep}
  {work : ClassOptimizer → Work α} {value : Option α}

/-- Work that takes no step of the walk. -/
theorem idle (optimize : ClassOptimizer) {done : Work α} {given : α} (gives : done.outcome = .ok given)
    (counts : done.journal.summary = {}) : Follows optimize [] (fun _ => done) (some given) where
  fails := fun _ failing => nomatch failing
  succeeds := fun _ => ⟨given, rfl, gives, counts⟩
  depends := fun _ _ => rfl

theorem stops {step : PurgeStep} {failure : Failure} (faulty : step.fault? optimize = some failure)
    (ends : (work optimize).outcome = .error (failure.addContext step.context))
    (asks : ∀ other : ClassOptimizer, (∀ item ∈ visits .classFile [step], other item.2 = optimize item.2) →
      work other = work optimize) : Follows optimize [step] work value := by
  have fails : firstFailure? optimize [step] = some (failure.addContext step.context) := by
    rw [firstFailure?_cons, PurgeStep.failure?, faulty]
    rfl
  constructor
  · intro found first
    rw [fails] at first
    cases first
    exact ends
  · intro sound
    rw [fails] at sound
    cases sound
  · intro other same
    rw [performed_singleton] at same
    exact asks other same

theorem passes {step : PurgeStep} {given : α} (sound : step.fault? optimize = none)
    (gives : (work optimize).outcome = .ok given)
    (counts : (work optimize).journal.summary = tally optimize [step])
    (asks : ∀ other : ClassOptimizer, (∀ item ∈ visits .classFile [step], other item.2 = optimize item.2) →
      work other = work optimize) : Follows optimize [step] work (some given) := by
  have none : firstFailure? optimize [step] = none := by
    rw [firstFailure?_cons, PurgeStep.failure?, sound]
    rfl
  constructor
  · intro found first
    rw [none] at first
    cases first
  · exact fun _ => ⟨given, rfl, gives, counts⟩
  · intro other same
    rw [performed_singleton] at same
    exact asks other same

theorem bind {others : List PurgeStep} {next : ClassOptimizer → α → Work β} {result : Option β}
    (first : Follows optimize steps work value)
    (second : ∀ given, value = some given →
      Follows optimize others (fun optimizer => next optimizer given) result) :
    Follows optimize (steps ++ others) (fun optimizer => work optimizer >>= next optimizer) result := by
  constructor
  · intro failure failing
    rw [firstFailure?_append] at failing
    cases here : firstFailure? optimize steps with
    | some stop =>
      rw [here, Option.some_or] at failing
      cases failing
      rw [Work.bind_of_error (first.fails _ here)]
    | none =>
      rw [here, Option.none_or] at failing
      obtain ⟨given, found, gives, -⟩ := first.succeeds here
      rw [Work.bind_of_ok gives]
      exact (second given found).fails failure failing
  · intro sound
    rw [firstFailure?_append, Option.or_eq_none_iff] at sound
    obtain ⟨given, found, gives, counts⟩ := first.succeeds sound.1
    obtain ⟨last, value, finishes, more⟩ := (second given found).succeeds sound.2
    refine ⟨last, value, ?_, ?_⟩
    · rw [Work.bind_of_ok gives]
      exact finishes
    · rw [Work.bind_of_ok gives, tally_append, ← counts, ← more]
      rfl
  · intro other same
    cases here : firstFailure? optimize steps with
    | some stop =>
      rw [performed_append_of_some here] at same
      simp only [first.depends other same, Work.bind_of_error (first.fails _ here)]
    | none =>
      rw [performed_append_of_none here, visits_append] at same
      simp only [List.mem_append] at same
      have early : work other = work optimize := by
        refine first.depends other fun item member => same item (.inl ?_)
        rwa [performed_of_none here] at member
      obtain ⟨given, found, gives, -⟩ := first.succeeds here
      have late := (second given found).depends other fun item member => same item (.inr member)
      simp only [early, Work.bind_of_ok gives, late]

/-- What comes after the steps, and takes none. -/
theorem andThen {next : α → Work β} {result : Option β} (first : Follows optimize steps work value)
    (rest : ∀ given, value = some given →
      Follows optimize [] (fun _ => next given) result) :
    Follows optimize steps (fun optimizer => work optimizer >>= next) result := by
  have whole := first.bind rest
  rwa [List.append_nil] at whole

/-- What comes before the steps, and takes none. -/
theorem after {done : Work α} {given : α} {next : ClassOptimizer → α → Work β} {result : Option β}
    (gives : done.outcome = .ok given) (counts : done.journal.summary = {})
    (rest : Follows optimize steps (fun optimizer => next optimizer given) result) :
    Follows optimize steps (fun optimizer => done >>= next optimizer) result := by
  refine (idle optimize gives counts).bind fun value same => ?_
  cases same
  exact rest

/-- A step in front that passes, and that neither counts nor asks the optimizer. -/
theorem behind {step : PurgeStep} (sound : step.fault? optimize = none)
    (silent : ∀ kind, step.visit? kind = none)
    (rest : Follows optimize steps work value) : Follows optimize (step :: steps) work value := by
  have front : Follows optimize [step] (fun _ => pure ()) (some ()) := by
    refine passes sound rfl ?_ fun _ _ => rfl
    simp [tally, visits, silent]
    rfl
  have whole : Follows optimize ([step] ++ steps) (fun optimizer => pure () >>= fun _ => work optimizer)
      value := front.bind fun _ _ => rest
  simp only [pure_bind] at whole
  exact whole

theorem inSpan (first : Follows optimize steps work value) (traced : Bool) (label : SpanLabel) :
    Follows optimize steps (fun optimizer => Work.inSpan traced label (work optimizer)) value := by
  refine ⟨?_, ?_, fun other same => congrArg (Work.inSpan traced label) (first.depends other same)⟩
  · intro failure failing
    rw [Work.outcome_inSpan]
    exact first.fails failure failing
  · intro sound
    rw [Work.outcome_inSpan, Work.summary_inSpan]
    exact first.succeeds sound

theorem each (items : List β) {step : β → List PurgeStep} {work : ClassOptimizer → β → Work α}
    {value : β → Option α}
    (every : ∀ item, Follows optimize (step item) (fun optimizer => work optimizer item) (value item)) :
    Follows optimize (items.flatMap step) (fun optimizer => Work.each items (work optimizer))
      (some (items.filterMap value)) := by
  induction items with
  | nil => exact idle optimize rfl rfl
  | cons item rest ih =>
    refine (every item).bind fun given found => ih.andThen fun values same => ?_
    cases same
    rw [List.filterMap_cons_some found]
    exact idle optimize rfl rfl

theorem error_iff (follows : Follows optimize steps work value) {failure : Failure} :
    (work optimize).outcome = .error failure ↔ firstFailure? optimize steps = some failure := by
  constructor
  · intro failed
    cases first : firstFailure? optimize steps with
    | none =>
      obtain ⟨_, -, gives, -⟩ := follows.succeeds first
      rw [gives] at failed
      cases failed
    | some stop =>
      rw [follows.fails stop first] at failed
      cases failed
      rfl
  · exact follows.fails failure

theorem ok_iff (follows : Follows optimize steps work value) {given : α} :
    (work optimize).outcome = .ok given ↔
      firstFailure? optimize steps = none ∧ value = some given := by
  cases first : firstFailure? optimize steps with
  | none =>
    obtain ⟨found, same, gives, -⟩ := follows.succeeds first
    rw [gives, same]
    simp
  | some stop => simp [follows.fails stop first]

theorem summary_eq (follows : Follows optimize steps work value) {given : α}
    (succeeds : (work optimize).outcome = .ok given) :
    (work optimize).journal.summary = tally optimize steps := by
  obtain ⟨-, -, -, counts⟩ := follows.succeeds (follows.ok_iff.mp succeeds).1
  exact counts

end Follows

/-! ## One class, one archive, one entry -/

section Parts

variable {optimize : ClassOptimizer} {traced : Bool} {levels : Nat} {path : List String}

theorem purgeClass_of_error {origin : String} {data : Bytes} {failure : Failure}
    (failed : optimize data = .error failure) :
    (purgeClass optimize traced origin data).outcome
      = .error (failure.addContext (.processing origin)) := by
  unfold purgeClass
  rw [failed]
  cases traced <;> rfl

theorem summary_purgeClass {origin : String} {data : Bytes} {purged : PurgedClass} {events : List Event}
    (succeeded : optimize data = .ok (purged, events)) :
    (purgeClass optimize traced origin data).journal.summary = purged.summary origin := by
  have counted (report : Work Unit) (passes : report.outcome = .ok ())
      (silent : report.journal.summary = {}) :
      (Work.count (purged.summary origin) >>= fun _ => report >>= fun _ =>
        (pure purged.bytes : Work (Option Bytes))).journal.summary = purged.summary origin := by
    rw [Work.summary_bind (Work.outcome_count _), Work.summary_bind passes, silent]
    exact Summary.append_empty _
  unfold purgeClass
  rw [succeeded]
  cases traced
  all_goals
    rw [@Work.summary_bind _ _ _ purged rfl]
    refine (Summary.empty_append _).trans ?_
    cases purged.removed.isEmpty
    · exact counted (Work.report _) rfl rfl
    · exact counted (pure ()) rfl rfl

theorem follows_purgeClass (optimize : ClassOptimizer) (traced : Bool) (path : List String)
    (content : Bytes) :
    Follows optimize [.optimizing path content]
      (fun optimizer => purgeClass optimizer traced (originOf path) content)
      (some ((purgedOf? optimize content).bind (·.bytes))) := by
  have asks (other : ClassOptimizer)
      (same : ∀ item ∈ visits .classFile [.optimizing path content], other item.2 = optimize item.2) :
      purgeClass other traced (originOf path) content
        = purgeClass optimize traced (originOf path) content := by
    have asked : other content = optimize content := same _ (List.mem_singleton.mpr rfl)
    unfold purgeClass
    rw [asked]
  cases found : optimize content with
  | error failure =>
    exact Follows.stops (by simp [PurgeStep.fault?, found]) (purgeClass_of_error found) asks
  | ok result =>
    obtain ⟨purged, events⟩ := result
    have given : purgedOf? optimize content = some purged := by
      simp [purgedOf?, found, Except.toOption]
    rw [given, Option.bind_some]
    refine Follows.passes (by simp [PurgeStep.fault?, found])
      (purgeClass_ok_iff.mpr ⟨_, _, found, rfl⟩) ?_ asks
    rw [summary_purgeClass found]
    simp [tally, visits, PurgeStep.visit?, removalLines, given, PurgedClass.summary]

/-- The first step of a purge: an archive is listed. -/
def listEntries (origin : String) (data : Bytes) : Work (Archive × Bool) := do
  let archive ← openArchive origin data
  Work.count { archives := 1 }
  match ← Work.ofArtifact (.reading origin)
      (firstEntriesOnly archive.data archive.directoryStart archive.offset) with
  | none => return (archive, false)
  | some (bytes, dropped) =>
    Work.report [.skippingDuplicates origin dropped]
    let reduced ← openArchive origin bytes
    return ({ reduced with comment := archive.comment }, true)

theorem purgeArchive_succ (optimize : ClassOptimizer) (traced : Bool) (levels : Nat) (origin : String)
    (data : Bytes) :
    purgeArchive optimize traced (levels + 1) origin data
      = Work.inSpan traced ⟨"archive.purge", [("purgeannorefs.archive", .text origin)]⟩
        (listEntries origin data >>= fun listed =>
          purgeEntries (purgeClass optimize traced) (purgeArchive optimize traced levels) origin listed.1
            listed.1.comment listed.2) := by
  rw [purgeArchive, listEntries]
  congr 1
  simp only [bind_assoc]
  refine congrArg _ (funext fun archive => congrArg _ (funext fun _ => ?_))
  rw [purgeOpened]
  refine congrArg _ (funext fun reduction => ?_)
  cases reduction with
  | none => rw [pure_bind]
  | some reduction =>
    simp only [bind_assoc, pure_bind]
    rfl

theorem outcome_listEntries (origin : String) (data : Bytes) :
    (listEntries origin data).outcome
      = (Archive.listing data).mapError fun cause => ⟨[.reading origin], cause⟩ := by
  unfold listEntries Archive.listing openArchive
  cases ofBytes data with
  | error fault => rfl
  | ok archive =>
    rw [pure_bind, Work.outcome_then rfl]
    simp only [Except.mapError, bind, Except.bind]
    cases firstEntriesOnly archive.data archive.directoryStart archive.offset with
    | error fault => rfl
    | ok reduction =>
      cases reduction with
      | none => rfl
      | some reduction =>
        obtain ⟨bytes, dropped⟩ := reduction
        simp only [Work.ofArtifact, Work.bind_pure]
        cases ofBytes bytes <;> rfl

theorem summary_listEntries {origin : String} {data : Bytes} {archive : Archive} {repeats : Bool}
    (listed : Listed data archive repeats) :
    (listEntries origin data).journal.summary = { archives := 1 } := by
  unfold listEntries openArchive
  cases listed with
  | whole opened distinct =>
    rw [opened, pure_bind, distinct]
    rfl
  | reduced opened repeats reopened =>
    rw [opened, pure_bind, repeats]
    simp only [Work.ofArtifact, bind, Work.bind_pure, reopened]
    rfl

theorem follows_listEntries (optimize : ClassOptimizer) (path : List String) (data : Bytes) :
    Follows optimize [.listing path data] (fun _ => listEntries (originOf path) data)
      (Archive.listing data).toOption := by
  have outcome := outcome_listEntries (originOf path) data
  cases found : Archive.listing data with
  | error cause =>
    rw [found] at outcome
    have faulty : PurgeStep.fault? optimize (.listing path data) = some (.ofCause cause) := by
      simp [PurgeStep.fault?, found]
    exact Follows.stops faulty outcome fun _ _ => rfl
  | ok listed =>
    rw [found] at outcome
    exact Follows.passes (by simp [PurgeStep.fault?, found]) outcome
      (summary_listEntries (listing_eq_ok_iff.mp found)) fun _ _ => rfl

/-- What a purge of the artifacts in an archive follows, at every path. -/
def FollowsWithin (optimize : ClassOptimizer) (traced : Bool) (levels : Nat) : Prop :=
  ∀ kind path data, path ≠ [] → Follows optimize (stepsOf optimize levels kind path data)
    (fun optimizer => purgeWithin optimizer traced levels kind (originOf path) data)
    (some (renewed optimize levels kind data))

theorem follows_purgeContent (inside : FollowsWithin optimize traced levels) (named : path ≠ [])
    (entry : Entry) (kind : ArtifactKind) (compression : Compression) (stored : Bytes) :
    Follows optimize
      (.reading (path ++ [entry.name]) entry compression stored ::
        match entry.content? compression stored with
        | some content => stepsOf optimize levels kind (path ++ [entry.name]) content
        | none => [])
      (fun optimizer => purgeContent (purgeWithin optimizer traced levels kind)
        (originOf path ++ ":" ++ entry.name) entry compression stored)
      (some (match (entry.content? compression stored).bind (renewed optimize levels kind) with
        | some new => (entry.withContent compression entry.keptFields.1 new, true)
        | none => (entry.copied compression stored, false))) := by
  rw [← originOf_within named]
  unfold purgeContent readContent
  cases read : entry.content? compression stored with
  | none =>
    have faulty : PurgeStep.fault? optimize (.reading (path ++ [entry.name]) entry compression stored)
        = some (.ofCause .io) := by simp [PurgeStep.fault?, read]
    exact Follows.stops faulty rfl fun _ _ => rfl
  | some content =>
    refine Follows.behind (by simp [PurgeStep.fault?, read]) (fun _ => rfl) ?_
    refine Follows.after rfl rfl (Follows.after rfl rfl ?_)
    refine (inside kind _ content (by simp)).andThen fun result same => ?_
    cases same
    rw [Option.bind_some]
    cases renewed optimize levels kind content <;> exact Follows.idle optimize rfl rfl

theorem follows_purgeEntry (inside : FollowsWithin optimize traced levels) (named : path ≠ [])
    (archive : Archive) (item : Entry × Nat) :
    Follows optimize (entrySteps (stepsOf optimize levels) path archive item)
      (fun optimizer => purgeEntry (purgeClass optimizer traced) (purgeArchive optimizer traced levels)
        (originOf path) archive item)
      (entryAfter? (renewed optimize levels) archive item.1) := by
  obtain ⟨entry, index⟩ := item
  simp only [entrySteps, purgeEntry, entryAfter?]
  cases opened : archive.open? entry with
  | none =>
    have faulty : PurgeStep.fault? optimize (.opening path archive entry index)
        = some (.ofCause (.malformed .unreadableArchive)) := by simp [PurgeStep.fault?, opened]
    exact Follows.stops faulty rfl fun _ _ => rfl
  | some kept =>
    obtain ⟨compression, stored⟩ := kept
    refine Follows.behind (by simp [PurgeStep.fault?, opened]) (fun _ => rfl) ?_
    cases entry.artifact? with
    | none => exact Follows.idle optimize rfl rfl
    | some kind =>
      have content := follows_purgeContent inside named entry kind compression stored
      cases kind <;> exact content

theorem follows_purgeEntries (inside : FollowsWithin optimize traced levels) (named : path ≠ [])
    (archive : Archive) (repeats : Bool) {purged : List PurgedEntry}
    (after : purged = archive.entries.filterMap (entryAfter? (renewed optimize levels) archive)) :
    Follows optimize
      (archive.entries.zipIdx.flatMap (entrySteps (stepsOf optimize levels) path archive) ++
        if repeats || purged.any (·.2) then [.writing path (purged.map (·.1)) archive.comment] else [])
      (fun optimizer => purgeEntries (purgeClass optimizer traced)
        (purgeArchive optimizer traced levels) (originOf path) archive archive.comment repeats)
      (some (if repeats || purged.any (·.2) then encode? (purged.map (·.1)) archive.comment
        else none)) := by
  have every := Follows.each archive.entries.zipIdx (follows_purgeEntry inside named archive)
  refine every.bind fun values same => ?_
  have listed : values = purged := by
    rw [after, ← List.zipIdx_map_fst 0 archive.entries, List.filterMap_map]
    exact (Option.some_inj.mp same).symm
  subst listed
  by_cases changed : repeats || values.any (·.2)
  · simp only [if_pos changed]
    refine Follows.after rfl rfl ?_
    cases encoded : encode? (values.map (·.1)) archive.comment with
    | none =>
      have faulty : PurgeStep.fault? optimize (.writing path (values.map (·.1)) archive.comment)
          = some (.ofCause (.malformed .archiveTooLarge)) := by simp [PurgeStep.fault?, encoded]
      exact Follows.stops faulty rfl fun _ _ => rfl
    | some bytes => exact Follows.passes (by simp [PurgeStep.fault?, encoded]) rfl rfl fun _ _ => rfl
  · simp only [if_neg changed]
    exact Follows.idle optimize rfl rfl

theorem followsWithin (optimize : ClassOptimizer) (traced : Bool) (levels : Nat) :
    FollowsWithin optimize traced levels := by
  induction levels with
  | zero =>
    intro kind path data named
    cases kind with
    | classFile => exact follows_purgeClass optimize traced path data
    | archive => exact Follows.stops rfl rfl fun _ _ => rfl
  | succ levels ih =>
    intro kind path data named
    cases kind with
    | classFile => exact follows_purgeClass optimize traced path data
    | archive =>
      simp only [purgeWithin, purgeArchive_succ]
      refine Follows.inSpan ?_ _ _
      refine (follows_listEntries optimize path data).bind fun listed found => ?_
      have given : Archive.listing data = .ok listed := by
        cases listing : Archive.listing data with
        | error cause =>
          rw [listing] at found
          cases found
        | ok pair =>
          rw [listing] at found
          exact congrArg Except.ok (Option.some_inj.mp found)
      simp only [renewed, given]
      exact follows_purgeEntries ih named listed.1 listed.2 rfl

/-- The walk begins at the origin that the purge is given. -/
theorem follows_purgeWithin (optimize : ClassOptimizer) (traced : Bool) (levels : Nat)
    (kind : ArtifactKind) (origin : String) (data : Bytes) :
    Follows optimize (stepsOf optimize levels kind [origin] data)
      (fun optimizer => purgeWithin optimizer traced levels kind origin data)
      (some (renewed optimize levels kind data)) := by
  have follows := followsWithin optimize traced levels kind [origin] data (List.cons_ne_nil _ _)
  rwa [originOf_singleton] at follows

end Parts

section Artifacts

variable {optimize : ClassOptimizer} {traced : Bool} {kind : ArtifactKind} {origin : String} {data : Bytes}

theorem purgeArtifact_eq_purgeWithin :
    purgeArtifact optimize traced kind = purgeWithin optimize traced maxNesting kind := by
  cases kind <;> rfl

/-- A purge counts what its steps count. -/
theorem summary_purgeArtifact {result : Option Bytes}
    (succeeds : (purgeArtifact optimize traced kind origin data).outcome = .ok result) :
    (purgeArtifact optimize traced kind origin data).journal.summary
      = tally optimize (stepsOf optimize maxNesting kind [origin] data) := by
  rw [purgeArtifact_eq_purgeWithin] at succeeds ⊢
  exact (follows_purgeWithin optimize traced maxNesting kind origin data).summary_eq succeeds

end Artifacts

end Unannotate
