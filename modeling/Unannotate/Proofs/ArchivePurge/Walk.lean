import Unannotate.Proofs.ArchivePurge.Untouched

/-!
# The walk over an archive

A purge takes one step after another: it lists an archive, opens an entry, reads its content, hands a
class to the optimizer, goes down into an inner archive, and writes an archive again where anything in it
has changed. Here the steps of a whole walk are laid out, whether they fail or not, and the purge is the
first part of them: it ends at the first step that fails, and what it counts is what the steps count.
-/
set_option autoImplicit false

namespace Unannotate

open Archive

/-! ## Paths -/

/-- Where something stands, given the names that lead to it from outside. -/
def originOf (path : List String) : String := ":".intercalate path

theorem originOf_singleton (origin : String) : originOf [origin] = origin :=
  String.intercalate_singleton

theorem originOf_within {path : List String} (named : path ≠ []) (name : String) :
    originOf (path ++ [name]) = originOf path ++ ":" ++ name := by
  rw [originOf, String.intercalate_append_of_ne_nil named (List.cons_ne_nil _ _),
    String.intercalate_singleton, originOf]

/-! ## Steps -/

inductive PurgeStep
  /-- An archive is opened, and opened again without the names that repeat. -/
  | listing (path : List String) (data : Bytes)
  /-- An archive is left alone because archives nest too deeply. -/
  | limit (path : List String)
  | opening (path : List String) (archive : Archive) (entry : Entry) (index : Nat)
  | reading (path : List String) (entry : Entry) (compression : Compression) (stored : Bytes)
  | optimizing (path : List String) (content : Bytes)
  | writing (path : List String) (entries : List NewEntry) (comment : Bytes)

/-- The archive whose entries are gone through, and whether names repeat in it. -/
def Archive.listing (data : Bytes) : Except Cause (Archive × Bool) := do
  let archive ← (ofBytes data).mapError ArchiveFault.cause
  match ← (firstEntriesOnly archive.data archive.directoryStart archive.offset).mapError
      Cause.malformed with
  | none => return (archive, false)
  | some (bytes, _) =>
    let reduced ← (ofBytes bytes).mapError ArchiveFault.cause
    return ({ reduced with comment := archive.comment }, true)

theorem Archive.listing_eq_ok_iff {data : Bytes} {archive : Archive} {repeats : Bool} :
    listing data = .ok (archive, repeats) ↔ Listed data archive repeats := by
  constructor
  · intro found
    unfold listing at found
    obtain ⟨whole, opened, rest⟩ := outcome_bind_ok_iff.mp found
    obtain ⟨reduction, first, rest⟩ := outcome_bind_ok_iff.mp rest
    rw [mapError_eq_ok_iff] at opened first
    cases reduction with
    | none =>
      cases rest
      exact .whole opened first
    | some reduction =>
      obtain ⟨bytes, dropped⟩ := reduction
      obtain ⟨reduced, reopened, rest⟩ := outcome_bind_ok_iff.mp rest
      rw [mapError_eq_ok_iff] at reopened
      cases rest
      exact .reduced opened first reopened
  · intro listed
    cases listed with
    | whole opened distinct =>
      unfold listing
      rw [opened]
      simp only [Except.mapError, bind, Except.bind, distinct]
      rfl
    | reduced opened repeats reopened =>
      unfold listing
      rw [opened]
      simp only [Except.mapError, bind, Except.bind, repeats, reopened]
      rfl

namespace PurgeStep

def path : PurgeStep → List String
  | listing path _ | limit path | opening path _ _ _ | reading path _ _ _ | optimizing path _
  | writing path _ _ => path

/-- What is said in front of a failure of the step. -/
def context (step : PurgeStep) : Context :=
  match step with
  | listing _ _ | limit _ | reading _ _ _ _ => .reading (originOf step.path)
  | opening _ _ _ index => .readingEntry (originOf step.path) index
  | optimizing _ _ => .processing (originOf step.path)
  | writing _ _ _ => .writing (originOf step.path)

/-- Why the step fails, if it does. -/
def fault? (optimize : ClassOptimizer) : PurgeStep → Option Failure
  | listing _ data =>
    match Archive.listing data with
    | .ok _ => none
    | .error cause => some (.ofCause cause)
  | limit _ => some (.ofCause .nestingLimit)
  | opening _ archive entry _ =>
    if (archive.open? entry).isSome then none else some (.ofCause (.malformed .unreadableArchive))
  | reading _ entry compression stored =>
    if (entry.content? compression stored).isSome then none else some (.ofCause .io)
  | optimizing _ content =>
    match optimize content with
    | .ok _ => none
    | .error failure => some failure
  | writing _ entries comment =>
    if (encode? entries comment).isSome then none else some (.ofCause (.malformed .archiveTooLarge))

def failure? (optimize : ClassOptimizer) (step : PurgeStep) : Option Failure :=
  (step.fault? optimize).map (·.addContext step.context)

theorem head?_contexts {optimize : ClassOptimizer} {step : PurgeStep} {failure : Failure}
    (fails : step.failure? optimize = some failure) : failure.contexts.head? = some step.context := by
  obtain ⟨_, -, rfl⟩ := Option.map_eq_some_iff.mp fails
  rfl

/-- The artifact that the step begins with, with its path: an archive that is listed, or a class that is
handed to the optimizer. -/
def visit? (kind : ArtifactKind) : PurgeStep → Option (List String × Bytes)
  | listing path data => if kind = .archive then some (path, data) else none
  | optimizing path content => if kind = .classFile then some (path, content) else none
  | limit _ | opening _ _ _ _ | reading _ _ _ _ | writing _ _ _ => none

def visiting : ArtifactKind → List String → Bytes → PurgeStep
  | .archive => listing
  | .classFile => optimizing

theorem visit?_eq_some_iff {kind : ArtifactKind} {step : PurgeStep} {path : List String}
    {content : Bytes} : step.visit? kind = some (path, content) ↔ step = visiting kind path content := by
  cases kind <;> cases step <;> simp [visit?, visiting]

end PurgeStep

/-- The artifacts of a kind that steps begin with, in order. -/
def visits (kind : ArtifactKind) (steps : List PurgeStep) : List (List String × Bytes) :=
  steps.filterMap (PurgeStep.visit? kind)

def firstFailure? (optimize : ClassOptimizer) (steps : List PurgeStep) : Option Failure :=
  steps.findSome? (PurgeStep.failure? optimize)

/-- The steps up to the first that fails. -/
def performed (optimize : ClassOptimizer) : List PurgeStep → List PurgeStep
  | [] => []
  | step :: rest =>
    if (step.failure? optimize).isSome then [step] else step :: performed optimize rest

section Steps

variable {optimize : ClassOptimizer} {steps others : List PurgeStep}

theorem firstFailure?_append (steps others : List PurgeStep) :
    firstFailure? optimize (steps ++ others)
      = (firstFailure? optimize steps).or (firstFailure? optimize others) :=
  List.findSome?_append

theorem firstFailure?_cons (step : PurgeStep) (steps : List PurgeStep) :
    firstFailure? optimize (step :: steps)
      = (step.failure? optimize).or (firstFailure? optimize steps) := by
  rw [firstFailure?, List.findSome?_cons]
  cases step.failure? optimize <;> rfl

theorem mem_visits {kind : ArtifactKind} {path : List String} {content : Bytes} :
    (path, content) ∈ visits kind steps ↔ .visiting kind path content ∈ steps := by
  simp [visits, List.mem_filterMap, PurgeStep.visit?_eq_some_iff]

theorem visits_append (kind : ArtifactKind) (steps others : List PurgeStep) :
    visits kind (steps ++ others) = visits kind steps ++ visits kind others := List.filterMap_append

theorem performed_append_of_none (sound : firstFailure? optimize steps = none) :
    performed optimize (steps ++ others) = steps ++ performed optimize others := by
  induction steps with
  | nil => rfl
  | cons step rest ih =>
    rw [firstFailure?_cons, Option.or_eq_none_iff] at sound
    rw [List.cons_append, performed, sound.1, ih sound.2]
    rfl

theorem performed_append_of_some {failure : Failure}
    (failing : firstFailure? optimize steps = some failure) :
    performed optimize (steps ++ others) = performed optimize steps := by
  induction steps with
  | nil => cases failing
  | cons step rest ih =>
    rw [List.cons_append, performed, performed]
    cases fails : step.failure? optimize with
    | some _ => rfl
    | none =>
      rw [firstFailure?_cons, fails, Option.none_or] at failing
      simp only [Option.isSome_none, Bool.false_eq_true, if_false, ih failing]

theorem performed_of_none (sound : firstFailure? optimize steps = none) :
    performed optimize steps = steps := by
  have whole := @performed_append_of_none optimize steps [] sound
  rwa [List.append_nil, performed, List.append_nil] at whole

theorem performed_singleton (step : PurgeStep) : performed optimize [step] = [step] := by
  rw [performed, performed]
  split <;> rfl

theorem firstFailure?_eq_none_iff :
    firstFailure? optimize steps = none ↔ ∀ step ∈ steps, step.failure? optimize = none :=
  List.findSome?_eq_none_iff

/-- The step that fails first, with what was done before it. -/
theorem firstFailure?_eq_some_iff {failure : Failure} :
    firstFailure? optimize steps = some failure ↔ ∃ front step back, steps = front ++ step :: back ∧
      (∀ earlier ∈ front, earlier.failure? optimize = none) ∧ step.failure? optimize = some failure := by
  rw [firstFailure?, List.findSome?_eq_some_iff]
  constructor
  · rintro ⟨front, step, back, shape, fails, sound⟩
    exact ⟨front, step, back, shape, sound, fails⟩
  · rintro ⟨front, step, back, shape, sound, fails⟩
    exact ⟨front, step, back, shape, fails, sound⟩

theorem performed_eq {front back : List PurgeStep} {step : PurgeStep}
    (sound : ∀ earlier ∈ front, earlier.failure? optimize = none)
    (fails : (step.failure? optimize).isSome) :
    performed optimize (front ++ step :: back) = front ++ [step] := by
  rw [performed_append_of_none (firstFailure?_eq_none_iff.mpr sound), performed, if_pos fails]

end Steps

/-! ## What steps count -/

def purgedOf? (optimize : ClassOptimizer) (content : Bytes) : Option PurgedClass :=
  (optimize content).toOption.map Prod.fst

def removalLines (optimize : ClassOptimizer) (path : List String) (content : Bytes) : List String :=
  (((purgedOf? optimize content).map (·.removed)).getD []).map fun removal =>
    originOf path ++ ": " ++ removal.description

def tally (optimize : ClassOptimizer) (steps : List PurgeStep) : Summary :=
  let classes := visits .classFile steps
  { archives := (visits .archive steps).length
    classes := classes.length
    changedClasses := classes.countP fun item => (purgedOf? optimize item.2).any (·.bytes.isSome)
    removals := classes.flatMap fun item => removalLines optimize item.1 item.2 }

theorem tally_append (optimize : ClassOptimizer) (steps others : List PurgeStep) :
    tally optimize (steps ++ others) = tally optimize steps ++ tally optimize others := by
  simp [tally, visits_append, Summary.append_def]

/-! ## The walk -/

/-- What an entry becomes, given what becomes of the content of an artifact. -/
def entryAfter? (renew : ArtifactKind → Bytes → Option Bytes) (archive : Archive) (entry : Entry) :
    Option PurgedEntry :=
  (archive.open? entry).map fun (compression, stored) =>
    match entry.artifact?.bind fun kind => (entry.content? compression stored).bind (renew kind) with
    | some new => (entry.withContent compression entry.keptFields.1 new, true)
    | none => (entry.copied compression stored, false)

/-- What replaces an artifact if every step succeeds, or none where it stands. -/
def renewed (optimize : ClassOptimizer) : (levels : Nat) → ArtifactKind → Bytes → Option Bytes
  | _, .classFile, content => (purgedOf? optimize content).bind (·.bytes)
  | 0, .archive, _ => none
  | levels + 1, .archive, data => do
    let (archive, repeats) ← (Archive.listing data).toOption
    let purged := archive.entries.filterMap (entryAfter? (renewed optimize levels) archive)
    if repeats || purged.any (·.2) then encode? (purged.map (·.1)) archive.comment else none

def entrySteps (within : ArtifactKind → List String → Bytes → List PurgeStep) (path : List String)
    (archive : Archive) (item : Entry × Nat) : List PurgeStep :=
  let (entry, index) := item
  .opening path archive entry index ::
    match archive.open? entry, entry.artifact? with
    | some (compression, stored), some kind =>
      .reading (path ++ [entry.name]) entry compression stored ::
        match entry.content? compression stored with
        | some content => within kind (path ++ [entry.name]) content
        | none => []
    | _, _ => []

/-- The steps of the walk over an artifact, depth first. -/
def stepsOf (optimize : ClassOptimizer) :
    (levels : Nat) → ArtifactKind → List String → Bytes → List PurgeStep
  | _, .classFile, path, content => [.optimizing path content]
  | 0, .archive, path, _ => [.limit path]
  | levels + 1, .archive, path, data =>
    .listing path data ::
      match Archive.listing data with
      | .error _ => []
      | .ok (archive, repeats) =>
        let purged := archive.entries.filterMap (entryAfter? (renewed optimize levels) archive)
        archive.entries.zipIdx.flatMap (entrySteps (stepsOf optimize levels) path archive) ++
          if repeats || purged.any (·.2) then [.writing path (purged.map (·.1)) archive.comment] else []

end Unannotate
