import Unannotate.Processing
import Unannotate.Proofs.ArchivePurge.Followed
import Unannotate.Proofs.ArchivePurge.Visited
import Unannotate.Proofs.Purge.OwnOutput

/-!
# How a purge ends, and what it counts

A purge of an archive fails exactly when a step of its walk fails, with the failure of the first that does
and under its path; and what it was to ask after that does not matter. When it succeeds it has counted
every archive and every class on the way once.
-/
set_option autoImplicit false

namespace Unannotate

open Archive

/-! ## Failures -/

/-- An archive of a class behind an archive of two. -/
def classBehind (content : Bytes) : Bytes :=
  packed [storedEntry "lib.jar" (packed [storedEntry "A.class" content, storedEntry "B.class" []]),
    storedEntry "C.class" content]

def refusing : ClassOptimizer := fun data =>
  if data = [] then .ok (⟨"A", none, []⟩, []) else .error ⟨[], .io⟩

set_option maxRecDepth 3000 in
/-- Two classes are refused, and the one in the inner archive comes first. -/
example : (purgeArchive refusing false 2 "app.jar" (classBehind [0])).outcome
    = .error ⟨[.processing "app.jar:lib.jar:A.class"], .io⟩ := by decide +kernel

/-! ## Counts -/

/-- A class from which something is removed does not stand unchanged. -/
def ReportsChanges (optimize : ClassOptimizer) : Prop :=
  ∀ data purged events, optimize data = .ok (purged, events) → purged.removed ≠ [] →
    purged.bytes.isSome

theorem Configuration.reportsChanges (configuration : Configuration) :
    ReportsChanges configuration.optimizer := by
  intro data purged events succeeds removes
  obtain ⟨purges, -⟩ := optimizer_eq_ok_iff.mp succeeds
  have decides : configuration.decision = fun _ => configuration.rejects := rfl
  rw [decides] at purges
  obtain ⟨file, name, part, -, -, found, rfl⟩ := PurgedClass.ofBytes_eq_ok purges
  by_cases stands : part.left (fun _ => configuration.rejects) 0 = file
  · -- What a pass leaves as it is has no point to reject.
    obtain ⟨rest, surveyed, -, noPoint⟩ := ClassFile.survey_settled configuration.rejects found
    rw [stands, found] at surveyed
    cases surveyed
    rw [PurgedClass.removed_of_judged rfl, noPoint] at removes
    exact absurd rfl removes
  · rw [if_neg stands]
    rfl

structure Summary.Consistent (optimize : ClassOptimizer) (summary : Summary) : Prop where
  changed_le : summary.changedClasses ≤ summary.classes
  changed_pos : ReportsChanges optimize → summary.removals ≠ [] → 0 < summary.changedClasses

section Counts

variable {optimize : ClassOptimizer}

theorem Summary.Consistent.append {first second : Summary} (one : first.Consistent optimize)
    (other : second.Consistent optimize) : (first ++ second).Consistent optimize := by
  constructor
  · have total := Nat.add_le_add one.changed_le other.changed_le
    exact total
  · intro reports removes
    change first.removals ++ second.removals ≠ [] at removes
    change 0 < first.changedClasses + second.changedClasses
    by_cases early : first.removals = []
    · rw [early, List.nil_append] at removes
      exact Nat.add_pos_right _ (other.changed_pos reports removes)
    · exact Nat.add_pos_left (one.changed_pos reports early) _

theorem consistent_tally (optimize : ClassOptimizer) (steps : List PurgeStep) :
    (tally optimize steps).Consistent optimize := by
  constructor
  · exact List.countP_le_length
  · intro reports removes
    obtain ⟨line, member⟩ := List.exists_mem_of_ne_nil _ removes
    obtain ⟨⟨path, content⟩, visited, removed⟩ := List.mem_flatMap.mp member
    refine List.countP_pos_iff.mpr ⟨(path, content), visited, ?_⟩
    unfold removalLines purgedOf? at removed
    unfold purgedOf?
    cases purges : optimize content with
    | error failure =>
      rw [purges] at removed
      cases removed
    | ok result =>
      obtain ⟨purged, events⟩ := result
      rw [purges] at removed
      have some : purged.removed ≠ [] := by
        rintro none
        simp [none, Except.toOption] at removed
      exact reports content purged events purges some

/-- Work that succeeds counts consistently. -/
def Work.Accounted {α : Type} (optimize : ClassOptimizer) (work : Work α) : Prop :=
  ∀ value, work.outcome = .ok value → work.journal.summary.Consistent optimize

theorem consistent_of_no_removal {summary : Summary}
    (less : summary.changedClasses ≤ summary.classes) (none : summary.removals = []) :
    summary.Consistent optimize :=
  ⟨less, fun _ removes => absurd none removes⟩

theorem Work.accounted_bind {α β : Type} {work : Work α} {next : α → Work β}
    (first : work.Accounted optimize) (second : ∀ value, (next value).Accounted optimize) :
    (work >>= next).Accounted optimize := by
  intro value succeeds
  obtain ⟨given, gives, finishes⟩ := Work.bind_ok_iff.mp succeeds
  rw [Work.summary_bind gives]
  exact (first given gives).append (second given value finishes)

variable {traced : Bool}

theorem accounted_purgeArtifact (kind : ArtifactKind) (origin : String) (data : Bytes) :
    (purgeArtifact optimize traced kind origin data).Accounted optimize := by
  intro value succeeds
  rw [summary_purgeArtifact succeeds]
  exact consistent_tally optimize _

theorem accounted_output (mode : WriteMode) (tree : FileTree) (job : Job) :
    (job.output optimize traced mode tree).Accounted optimize := by
  have silent {α : Type} (work : Work α) (counts : work.journal.summary = {}) :
      work.Accounted optimize := by
    intro _ _
    rw [counts]
    exact consistent_of_no_removal (Nat.le_refl 0) rfl
  unfold Job.output
  refine Work.accounted_bind (silent _ rfl) fun skipped => ?_
  cases skipped with
  | true =>
    refine Work.accounted_bind (silent _ rfl) fun _ => Work.accounted_bind ?_ fun _ => silent _ rfl
    exact fun _ _ => consistent_of_no_removal (Nat.le_refl 0) rfl
  | false =>
    change (job.transformed optimize traced mode tree).Accounted optimize
    refine Work.accounted_bind (silent _ rfl) fun _ => ?_
    cases tree.read? job.source with
    | none => exact silent _ rfl
    | some data =>
      exact Work.accounted_bind (accounted_purgeArtifact job.kind _ data) fun _ => silent _ rfl

theorem accounted_process (mode : WriteMode) (tree : FileTree) (job : Job) :
    (job.process optimize traced mode tree).2.Accounted optimize := by
  intro value succeeds
  unfold Job.process at succeeds ⊢
  rw [Work.outcome_inSpan] at succeeds
  rw [Work.summary_inSpan]
  cases output : (job.output optimize traced mode tree).outcome with
  | error failure =>
    rw [output] at succeeds
    cases succeeds
  | ok bytes => exact accounted_output mode tree job bytes output

theorem accounted_processAll (mode : WriteMode) (tree : FileTree) (jobs : List Job) :
    (Job.processAll optimize traced mode tree jobs).2.Accounted optimize := by
  induction jobs generalizing tree with
  | nil => exact fun _ _ => consistent_of_no_removal (Nat.le_refl 0) rfl
  | cons job rest ih =>
    have first : (job.process optimize traced mode tree).2.Accounted optimize :=
      accounted_process mode tree job
    simp only [Job.processAll]
    split
    · exact first
    · exact Work.accounted_bind first fun _ => ih _

end Counts

/-- Every class becomes empty, and loses an annotation with what it held. -/
def dropping : ClassOptimizer := fun data =>
  let point : AttachmentPoint := ⟨.type, "A", none, none, none, "P", true⟩
  .ok (if data = [] then ⟨"A", none, []⟩ else ⟨"A", some [], [⟨point, true⟩]⟩, [])

end Unannotate
