import Mathlib.Data.List.Induction
import Unannotate.Proofs.Archive.FirstEntries
import Unannotate.Proofs.ArchivePurge.Steps

/-!
# When an archive stands as it is

An archive is written again for two reasons: its directory repeats a name, or a class in it has changed.
Either reason counts at any depth, so an archive stands as it is exactly when neither is found in any
archive that is reached from it; and one that does not is written again together with every archive
around it.
-/
set_option autoImplicit false

namespace Unannotate

namespace Archive

/-! ## What is reached -/

/-- An archive holds the contents of the artifacts among the entries that are gone through. -/
def Holds (data : Bytes) (kind : ArtifactKind) (content : Bytes) : Prop :=
  ∃ archive repeats entry, Listed data archive repeats ∧ entry ∈ archive.entries ∧
    entry.artifact? = some kind ∧ archive.contentOf? entry = some content

/-- An artifact in an archive, at any depth; the archive reaches itself. -/
inductive Reaches : Bytes → ArtifactKind → Bytes → Prop
  | here (data : Bytes) : Reaches data .archive data
  | classFile {data content : Bytes} (holds : Holds data .classFile content) :
      Reaches data .classFile content
  | within {data inner content : Bytes} {kind : ArtifactKind} (holds : Holds data .archive inner)
      (reaches : Reaches inner kind content) : Reaches data kind content

theorem Reaches.trans {data inner content : Bytes} {kind : ArtifactKind}
    (outer : Reaches data .archive inner) (reaches : Reaches inner kind content) :
    Reaches data kind content := by
  generalize sort : ArtifactKind.archive = outerKind at outer
  induction outer with
  | here => exact reaches
  | classFile => cases sort
  | within holds _ ih => exact .within holds (ih reaches sort)

/-- The records of a directory repeat a name, as the bytes spell it. -/
def RepeatsName (data : Bytes) : Prop :=
  ∃ archive records, ofBytes data = .ok archive ∧
    DirectoryRecord.sequence (archive.data.drop archive.directoryStart) = .ok records ∧
    ¬ (records.map (·.name)).Nodup

theorem Listed.repeatsName_iff {data : Bytes} {archive : Archive} {repeats : Bool}
    (listed : Listed data archive repeats) : RepeatsName data ↔ repeats = true := by
  cases listed with
  | whole opened distinct =>
    obtain ⟨-, records, found, nodup⟩ := firstEntriesOnly_eq_none_iff.mp distinct
    refine iff_of_false ?_ Bool.false_ne_true
    rintro ⟨_, _, reopened, again, repeated⟩
    rw [opened] at reopened
    cases reopened
    rw [found] at again
    cases again
    exact repeated nodup
  | reduced opened repeated _ =>
    obtain ⟨records, reduction, -⟩ := firstEntriesOnly_eq_some_iff.mp repeated
    exact iff_of_true ⟨_, records, opened, reduction.found, reduction.repeats⟩ rfl

end Archive

open Archive

/-- A class gets other bytes. -/
def Changes (optimize : ClassOptimizer) (content : Bytes) : Prop :=
  ∃ purged events, optimize content = .ok (purged, events) ∧ purged.bytes.isSome

/-- No archive that is reached repeats a name, and no class that is reached changes. -/
structure Untouched (optimize : ClassOptimizer) (data : Bytes) : Prop where
  distinct : ∀ inner, Reaches data .archive inner → ¬ RepeatsName inner
  unchanged : ∀ content, Reaches data .classFile content → ¬ Changes optimize content

theorem untouched_iff {optimize : ClassOptimizer} {data : Bytes} :
    Untouched optimize data ↔ ¬ RepeatsName data ∧
      (∀ content, Holds data .classFile content → ¬ Changes optimize content) ∧
      ∀ inner, Holds data .archive inner → Untouched optimize inner := by
  constructor
  · intro untouched
    refine ⟨untouched.distinct _ (.here data),
      fun content holds => untouched.unchanged _ (.classFile holds), fun inner holds => ?_⟩
    exact ⟨fun other reaches => untouched.distinct _ (.within holds reaches),
      fun content reaches => untouched.unchanged _ (.within holds reaches)⟩
  · rintro ⟨distinct, unchanged, within⟩
    constructor
    · intro inner reaches
      cases reaches with
      | here => exact distinct
      | within holds reaches => exact (within _ holds).distinct _ reaches
    · intro content reaches
      cases reaches with
      | classFile holds => exact unchanged _ holds
      | within holds reaches => exact (within _ holds).unchanged _ reaches

/-! ## One archive -/

variable {optimize : ClassOptimizer} {traced : Bool} {levels : Nat} {origin : String}

theorem repacked_eq_none_iff {entries : List NewEntry} {comment : Bytes} {changed : Bool}
    {result : Option Bytes} (repacked : Repacked entries comment changed result) :
    result = none ↔ changed = false := by
  cases repacked with
  | standing => simp
  | written => simp

/-- What becomes of an artifact, given what its own purge gives. -/
theorem PurgesEntry.of_artifact {purge : ArtifactKind → Purge} {archive : Archive} {entry : Entry}
    {purged : PurgedEntry} (step : PurgesEntry purge origin archive entry purged) {kind : ArtifactKind}
    {content : Bytes} (artifact : entry.artifact? = some kind)
    (found : archive.contentOf? entry = some content) :
    ∃ compression stored part, archive.open? entry = some (compression, stored) ∧
      (purge kind (origin ++ ":" ++ entry.name) content).outcome = .ok part ∧
      purged = match part with
        | none => (entry.copied compression stored, false)
        | some new => (entry.withContent compression entry.keptFields.1 new, true) := by
  obtain ⟨compression, stored, opened, read⟩ := contentOf?_eq_some_iff.mp found
  obtain ⟨_, part, same, purges, rfl⟩ :=
    purgeContent_ok_iff.mp ((purgesEntry_iff_of_artifact opened artifact).mp step)
  rw [read] at same
  cases same
  exact ⟨compression, stored, part, opened, purges, by cases part <;> rfl⟩

/-- The entry keeps its content exactly when it is no artifact or its purge gives nothing. -/
theorem PurgesEntry.snd_eq_false_iff {purge : ArtifactKind → Purge} {archive : Archive} {entry : Entry}
    {purged : PurgedEntry} (step : PurgesEntry purge origin archive entry purged) :
    purged.2 = false ↔ ∀ kind content, entry.artifact? = some kind →
      archive.contentOf? entry = some content →
      (purge kind (origin ++ ":" ++ entry.name) content).outcome = .ok none := by
  constructor
  · intro kept kind content artifact found
    obtain ⟨_, _, part, -, purges, rfl⟩ := step.of_artifact artifact found
    cases part with
    | none => exact purges
    | some new => cases kept
  · intro stands
    cases step with
    | resource _ _ => rfl
    | untouched _ _ _ _ => rfl
    | replaced opened artifact read changed =>
      rw [stands _ _ artifact (contentOf?_eq_some_iff.mpr ⟨_, _, opened, read⟩)] at changed
      cases changed

theorem Archive.Listed.holds_iff {data content : Bytes} {archive : Archive} {repeats : Bool}
    {kind : ArtifactKind} (listed : Listed data archive repeats) :
    Holds data kind content ↔ ∃ entry ∈ archive.entries, entry.artifact? = some kind ∧
      archive.contentOf? entry = some content := by
  constructor
  · rintro ⟨other, otherRepeats, entry, again, found⟩
    obtain ⟨rfl, -⟩ := listed.unique again
    exact ⟨entry, found⟩
  · rintro ⟨entry, found⟩
    exact ⟨archive, repeats, entry, listed, found⟩

theorem exists_outcome_of_holds {data content : Bytes} {kind : ArtifactKind} {result : Option Bytes}
    (succeeds : (purgeArchive optimize traced (levels + 1) origin data).outcome = .ok result)
    (holds : Holds data kind content) :
    ∃ inside part, (purgeWithin optimize traced levels kind inside content).outcome = .ok part ∧
      (part.isSome → result.isSome) := by
  obtain ⟨archive, repeats, listed, purged, steps, repacked⟩ := purgeArchive_ok_iff.mp succeeds
  obtain ⟨entry, member, artifact, found⟩ := listed.holds_iff.mp holds
  obtain ⟨written, place, step⟩ := exists_related_of_mem steps member
  obtain ⟨_, _, part, -, purges, made⟩ := step.of_artifact artifact found
  refine ⟨_, part, purges, fun changed => ?_⟩
  have replaced : written.2 = true := by
    obtain ⟨new, rfl⟩ := Option.isSome_iff_exists.mp changed
    rw [made]
  rw [Option.isSome_iff_ne_none, Ne, repacked_eq_none_iff repacked, Bool.or_eq_false_iff,
    List.any_eq_false]
  exact fun kept => kept.2 _ place replaced

theorem none_iff_untouched {data : Bytes} {result : Option Bytes}
    (succeeds : (purgeArchive optimize traced levels origin data).outcome = .ok result) :
    result = none ↔ Untouched optimize data := by
  -- By induction on the levels: an archive that is held is purged one level down.
  induction levels generalizing origin data result with
  | zero => cases succeeds
  | succ levels ih =>
    obtain ⟨archive, repeats, listed, purged, steps, repacked⟩ := purgeArchive_ok_iff.mp succeeds
    have classStands {content : Bytes} {inside : String} {part : Option Bytes}
        (purges : (purgeClass optimize traced inside content).outcome = .ok part) :
        part = none ↔ ¬ Changes optimize content := by
      obtain ⟨given, events, optimized, rfl⟩ := purgeClass_ok_iff.mp purges
      simp [Changes, optimized]
    have stands : purged.any (·.2) = false ↔
        (∀ content, Holds data .classFile content → ¬ Changes optimize content) ∧
          ∀ inner, Holds data .archive inner → Untouched optimize inner := by
      have kept := forall_mem_iff_of_forall₂ steps fun entry part step => step.snd_eq_false_iff.symm
      simp only [List.any_eq_false, Bool.not_eq_true, ← kept, listed.holds_iff]
      constructor
      · intro unchanged
        constructor
        · rintro content ⟨entry, member, artifact, found⟩
          exact (classStands (unchanged entry member _ content artifact found)).mp rfl
        · rintro inner ⟨entry, member, artifact, found⟩
          exact (ih (unchanged entry member _ inner artifact found)).mp rfl
      · rintro ⟨unchanged, untouched⟩ entry member kind content artifact found
        obtain ⟨_, _, step⟩ := exists_related_of_mem steps member
        obtain ⟨_, _, part, -, purges, -⟩ := step.of_artifact artifact found
        cases kind with
        | classFile =>
          have same := unchanged content ⟨entry, member, artifact, found⟩
          rwa [(classStands purges).mpr same] at purges
        | archive =>
          have same := untouched content ⟨entry, member, artifact, found⟩
          rwa [(ih purges).mpr same] at purges
    rw [repacked_eq_none_iff repacked, untouched_iff, listed.repeatsName_iff, Bool.or_eq_false_iff,
      stands, Bool.not_eq_true]

theorem exists_outcome_of_reaches {data inner : Bytes} {result : Option Bytes}
    (succeeds : (purgeArchive optimize traced levels origin data).outcome = .ok result)
    (reaches : Reaches data .archive inner) :
    ∃ rest inside part, (purgeArchive optimize traced rest inside inner).outcome = .ok part := by
  generalize sort : ArtifactKind.archive = kind at reaches
  induction reaches generalizing levels origin result with
  | here => exact ⟨levels, origin, result, succeeds⟩
  | classFile => cases sort
  | within holds _ ih =>
    cases levels with
    | zero => cases succeeds
    | succ levels =>
      obtain ⟨inside, part, purges, -⟩ := exists_outcome_of_holds succeeds holds
      exact ih purges sort

/-- An entry whose content is kept as it is. -/
def storedEntry (name : String) (content : Bytes) : NewEntry :=
  { name, comment := "", fields := [], compression := .stored, modified := ⟨0x5264, 0x28C4⟩
    checksum := (crc32 content).toNat, size := content.length, mode := 0o100644, stored := content }

/-- The archive of some entries. -/
def packed (entries : List NewEntry) : Bytes := (Archive.encode? entries []).getD []

/-- A class in an archive in an archive. -/
def nestedClass (content : Bytes) : Bytes :=
  packed [storedEntry "lib.jar" (packed [storedEntry "A.class" content])]

/-- Every class becomes empty. -/
def emptying : ClassOptimizer := fun data =>
  .ok (⟨"A", if data = [] then none else some [], []⟩, [])

end Unannotate
