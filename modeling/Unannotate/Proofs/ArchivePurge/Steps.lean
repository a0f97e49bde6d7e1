import Unannotate.ArchivePurge
import Unannotate.Proofs.Archive.Opening
import Unannotate.Proofs.Work

/-!
# What a successful purge of an archive has done

A purge that succeeds has listed the entries of the archive, each name once, and has gone through all of
them: an entry is copied, or its content is replaced by what the purge of its content gave. The archive is
written again when a name was repeated or some content is new, and else it stands as it is.
-/
set_option autoImplicit false

namespace Unannotate

/-- Whether an entry is an artifact is told by its name. -/
theorem Entry.artifact?_congr {entry other : Entry} (named : other.name = entry.name) :
    other.artifact? = entry.artifact? := by
  rw [artifact?, isDirectory, named]
  rfl

/-! ## What is listed -/

namespace Archive

/-- The archive whose entries are gone through for the bytes of an archive, and whether names repeat in
it. Where they do, the directory lists the first record of each. -/
inductive Listed (data : Bytes) : Archive → Bool → Prop
  | whole {archive : Archive} (opened : ofBytes data = .ok archive)
      (distinct : firstEntriesOnly archive.data archive.directoryStart archive.offset = .ok none) :
      Listed data archive false
  | reduced {archive reduced : Archive} {bytes : Bytes} {dropped : Nat}
      (opened : ofBytes data = .ok archive)
      (repeats : firstEntriesOnly archive.data archive.directoryStart archive.offset
        = .ok (some (bytes, dropped)))
      (reopened : ofBytes bytes = .ok reduced) :
      Listed data { reduced with comment := archive.comment } true

/-- The content of an entry, when it opens and its checksum is right. -/
def contentOf? (archive : Archive) (entry : Entry) : Option Bytes := do
  let (compression, stored) ← archive.open? entry
  entry.content? compression stored

theorem contentOf?_eq_some_iff {archive : Archive} {entry : Entry} {content : Bytes} :
    archive.contentOf? entry = some content ↔ ∃ compression stored,
      archive.open? entry = some (compression, stored) ∧
      entry.content? compression stored = some content := by
  simp [contentOf?, Option.bind_eq_some_iff]

/-- Only one archive is listed for some bytes. -/
theorem Listed.unique {data : Bytes} {archive other : Archive} {repeats otherRepeats : Bool}
    (first : Listed data archive repeats) (second : Listed data other otherRepeats) :
    archive = other ∧ repeats = otherRepeats := by
  cases first with
  | whole opened distinct =>
    cases second with
    | whole reopened _ =>
      rw [opened] at reopened
      cases reopened
      exact ⟨rfl, rfl⟩
    | reduced reopened repeating _ =>
      rw [opened] at reopened
      cases reopened
      rw [distinct] at repeating
      cases repeating
  | reduced opened repeats found =>
    cases second with
    | whole reopened distinct =>
      rw [opened] at reopened
      cases reopened
      rw [repeats] at distinct
      cases distinct
    | reduced reopened repeating refound =>
      rw [opened] at reopened
      cases reopened
      rw [repeats] at repeating
      cases repeating
      rw [found] at refound
      cases refound
      exact ⟨rfl, rfl⟩

/-- No two entries that are gone through have one name. -/
theorem Listed.nodup_names {data : Bytes} {archive : Archive} {repeats : Bool}
    (listed : Listed data archive repeats) : (archive.entries.map (·.name)).Nodup := by
  cases listed with
  | whole opened _ => exact nodup_names_of_ofBytes opened
  | @reduced archive reduced bytes dropped opened repeats reopened =>
    have distinct : (reduced.entries.map (·.name)).Nodup := nodup_names_of_ofBytes reopened
    exact distinct

/-- Every entry that is gone through is that of a record. -/
theorem Listed.exists_record {data : Bytes} {archive : Archive} {repeats : Bool}
    (listed : Listed data archive repeats) {entry : Entry} (member : entry ∈ archive.entries) :
    ∃ record : DirectoryRecord, record.Listable ∧
      Entry.ofRecord archive.offset record = .ok entry := by
  cases listed with
  | whole opened _ => exact exists_record_of_mem opened member
  | @reduced archive reduced bytes dropped opened repeats reopened =>
    have inside : entry ∈ reduced.entries := member
    exact exists_record_of_mem reopened inside

end Archive

/-! ## One class, one entry -/

theorem purgeClass_ok_iff {optimize : ClassOptimizer} {traced : Bool} {origin : String} {data : Bytes}
    {result : Option Bytes} :
    (purgeClass optimize traced origin data).outcome = .ok result ↔
      ∃ purged events, optimize data = .ok (purged, events) ∧ purged.bytes = result := by
  simp only [purgeClass, Work.bind_ok_iff, Work.within_ok_iff, Work.outcome_inSpan,
    Work.outcome_ofOutcome, Work.outcome_count, Work.outcome_report, Work.outcome_pure, Prod.exists]
  constructor
  · rintro ⟨purged, ⟨_, events, optimized, -, -, same⟩, -, -, finished⟩
    cases same
    refine ⟨purged, events, optimized, ?_⟩
    split at finished
    · simpa [Work.map_ok_iff] using finished
    · simpa using finished
  · rintro ⟨purged, events, optimized, rfl⟩
    refine ⟨purged, ⟨purged, events, optimized, (), trivial, rfl⟩, (), trivial, ?_⟩
    split
    · simp [Work.map_ok_iff]
    · rfl

/-- What is done to an artifact in an archive below which archives nest at most `levels` deep. -/
def purgeWithin (optimize : ClassOptimizer) (traced : Bool) (levels : Nat) : ArtifactKind → Purge
  | .classFile => purgeClass optimize traced
  | .archive => purgeArchive optimize traced levels

/-- What becomes of an entry, given what is done to each kind of artifact. -/
inductive PurgesEntry (purge : ArtifactKind → Purge) (origin : String) (archive : Archive)
    (entry : Entry) : PurgedEntry → Prop
  | resource {compression : Compression} {stored : Bytes}
      (opened : archive.open? entry = some (compression, stored)) (plain : entry.artifact? = none) :
      PurgesEntry purge origin archive entry (entry.copied compression stored, false)
  | untouched {compression : Compression} {stored content : Bytes} {kind : ArtifactKind}
      (opened : archive.open? entry = some (compression, stored)) (artifact : entry.artifact? = some kind)
      (read : entry.content? compression stored = some content)
      (purged : (purge kind (origin ++ ":" ++ entry.name) content).outcome = .ok none) :
      PurgesEntry purge origin archive entry (entry.copied compression stored, false)
  | replaced {compression : Compression} {stored content new : Bytes} {kind : ArtifactKind}
      (opened : archive.open? entry = some (compression, stored)) (artifact : entry.artifact? = some kind)
      (read : entry.content? compression stored = some content)
      (purged : (purge kind (origin ++ ":" ++ entry.name) content).outcome = .ok (some new)) :
      PurgesEntry purge origin archive entry
        (entry.withContent compression entry.keptFields.1 new, true)

theorem readContent_ok_iff {origin : String} {entry : Entry} {compression : Compression}
    {stored content : Bytes} :
    (readContent origin entry compression stored).outcome = .ok content ↔
      entry.content? compression stored = some content := by
  unfold readContent
  cases entry.content? compression stored <;> simp

theorem purgeContent_ok_iff {purge : Purge} {origin : String} {entry : Entry} {compression : Compression}
    {stored : Bytes} {purged : PurgedEntry} :
    (purgeContent purge origin entry compression stored).outcome = .ok purged ↔
      ∃ content result, entry.content? compression stored = some content ∧
        (purge origin content).outcome = .ok result ∧
        purged = match result with
          | some new => (entry.withContent compression entry.keptFields.1 new, true)
          | none => (entry.copied compression stored, false) := by
  simp only [purgeContent, Work.bind_ok_iff, readContent_ok_iff, Work.outcome_report]
  constructor
  · rintro ⟨content, read, _, -, result, replaced, finished⟩
    refine ⟨content, result, read, replaced, ?_⟩
    cases result <;> cases finished <;> rfl
  · rintro ⟨content, result, read, replaced, rfl⟩
    refine ⟨content, read, (), trivial, result, replaced, ?_⟩
    cases result <;> rfl

section Kinds

variable {purge : ArtifactKind → Purge} {origin : String} {archive : Archive} {entry : Entry}
  {purged : PurgedEntry} {compression : Compression} {stored : Bytes}

theorem not_purgesEntry_of_closed (closed : archive.open? entry = none) :
    ¬PurgesEntry purge origin archive entry purged := by
  rintro (⟨opened, -⟩ | ⟨opened, -, -, -⟩ | ⟨opened, -, -, -⟩)
  all_goals
    rw [closed] at opened
    cases opened

/-- A resource is copied. -/
theorem purgesEntry_iff_of_resource (opened : archive.open? entry = some (compression, stored))
    (plain : entry.artifact? = none) :
    PurgesEntry purge origin archive entry purged ↔ purged = (entry.copied compression stored, false) := by
  constructor
  · rintro (⟨here, -⟩ | ⟨-, artifact, -, -⟩ | ⟨-, artifact, -, -⟩)
    · rw [opened] at here
      cases here
      rfl
    all_goals
      rw [plain] at artifact
      cases artifact
  · rintro rfl
    exact .resource opened plain

/-- An artifact becomes what the purge of its content makes of it. -/
theorem purgesEntry_iff_of_artifact {kind : ArtifactKind}
    (opened : archive.open? entry = some (compression, stored)) (artifact : entry.artifact? = some kind) :
    PurgesEntry purge origin archive entry purged ↔
      (purgeContent (purge kind) (origin ++ ":" ++ entry.name) entry compression stored).outcome
        = .ok purged := by
  rw [purgeContent_ok_iff]
  constructor
  · intro step
    cases step with
    | resource _ plain =>
      rw [artifact] at plain
      cases plain
    | untouched here sort read stands =>
      rw [opened] at here
      rw [artifact] at sort
      cases here
      cases sort
      exact ⟨_, none, read, stands, rfl⟩
    | replaced here sort read changed =>
      rw [opened] at here
      rw [artifact] at sort
      cases here
      cases sort
      exact ⟨_, some _, read, changed, rfl⟩
  · rintro ⟨content, result, read, purges, rfl⟩
    cases result with
    | none => exact .untouched opened artifact read purges
    | some new => exact .replaced opened artifact read purges

end Kinds

theorem purgeEntry_ok_iff {optimize : ClassOptimizer} {traced : Bool} {levels : Nat} {origin : String}
    {archive : Archive} {item : Entry × Nat} {purged : PurgedEntry} :
    (purgeEntry (purgeClass optimize traced) (purgeArchive optimize traced levels) origin archive
        item).outcome = .ok purged ↔
      PurgesEntry (purgeWithin optimize traced levels) origin archive item.1 purged := by
  obtain ⟨entry, index⟩ := item
  simp only [purgeEntry]
  cases opened : archive.open? entry with
  | none => exact iff_of_false nofun (not_purgesEntry_of_closed opened)
  | some kept =>
    obtain ⟨compression, stored⟩ := kept
    cases artifact : entry.artifact? with
    | none =>
      simp only [purgesEntry_iff_of_resource opened artifact, Work.outcome_pure, Except.ok.injEq]
      exact eq_comm
    | some kind =>
      rw [purgesEntry_iff_of_artifact opened artifact]
      cases kind <;> exact Iff.rfl

/-! ## All entries -/

/-- What an archive is replaced by, given whether anything has changed in it. -/
inductive Archive.Repacked (entries : List NewEntry) (comment : Bytes) : Bool → Option Bytes → Prop
  | standing : Repacked entries comment false none
  | written {bytes : Bytes} (encoded : encode? entries comment = some bytes) :
      Repacked entries comment true (some bytes)

theorem Archive.Repacked.encode?_eq {entries : List NewEntry} {comment bytes : Bytes} {changed : Bool}
    (repacked : Repacked entries comment changed (some bytes)) :
    encode? entries comment = some bytes := by
  cases repacked with
  | written encoded => exact encoded

theorem purgeEntries_ok_iff {optimize : ClassOptimizer} {traced : Bool} {levels : Nat} {origin : String}
    {archive : Archive} {comment : Bytes} {changed : Bool} {result : Option Bytes} :
    (purgeEntries (purgeClass optimize traced) (purgeArchive optimize traced levels) origin archive
        comment changed).outcome = .ok result ↔
      ∃ purged : List PurgedEntry,
        List.Forall₂ (PurgesEntry (purgeWithin optimize traced levels) origin archive) archive.entries
          purged ∧
        Archive.Repacked (purged.map (·.1)) comment (changed || purged.any (·.2)) result := by
  have entriesOf {purged : List PurgedEntry} :
      List.Forall₂ (fun item value => PurgesEntry (purgeWithin optimize traced levels) origin archive
          item.1 value) archive.entries.zipIdx purged ↔
        List.Forall₂ (PurgesEntry (purgeWithin optimize traced levels) origin archive) archive.entries
          purged := by
    conv_rhs => rw [← List.zipIdx_map_fst 0 archive.entries]
    rw [List.forall₂_map_left_iff]
  simp only [purgeEntries, Work.bind_ok_iff, Work.each_ok_iff, purgeEntry_ok_iff, entriesOf]
  refine exists_congr fun purged => and_congr_right fun _ => ?_
  cases changing : changed || purged.any (·.2) with
  | false =>
    rw [if_neg Bool.false_ne_true]
    constructor
    · rintro ⟨⟩
      exact .standing
    · rintro ⟨⟩
      rfl
  | true =>
    rw [if_pos rfl]
    cases encoded : Archive.encode? (purged.map (·.1)) comment with
    | none =>
      constructor
      · intro finished
        cases finished
      · rintro (_ | written)
        rw [encoded] at written
        cases written
    | some bytes =>
      constructor
      · rintro ⟨⟩
        exact .written encoded
      · rintro (_ | written)
        rw [encoded] at written
        cases written
        rfl

/-- A purge of an archive succeeds when the archive can be listed, every entry of it can be purged and
the archive can be written, where it is written. -/
theorem purgeArchive_ok_iff {optimize : ClassOptimizer} {traced : Bool} {levels : Nat} {origin : String}
    {data : Bytes} {result : Option Bytes} :
    (purgeArchive optimize traced (levels + 1) origin data).outcome = .ok result ↔
      ∃ archive repeats, Archive.Listed data archive repeats ∧ ∃ purged : List PurgedEntry,
        List.Forall₂ (PurgesEntry (purgeWithin optimize traced levels) origin archive) archive.entries
          purged ∧
        Archive.Repacked (purged.map (·.1)) archive.comment (repeats || purged.any (·.2)) result := by
  rw [purgeArchive, Work.outcome_inSpan]
  simp only [Work.bind_ok_iff, openArchive, Work.outcome_count, purgeOpened, Work.ofArtifact_ok_iff]
  constructor
  · rintro ⟨archive, opened, -, -, listing, first, rest⟩
    cases found : Archive.ofBytes data with
    | error fault =>
      rw [found] at opened
      cases opened
    | ok whole =>
      rw [found] at opened
      cases opened
      cases listing with
      | none => exact ⟨_, _, .whole found first, purgeEntries_ok_iff.mp rest⟩
      | some reduction =>
        obtain ⟨bytes, dropped⟩ := reduction
        simp only [Work.bind_ok_iff, Work.outcome_report] at rest
        obtain ⟨-, -, reduced, reopened, finished⟩ := rest
        cases again : Archive.ofBytes bytes with
        | error fault =>
          rw [again] at reopened
          cases reopened
        | ok part =>
          rw [again] at reopened
          cases reopened
          exact ⟨_, _, .reduced found first again, purgeEntries_ok_iff.mp finished⟩
  · rintro ⟨_, _, listed, purged⟩
    cases listed with
    | whole opened distinct =>
      refine ⟨_, by rw [opened]; rfl, (), trivial, none, distinct, ?_⟩
      exact purgeEntries_ok_iff.mpr purged
    | @reduced archive reduced bytes dropped opened repeats reopened =>
      refine ⟨archive, by rw [opened]; rfl, (), trivial, some (bytes, dropped), repeats, ?_⟩
      simp only [Work.bind_ok_iff, Work.outcome_report]
      have finished := purgeEntries_ok_iff.mpr purged
      exact ⟨(), trivial, reduced, by rw [reopened]; rfl, finished⟩

end Unannotate
