import Unannotate.Proofs.ArchivePurge.Contents

/-!
# The first entry of a name counts

Where names repeat, the purge of an archive is the purge of an archive that lists the first entry of each
name and nothing else: the later entries leave no trace in the outcome or in what is counted. This needs
a directory whose names are the same as read exactly where their bytes are the same, since repeats are
looked for among the bytes and entries are told apart by their names as read; and it needs entries that
stand in front of the directory, since only what stands there is kept when the directory is written
again.
-/
set_option autoImplicit false

namespace Unannotate

open DirectoryRecord

namespace Archive

/-! ## Entries in front of the directory -/

/-- The header of an entry and its bytes end before the directory starts. -/
def InFront (archive : Archive) (entry : Entry) : Prop :=
  let header : Bytes := (archive.data.drop entry.headerOffset).take localHeaderSize
  entry.headerOffset + localHeaderSize + (header.field 26 2 + header.field 28 2) + entry.compressedSize
    ≤ archive.directoryStart

instance (archive : Archive) (entry : Entry) : Decidable (archive.InFront entry) :=
  inferInstanceAs (Decidable (_ ≤ _))

theorem take_drop_of_take_eq {data other : Bytes} {start position count : Nat}
    (same : other.take start = data.take start) (inside : position + count ≤ start) :
    (other.drop position).take count = (data.drop position).take count := by
  have cut (bytes : Bytes) :
      (bytes.drop position).take count = ((bytes.take start).drop position).take count := by
    rw [List.drop_take, List.take_take, Nat.min_eq_left (by omega)]
  rw [cut other, same, ← cut data]

/-- An entry opens the same way wherever the bytes in front of the directory are the same. -/
theorem open?_eq_of_inFront {archive other : Archive} {entry : Entry} (inFront : archive.InFront entry)
    (same : other.data.take archive.directoryStart = archive.data.take archive.directoryStart) :
    other.open? entry = archive.open? entry := by
  unfold InFront at inFront
  dsimp only at inFront
  have header : (other.data.drop entry.headerOffset).take localHeaderSize
      = (archive.data.drop entry.headerOffset).take localHeaderSize :=
    take_drop_of_take_eq same (by omega)
  simp only [open?, Bytes.split?, header]
  split
  · simp only [List.drop_drop, Option.bind_eq_bind, Option.bind_some]
    rw [take_drop_of_take_eq same (by omega)]
  · rfl

/-! ## The directory -/

/-- The records at the place of the directory, however many the end record announces, and the entries
that they describe. -/
structure Directory (archive : Archive) (records : List DirectoryRecord) (listed : List Entry) :
    Prop where
  found : sequence (archive.data.drop archive.directoryStart) = .ok records
  described : List.Forall₂ (fun record entry => Entry.ofRecord archive.offset record = .ok entry) records
    listed

/-- Names are the same as read exactly where their bytes are the same. -/
def NamesAgree (records : List DirectoryRecord) (listed : List Entry) : Prop :=
  ∀ one ∈ records.zip listed, ∀ other ∈ records.zip listed,
    one.1.name = other.1.name ↔ one.2.name = other.2.name

theorem forall₂_firstOfEachName {archive : Archive} {records : List DirectoryRecord}
    {listed : List Entry} (directory : archive.Directory records listed)
    (agree : NamesAgree records listed) :
    List.Forall₂ (fun record entry => Entry.ofRecord archive.offset record = .ok entry)
      (firstOfEachName [] records) (firstOfEach Entry.name [] listed) := by
  rw [firstOfEachName_eq]
  exact forall₂_firstOfEach DirectoryRecord.name Entry.name directory.described [] agree

theorem nodup_names_iff {archive : Archive} {records : List DirectoryRecord} {listed : List Entry}
    (directory : archive.Directory records listed) (agree : NamesAgree records listed) :
    (records.map (·.name)).Nodup ↔ (listed.map (·.name)).Nodup := by
  rw [← length_firstOfEachName_eq_iff, ← length_firstOfEach_eq_iff Entry.name,
    (forall₂_firstOfEachName directory agree).length_eq, directory.described.length_eq]

theorem entries_eq_of_nodup {data : Bytes} {archive : Archive} {records : List DirectoryRecord}
    {listed : List Entry} (opened : ofBytes data = .ok archive)
    (directory : archive.Directory records listed)
    (covered : ∀ entry ∈ listed, entry.name ∈ archive.entries.map (·.name))
    (distinct : (listed.map (·.name)).Nodup) : archive.entries = listed := by
  obtain ⟨position, ending, announced, ends, -⟩ := ofBytes_eq_ok opened
  obtain ⟨-, described⟩ := readEntries_of_sequence (ends.data_eq ▸ ends.read) directory.found
  have same : announced = listed.take ending.entriesOnDisk :=
    entries_unique described (List.forall₂_take ending.entriesOnDisk directory.described)
  have split := List.take_append_drop ending.entriesOnDisk listed
  rw [← split, List.map_append, List.nodup_append] at distinct
  have entries : archive.entries = listed.take ending.entriesOnDisk := by
    rw [ends.entries, same, insertEntries_eq distinct.1]
  rw [entries] at covered ⊢
  have nothing : listed.drop ending.entriesOnDisk = [] := by
    refine List.eq_nil_iff_forall_not_mem.mpr fun entry member => ?_
    have again := covered entry (List.mem_of_mem_drop member)
    exact distinct.2.2 _ again _ (List.mem_map_of_mem member) rfl
  rw [nothing, List.append_nil] at split
  exact split

end Archive

/-! ## The purge of what is listed -/

theorem purgeEntries_congr {purgeClass purgeNested : Purge} {origin : String} {archive other : Archive}
    {comment : Bytes} {changed : Bool} (entries : other.entries = archive.entries)
    (opens : ∀ entry ∈ archive.entries, other.open? entry = archive.open? entry) :
    purgeEntries purgeClass purgeNested origin other comment changed
      = purgeEntries purgeClass purgeNested origin archive comment changed := by
  have same : Work.each archive.entries.zipIdx (purgeEntry purgeClass purgeNested origin other)
      = Work.each archive.entries.zipIdx (purgeEntry purgeClass purgeNested origin archive) := by
    refine Work.each_congr fun item member => ?_
    have listed : item.1 ∈ archive.entries := List.fst_mem_of_mem_zipIdx member
    simp only [purgeEntry, opens item.1 listed]
  rw [purgeEntries, purgeEntries, entries, same]

theorem PurgesEntry.of_open?_eq {purge : ArtifactKind → Purge} {origin : String}
    {archive other : Archive} {entry : Entry} {purged : PurgedEntry}
    (step : PurgesEntry purge origin other entry purged)
    (opens : other.open? entry = archive.open? entry) :
    PurgesEntry purge origin archive entry purged := by
  cases step with
  | resource opened plain => exact .resource (opens ▸ opened) plain
  | untouched opened artifact read stands => exact .untouched (opens ▸ opened) artifact read stands
  | replaced opened artifact read changed => exact .replaced (opens ▸ opened) artifact read changed

variable {optimize : ClassOptimizer} {traced : Bool} {levels : Nat} {origin : String}

/-- The purge of an archive whose entries were listed, with `skipped` records left out. -/
def purgeListed (optimize : ClassOptimizer) (traced : Bool) (levels : Nat) (origin : String)
    (archive : Archive) (skipped : Nat) : Work (Option Bytes) :=
  Work.inSpan traced ⟨"archive.purge", [("purgeannorefs.archive", .text origin)]⟩ do
    Work.count { archives := 1 }
    Work.report (if skipped = 0 then [] else [.skippingDuplicates origin skipped])
    purgeEntries (purgeClass optimize traced) (purgeArchive optimize traced levels) origin archive
      archive.comment (skipped != 0)

theorem purgeListed_ok_iff {archive : Archive} {skipped : Nat} {result : Option Bytes} :
    (purgeListed optimize traced levels origin archive skipped).outcome = .ok result ↔
      ∃ purged : List PurgedEntry,
        List.Forall₂ (PurgesEntry (purgeWithin optimize traced levels) origin archive) archive.entries
          purged ∧
        Archive.Repacked (purged.map (·.1)) archive.comment (skipped != 0 || purged.any (·.2)) result := by
  rw [purgeListed, Work.outcome_inSpan]
  simp only [Work.bind_ok_iff, Work.outcome_count, Work.outcome_report, purgeEntries_ok_iff]
  constructor
  · rintro ⟨-, -, -, -, purged⟩
    exact purged
  · exact fun purged => ⟨(), trivial, (), trivial, purged⟩

theorem purgeArchive_of_nodup {data : Bytes} {archive : Archive}
    (opened : Archive.ofBytes data = .ok archive)
    (distinct : firstEntriesOnly archive.data archive.directoryStart archive.offset = .ok none) :
    purgeArchive optimize traced (levels + 1) origin data
      = purgeListed optimize traced levels origin archive 0 := by
  have quiet : Work.report [] = pure () := rfl
  rw [purgeArchive, purgeListed, openArchive, opened, if_pos rfl, quiet]
  simp only [pure_bind, purgeOpened, distinct, Work.ofArtifact_ok, bne_self_eq_false]

theorem purgeArchive_of_repeats {data bytes : Bytes} {dropped : Nat} {archive reduced : Archive}
    {first : List Entry} (opened : Archive.ofBytes data = .ok archive)
    (repeats : firstEntriesOnly archive.data archive.directoryStart archive.offset
      = .ok (some (bytes, dropped)))
    (reopened : Archive.ofBytes bytes = .ok reduced) (positive : dropped ≠ 0)
    (entries : reduced.entries = first) (inFront : ∀ entry ∈ first, archive.InFront entry)
    (same : reduced.data.take archive.directoryStart = archive.data.take archive.directoryStart) :
    purgeArchive optimize traced (levels + 1) origin data
      = purgeListed optimize traced levels origin { archive with entries := first } dropped := by
  have marked : (dropped != 0) = true := by simpa using positive
  have purged : purgeEntries (purgeClass optimize traced) (purgeArchive optimize traced levels) origin
      reduced archive.comment true
      = purgeEntries (purgeClass optimize traced) (purgeArchive optimize traced levels) origin
        { archive with entries := first } archive.comment true :=
    purgeEntries_congr entries fun entry member =>
      Archive.open?_eq_of_inFront (inFront entry member) same
  rw [purgeArchive, purgeListed, openArchive, opened, if_neg positive, marked, ← purged]
  simp only [pure_bind, purgeOpened, repeats, openArchive, reopened, Work.ofArtifact_ok]

/-- What is listed for an archive is the first entry of each name, in the order of the directory. -/
theorem purgeArchive_eq_purgeListed {data : Bytes} {archive listing : Archive} {repeats : Bool}
    {records : List DirectoryRecord} {listed : List Entry} (opened : Archive.ofBytes data = .ok archive)
    (directory : archive.Directory records listed)
    (covered : ∀ entry ∈ listed, entry.name ∈ archive.entries.map (·.name))
    (agree : Archive.NamesAgree records listed) (inFront : ∀ entry ∈ listed, archive.InFront entry)
    (found : Archive.Listed data listing repeats) :
    purgeArchive optimize traced (levels + 1) origin data
      = purgeListed optimize traced levels origin
        { archive with entries := firstOfEach Entry.name [] listed }
        (listed.length - (firstOfEach Entry.name [] listed).length) := by
  have kept := Archive.forall₂_firstOfEachName directory agree
  cases found with
  | whole reopened distinct =>
    -- No bytes repeat, so no names do, and every record is listed already.
    rw [opened] at reopened
    cases reopened
    obtain ⟨-, others, found, nodup⟩ := firstEntriesOnly_eq_none_iff.mp distinct
    rw [directory.found] at found
    cases found
    have apart := (Archive.nodup_names_iff directory agree).mp nodup
    have entries := Archive.entries_eq_of_nodup opened directory covered apart
    rw [firstOfEach_eq_self Entry.name apart (by simp), Nat.sub_self, ← entries]
    exact purgeArchive_of_nodup opened distinct
  | @reduced again reduced bytes dropped reopened repeating rebuilt =>
    -- The first records are listed in place of all of them, in front of the same bytes.
    rw [opened] at reopened
    cases reopened
    obtain ⟨others, reduction, rfl⟩ := firstEntriesOnly_eq_some_iff.mp repeating
    have found := reduction.found
    rw [directory.found] at found
    cases found
    have apart := nodup_firstOfEach Entry.name [] listed
    have rebuilds := Archive.ofBytes_of_reduction opened reduction kept
    rw [Archive.insertEntries_eq apart] at rebuilds
    have fewer : (firstOfEachName [] records).length ≠ records.length :=
      fun even => reduction.repeats (length_firstOfEachName_eq_iff.mp even)
    have least := (firstOfEachName_sublist records).length_le
    have positive : records.length - (firstOfEachName [] records).length ≠ 0 := by omega
    have front : bytes.take archive.directoryStart = archive.data.take archive.directoryStart := by
      rw [reduction.bytes_eq, List.append_assoc,
        List.take_left' (List.length_take_of_le reduction.inside)]
    have early (entry : Entry) (member : entry ∈ firstOfEach Entry.name [] listed) :
        archive.InFront entry := inFront entry ((firstOfEach_sublist _ _ _).subset member)
    rw [← kept.length_eq, ← directory.described.length_eq]
    exact purgeArchive_of_repeats opened repeating rebuilds positive rfl early front

/-- The entries of an archive in which a class is listed twice. -/
def twice : List NewEntry :=
  [storedEntry "A.class" [0], storedEntry "A.class" [], storedEntry "r.txt" [1]]

/-- What that archive is read as: the later class has taken the place of the first. -/
def openedTwice : Archive :=
  { Archive.asWritten twice [] (packed twice) with entries := (Archive.entriesAt 0 twice).drop 1 }

/-- Bytes that are no UTF-8 in front, each of which is read as the same replacement character. -/
def misspelled (byte : UInt8) : Bytes := [byte, byte] ++ Utf8.encode ".class"

/-- The records of a directory whose two names differ in their bytes and are read alike. -/
def spellings : List DirectoryRecord :=
  [{ (storedEntry "é.class" [0]).directoryRecord 0 with name := misspelled 0xFE },
    { (storedEntry "é.class" []).directoryRecord (storedEntry "é.class" [0]).localRecord.length with
      name := misspelled 0xFF }]

def spelledTwice : Bytes :=
  let front := (storedEntry "é.class" [0]).localRecord ++ (storedEntry "é.class" []).localRecord
  let directory := spellings.flatMap encode
  front ++ directory ++ (EndRecord.ofDirectory 2 directory.length front.length []).encode

/-- What the records are read as. -/
def readTwice : List Entry :=
  [{ (storedEntry "\uFFFD\uFFFD.class" [0]).entryAt 0 with rawName := misspelled 0xFE },
    { (storedEntry "\uFFFD\uFFFD.class" []).entryAt (storedEntry "é.class" [0]).localRecord.length with
      rawName := misspelled 0xFF }]

end Unannotate
