import Mathlib.Data.List.Nodup
import Unannotate.Proofs.Archive.Described
import Unannotate.Proofs.ArchivePurge.Untouched
import Unannotate.Proofs.Deflate

/-!
# What a rewritten archive holds

An archive that is written again lists the entries of the old one under their names and in their order,
and keeps its comment. A class holds what the optimizer made of it, an archive what the purge made of it,
one level down, and everything else what it held before; what stands is kept. This is read off the
archive that was written, so it takes for granted that reading gives back what was written:
`readsBack_of_renews` says when it does.
-/
set_option autoImplicit false

namespace Unannotate

/-- The content of an entry that is written, when the checksum that is written with it is right. -/
def NewEntry.content? (new : NewEntry) : Option Bytes := do
  let content ← new.compression.expand? new.stored
  if (crc32 content).toNat = new.checksum then return content else none

theorem content?_copied (entry : Entry) (compression : Compression) (stored : Bytes) :
    (entry.copied compression stored).content? = entry.content? compression stored := rfl

theorem content?_withContent (entry : Entry) (compression : Compression) (fields : List ExtraField)
    (content : Bytes) : (entry.withContent compression fields content).content? = some content := by
  simp [NewEntry.content?, Entry.withContent, Compression.expand?_compress]

namespace Archive

/-! ## Reading what was written -/

/-- An entry is copied, or it gets new content. -/
inductive Renews (archive : Archive) (entry : Entry) : NewEntry → Prop
  | copied {compression : Compression} {stored : Bytes}
      (opened : archive.open? entry = some (compression, stored)) :
      Renews archive entry (entry.copied compression stored)
  | replaced {compression : Compression} {stored : Bytes} (content : Bytes)
      (opened : archive.open? entry = some (compression, stored)) :
      Renews archive entry (entry.withContent compression entry.keptFields.1 content)

theorem Renews.name_eq {archive : Archive} {entry : Entry} {new : NewEntry}
    (renews : archive.Renews entry new) : new.name = entry.name := by
  cases renews <;> rfl

/-- Reading an archive that was written gives its comment, and the names and the contents of its
entries. -/
def ReadsBack (written : List NewEntry) (comment : Bytes) : Prop :=
  ∀ bytes, encode? written comment = some bytes → ∃ archive, ofBytes bytes = .ok archive ∧
    archive.comment = comment ∧ List.Forall₂
      (fun new entry => entry.name = new.name ∧ archive.contentOf? entry = new.content?) written
      archive.entries

/-- The directory gives no name twice, neither as its bytes spell it nor as it is read. -/
structure DistinctNames (data : Bytes) : Prop where
  spelled : ¬ RepeatsName data
  read : ∀ archive position ending listed, ofBytes data = .ok archive →
    EndsAt data position ending listed archive → (listed.map (·.name)).Nodup

theorem endsAt_of_distinctNames {data : Bytes} {archive : Archive} (distinct : DistinctNames data)
    (opened : ofBytes data = .ok archive) :
    ∃ position ending, EndsAt data position ending archive.entries archive := by
  obtain ⟨position, ending, listed, ends, -⟩ := ofBytes_eq_ok opened
  have apart := distinct.read archive position ending listed opened ends
  have same : archive.entries = listed := by rw [ends.entries, insertEntries_eq apart]
  exact ⟨position, ending, same ▸ ends⟩

/-! ### Archives that were written -/

section Encoded

variable {written : List NewEntry} {comment bytes : Bytes}

/-- An archive that is read as it was written repeats no name. -/
theorem listed_of_asWritten (encoded : encode? written comment = some bytes)
    (distinct : (written.map (·.name)).Nodup) (numbered : ∀ new ∈ written, new.Numbered)
    (opened : ofBytes bytes = .ok (asWritten written comment bytes)) :
    Listed bytes (asWritten written comment bytes) false := by
  have encodes := encodes_of_encode? encoded
  refine .whole opened (firstEntriesOnly_eq_none_iff.mpr ⟨?_, _, encodes.sequence numbered, ?_⟩)
  · rw [encodes.bytes_eq]
    simp only [asWritten, List.length_append]
    omega
  · rw [names_directoryOf]
    have spelled := List.Nodup.map Utf8.encode_injective distinct
    rwa [List.map_map] at spelled

theorem listed_encode? (encoded : encode? written comment = some bytes)
    (distinct : (written.map (·.name)).Nodup) (readable : ∀ new ∈ written, new.Readable)
    (last : (endingOf written comment).IsLast) :
    Listed bytes (asWritten written comment bytes) false :=
  listed_of_asWritten encoded distinct (fun new member => (readable new member).toNumbered)
    (ofBytes_encode? encoded distinct readable last)

theorem distinctNames_encode? (encoded : encode? written comment = some bytes)
    (distinct : (written.map (·.name)).Nodup) (readable : ∀ new ∈ written, new.Readable)
    (last : (endingOf written comment).IsLast) : DistinctNames bytes := by
  have listed := listed_encode? encoded distinct readable last
  constructor
  · rw [listed.repeatsName_iff]
    exact Bool.false_ne_true
  · intro archive position ending read opened ends
    rw [ofBytes_encode? encoded distinct readable last] at opened
    cases opened
    obtain ⟨sized, fits, -⟩ := encodes_of_encode? encoded
    obtain ⟨-, described⟩ := readEntries_of_sequence ends.read (sequence_encode? encoded readable)
    have placed : 0 + (written.flatMap NewEntry.localRecord).length < 0x100000000 := by
      rw [Nat.zero_add]
      exact fits.directoryOffset_lt
    have whole := forall₂_directoryOf sized readable placed
    have same : read = (entriesAt 0 written).take ending.entriesOnDisk :=
      entries_unique described (List.forall₂_take _ whole)
    rw [same, List.map_take, names_entriesAt]
    exact distinct.sublist (List.take_sublist _ _)

theorem ReadAs.contentOf?_eq {archive : Archive} {new : NewEntry} {entry : Entry}
    (read : archive.ReadAs new entry) : archive.contentOf? entry = new.content? := by
  obtain ⟨⟨offset, rfl⟩, opens⟩ := read
  simp only [contentOf?, opens, Option.bind_eq_bind, Option.bind_some]
  rfl

theorem exists_new_of_holds (encoded : encode? written comment = some bytes)
    (distinct : (written.map (·.name)).Nodup) (readable : ∀ new ∈ written, new.Readable)
    (last : (endingOf written comment).IsLast) {kind : ArtifactKind} {content : Bytes}
    (holds : Holds bytes kind content) :
    ∃ new ∈ written, (new.entryAt 0).artifact? = some kind ∧ new.content? = some content := by
  obtain ⟨entry, member, artifact, found⟩ :=
    (listed_encode? encoded distinct readable last).holds_iff.mp holds
  obtain ⟨new, place, read⟩ := exists_related_of_mem (readAs_encode? encoded readable).flip member
  have same : new.content? = some content := read.contentOf?_eq ▸ found
  obtain ⟨⟨offset, rfl⟩, -⟩ := read
  exact ⟨new, place, artifact, same⟩

end Encoded

theorem names_of_renews {archive : Archive} {entries : List Entry} {written : List NewEntry}
    (renews : List.Forall₂ archive.Renews entries written) :
    written.map (·.name) = entries.map (·.name) := by
  induction renews with
  | nil => rfl
  | cons first _ ih => rw [List.map_cons, List.map_cons, ih, first.name_eq]

theorem numbered_of_renews {data : Bytes} {archive : Archive} {repeats : Bool}
    {written : List NewEntry} (listed : Listed data archive repeats)
    (renews : List.Forall₂ archive.Renews archive.entries written) :
    ∀ new ∈ written, new.Numbered := by
  intro new member
  obtain ⟨entry, place, step⟩ := exists_related_of_mem renews.flip member
  obtain ⟨record, -, read⟩ := listed.exists_record place
  have described := Entry.described_of_ofRecord read
  cases step with
  | copied opened => exact ⟨described.date_lt, described.time_lt, described.checksum_lt⟩
  | replaced content opened =>
    exact ⟨described.date_lt, described.time_lt, (crc32 content).toNat_lt⟩

/-- The entries of an archive can be written and read back, when no extra field restates a name or a
comment and the comment leads to no other end record. -/
theorem readAs_of_renews {data bytes : Bytes} {archive : Archive} {repeats : Bool}
    {written : List NewEntry} (listed : Listed data archive repeats)
    (renews : List.Forall₂ archive.Renews archive.entries written)
    (plain : ∀ entry ∈ archive.entries, ¬ entry.Restates)
    (last : (endingOf written archive.comment).IsLast)
    (encoded : encode? written archive.comment = some bytes) :
    ofBytes bytes = .ok (asWritten written archive.comment bytes) ∧
      List.Forall₂ (ReadAs (asWritten written archive.comment bytes)) written
        (asWritten written archive.comment bytes).entries := by
  have distinct : (written.map (·.name)).Nodup := by
    rw [names_of_renews renews]
    exact listed.nodup_names
  have readable (new : NewEntry) (member : new ∈ written) : new.Readable := by
    obtain ⟨entry, place, step⟩ := exists_related_of_mem renews.flip member
    obtain ⟨record, -, read⟩ := listed.exists_record place
    have described := Entry.described_of_ofRecord read
    cases step with
    | copied opened => exact entry.readable_copied described _ _
    | replaced content opened => exact entry.readable_withContent described (plain entry place) _ _
  exact ⟨ofBytes_encode? encoded distinct readable last, readAs_encode? encoded readable⟩

theorem readsBack_of_renews {data : Bytes} {archive : Archive} {repeats : Bool}
    {written : List NewEntry} (listed : Listed data archive repeats)
    (renews : List.Forall₂ archive.Renews archive.entries written)
    (plain : ∀ entry ∈ archive.entries, ¬ entry.Restates)
    (last : (endingOf written archive.comment).IsLast) : ReadsBack written archive.comment := by
  intro bytes encoded
  obtain ⟨opened, read⟩ := readAs_of_renews listed renews plain last encoded
  refine ⟨_, opened, rfl, read.imp fun new entry same => ⟨?_, same.contentOf?_eq⟩⟩
  obtain ⟨⟨offset, rfl⟩, -⟩ := same
  rfl

end Archive

open Archive

variable {optimize : ClassOptimizer} {traced : Bool} {levels : Nat} {origin : String}

theorem PurgesEntry.renews {purge : ArtifactKind → Purge} {archive : Archive} {entry : Entry}
    {purged : PurgedEntry} (step : PurgesEntry purge origin archive entry purged) :
    archive.Renews entry purged.1 := by
  cases step with
  | resource opened _ => exact .copied opened
  | untouched opened _ _ _ => exact .copied opened
  | replaced opened _ _ _ => exact .replaced _ opened

/-! ## Old content and new content -/

/-- What stands in `out` for an archive: the same entries under the same comment, and the content of
each as the optimizer and the purge of inner archives leave it. -/
def Rewrites (optimize : ClassOptimizer) (traced : Bool) :
    (levels : Nat) → String → Bytes → Bytes → Prop
  | 0, _, _, _ => False
  | levels + 1, origin, data, out =>
    ∃ before after position ending, ofBytes data = .ok before ∧
      EndsAt data position ending before.entries before ∧ ofBytes out = .ok after ∧
      after.comment = before.comment ∧
      List.Forall₂ (fun old new => new.name = old.name ∧
        match old.artifact? with
        | none => after.contentOf? new = before.contentOf? old
        | some .classFile => ∃ content purged events, before.contentOf? old = some content ∧
          optimize content = .ok (purged, events) ∧
          after.contentOf? new = some (purged.bytes.getD content)
        | some .archive => ∃ content result, before.contentOf? old = some content ∧
          (purgeArchive optimize traced levels (origin ++ ":" ++ old.name) content).outcome = .ok result ∧
          after.contentOf? new = some (result.getD content) ∧
          ∀ bytes, result = some bytes →
            Rewrites optimize traced levels (origin ++ ":" ++ old.name) content bytes)
        before.entries after.entries

theorem PurgesEntry.content?_eq {purge : ArtifactKind → Purge} {archive : Archive} {entry : Entry}
    {purged : PurgedEntry} (step : PurgesEntry purge origin archive entry purged) :
    match entry.artifact? with
    | none => purged.1.content? = archive.contentOf? entry
    | some kind => ∃ content result, archive.contentOf? entry = some content ∧
      (purge kind (origin ++ ":" ++ entry.name) content).outcome = .ok result ∧
      purged.1.content? = some (result.getD content) := by
  cases step with
  | resource opened plain =>
    rw [plain]
    simp only [content?_copied, contentOf?, opened, Option.bind_eq_bind, Option.bind_some]
  | untouched opened artifact read stands =>
    rw [artifact]
    exact ⟨_, none, contentOf?_eq_some_iff.mpr ⟨_, _, opened, read⟩, stands, read⟩
  | replaced opened artifact read changed =>
    rw [artifact]
    exact ⟨_, some _, contentOf?_eq_some_iff.mpr ⟨_, _, opened, read⟩, changed,
      content?_withContent _ _ _ _⟩

theorem readable_storedEntry (name : String) (content : Bytes) :
    (storedEntry name content).Readable where
  date_lt := (by decide : 0x5264 < 0x10000)
  time_lt := (by decide : 0x28C4 < 0x10000)
  checksum_lt := (crc32 content).toNat_lt
  mode_pos := (by decide : 0 < 0o100644)
  mode_lt := (by decide : 0o100644 < 0x10000)
  inert := by simp [storedEntry]

theorem content?_storedEntry (name : String) (content : Bytes) :
    (storedEntry name content).content? = some content := by
  simp [NewEntry.content?, storedEntry, Compression.expand?]

theorem not_restates_storedEntry (name : String) (content : Bytes) (offset : Nat) :
    ¬ ((storedEntry name content).entryAt offset).Restates := by
  rintro ⟨field, member, -⟩
  have none : ((storedEntry name content).entryAt offset).keptFields.1 = [] := by
    have splits : ExtraField.Splits ((storedEntry name content).entryAt offset).extra [] [] :=
      ⟨rfl, by simp, .inl (by decide)⟩
    rw [Entry.keptFields_eq splits, List.filter_nil]
  rw [none] at member
  cases member

/-- An archive of stored entries of different names. -/
structure Packs (written : List NewEntry) (bytes : Bytes) : Prop where
  encoded : encode? written [] = some bytes
  distinct : (written.map (·.name)).Nodup
  stored : ∀ new ∈ written, ∃ name content, new = storedEntry name content

theorem Packs.readable {written : List NewEntry} {bytes : Bytes} (packs : Packs written bytes)
    (new : NewEntry) (member : new ∈ written) : new.Readable := by
  obtain ⟨name, content, rfl⟩ := packs.stored new member
  exact readable_storedEntry name content

theorem Packs.isLast (written : List NewEntry) : (endingOf written []).IsLast :=
  EndRecord.isLast_of_comment_eq_nil rfl

theorem Packs.listed {written : List NewEntry} {bytes : Bytes} (packs : Packs written bytes) :
    Listed bytes (asWritten written [] bytes) false :=
  listed_encode? packs.encoded packs.distinct packs.readable (Packs.isLast written)

theorem Packs.not_restates {written : List NewEntry} {bytes : Bytes} (packs : Packs written bytes)
    {entry : Entry} (member : entry ∈ (asWritten written [] bytes).entries) : ¬ entry.Restates := by
  obtain ⟨new, place, ⟨offset, rfl⟩, -⟩ :=
    exists_related_of_mem (readAs_encode? packs.encoded packs.readable).flip member
  obtain ⟨name, content, rfl⟩ := packs.stored new place
  exact not_restates_storedEntry name content offset

theorem Packs.exists_of_holds {written : List NewEntry} {bytes content : Bytes} {kind : ArtifactKind}
    (packs : Packs written bytes) (holds : Holds bytes kind content) :
    ∃ name, storedEntry name content ∈ written ∧
      ((storedEntry name content).entryAt 0).artifact? = some kind := by
  obtain ⟨new, member, artifact, found⟩ := exists_new_of_holds packs.encoded packs.distinct
    packs.readable (Packs.isLast written) holds
  obtain ⟨name, kept, rfl⟩ := packs.stored new member
  rw [content?_storedEntry] at found
  cases found
  exact ⟨name, member, artifact⟩

theorem encode?_packed {written : List NewEntry} (fits : (encode? written []).isSome) :
    encode? written [] = some (packed written) := by
  obtain ⟨bytes, encoded⟩ := Option.isSome_iff_exists.mp fits
  rw [packed, encoded, Option.getD_some]

/-- The entries of an archive of two classes. -/
def twoClasses (content : Bytes) : List NewEntry :=
  [storedEntry "A.class" content, storedEntry "B.class" []]

/-- The entries of an archive that holds an archive and a resource. -/
def boxed (content : Bytes) : List NewEntry :=
  [storedEntry "lib.jar" (packed (twoClasses content)), storedEntry "r.txt" [1]]

end Unannotate
