import Unannotate.Proofs.Archive.Written

/-!
# What is known of an entry that was read

The numbers of an entry are fields of its record, so they fit such fields again. The extra fields of the
record were read with it: each was passed, so it would be passed again, in another entry, as long as it
does not restate the name or the comment of the one it came with.
-/
set_option autoImplicit false

namespace Unannotate

namespace Entry

/-! ## Numbers -/

/-- Two entries that extra fields do not tell apart. -/
structure SameNumbers (first second : Entry) : Prop where
  extra : second.extra = first.extra
  modified : second.modified = first.modified
  checksum : second.checksum = first.checksum

theorem sameNumbers_of_applyField {entry after : Entry} {field : ExtraField}
    (applied : entry.applyField field = .ok after) : entry.SameNumbers after := by
  -- Every kind of field is checked, and what passes gives an entry with the same numbers.
  have passed {α : Type} {check : Except ArchiveFault α} {make : α → Entry}
      (success : (check >>= fun part => pure (make part)) = .ok after)
      (same : ∀ part, entry.SameNumbers (make part)) : entry.SameNumbers after := by
    obtain ⟨part, _, finished⟩ := outcome_bind_ok_iff.mp success
    cases finished
    exact same part
  unfold applyField at applied
  split at applied
  · exact passed applied fun _ => ⟨rfl, rfl, rfl⟩
  split at applied
  · exact passed applied fun _ => ⟨rfl, rfl, rfl⟩
  split at applied
  · exact passed applied fun _ => ⟨rfl, rfl, rfl⟩
  split at applied
  · exact passed applied fun _ => ⟨rfl, rfl, rfl⟩
  split at applied
  · exact passed applied fun _ => ⟨rfl, rfl, rfl⟩
  · cases applied
    exact ⟨rfl, rfl, rfl⟩

/-- Every field was passed, and none has changed a number. -/
theorem of_foldlM_applyField {fields : List ExtraField} {entry after : Entry}
    (applied : fields.foldlM applyField entry = .ok after) :
    entry.SameNumbers after ∧
      ∀ field ∈ fields, ∃ before later : Entry, before.applyField field = .ok later := by
  induction fields generalizing entry with
  | nil =>
    cases applied
    exact ⟨⟨rfl, rfl, rfl⟩, by simp⟩
  | cons field rest ih =>
    obtain ⟨middle, first, remaining⟩ := outcome_bind_ok_iff.mp applied
    obtain ⟨same, passed⟩ := ih remaining
    have here := sameNumbers_of_applyField first
    refine ⟨⟨same.extra.trans here.extra, same.modified.trans here.modified,
      same.checksum.trans here.checksum⟩, ?_⟩
    rw [List.forall_mem_cons]
    exact ⟨⟨entry, middle, first⟩, passed⟩

/-- What an entry has from its record. -/
structure Described (entry : Entry) : Prop where
  date_lt : entry.modified.date < 0x10000
  time_lt : entry.modified.time < 0x10000
  checksum_lt : entry.checksum < 0x100000000
  passed : ∀ field ∈ (ExtraField.parse entry.extra).1,
    ∃ before later : Entry, before.applyField field = .ok later

theorem described_of_ofRecord {offset : Nat} {record : DirectoryRecord} {entry : Entry}
    (read : ofRecord offset record = .ok entry) : entry.Described := by
  simp only [ofRecord, applyExtra] at read
  obtain ⟨applied, fields, remaining⟩ := outcome_bind_ok_iff.mp read
  obtain ⟨-, -, finished⟩ := outcome_bind_ok_iff.mp remaining
  cases finished
  obtain ⟨same, passed⟩ := of_foldlM_applyField fields
  refine ⟨?_, ?_, ?_, ?_⟩
  · rw [same.modified]
    exact Bytes.field_lt _ _ _
  · rw [same.modified]
    exact Bytes.field_lt _ _ _
  · rw [same.checksum]
    exact Bytes.field_lt _ _ _
  · rw [same.extra]
    exact passed

end Entry

/-! ## Extra fields -/

namespace ExtraField

/-- A field that was passed and restates nothing is passed in any entry. -/
theorem inert_of_passed {field : ExtraField} {before later : Entry} (bounded : field.Bounded)
    (passed : before.applyField field = .ok later)
    (readable : field.id ≠ encryption) (path : field.id ≠ unicodePath)
    (comment : field.id ≠ unicodeComment) : field.Inert := by
  refine ⟨bounded, fun entry => ?_⟩
  unfold Entry.applyField at passed ⊢
  simp only [readable, path, comment, if_false] at passed ⊢
  split at passed
  · next unix =>
    obtain ⟨_, checked, -⟩ := outcome_bind_ok_iff.mp passed
    rw [if_pos unix, checked]
    rfl
  · next other =>
    rw [if_neg other]
    split at passed
    · next ntfs =>
      obtain ⟨_, checked, -⟩ := outcome_bind_ok_iff.mp passed
      rw [if_pos ntfs, checked]
      rfl
    · next plain =>
      rw [if_neg plain]
      rfl

end ExtraField

/-- Fields that restate the name or the comment of the entry they came with. -/
def Entry.Restates (entry : Entry) : Prop :=
  ∃ field ∈ entry.keptFields.1, field.id = ExtraField.unicodePath ∨ field.id = ExtraField.unicodeComment

theorem Entry.inert_keptFields {entry : Entry} (described : entry.Described)
    (plain : ¬ entry.Restates) {field : ExtraField} (member : field ∈ entry.keptFields.1) :
    field.Inert := by
  have splits := ExtraField.splits_parse entry.extra
  have found := member
  simp only [entry.keptFields_eq splits, List.mem_filter, decide_eq_true_eq] at found
  obtain ⟨parsed, foreign, -⟩ := found
  obtain ⟨before, later, passed⟩ := described.passed field parsed
  refine ExtraField.inert_of_passed (splits.bounded field parsed) passed ?_ ?_ ?_
  · rintro same
    exact foreign (by simp [ExtraField.ofWriter, same])
  · exact fun same => plain ⟨field, member, .inl same⟩
  · exact fun same => plain ⟨field, member, .inr same⟩

theorem writtenMode_bounds (mode : Option Nat) : 0 < writtenMode mode ∧ writtenMode mode < 0x10000 := by
  unfold writtenMode
  omega

theorem Entry.readable_copied {entry : Entry} (described : entry.Described) (compression : Compression)
    (stored : Bytes) : (entry.copied compression stored).Readable :=
  ⟨⟨described.date_lt, described.time_lt, described.checksum_lt⟩, (writtenMode_bounds entry.mode).1,
    (writtenMode_bounds entry.mode).2, by simp [Entry.copied]⟩

theorem Entry.readable_withContent {entry : Entry} (described : entry.Described)
    (plain : ¬ entry.Restates) (compression : Compression) (content : Bytes) :
    (entry.withContent compression entry.keptFields.1 content).Readable :=
  ⟨⟨described.date_lt, described.time_lt, (crc32 content).toNat_lt⟩,
    (writtenMode_bounds entry.mode).1, (writtenMode_bounds entry.mode).2,
    fun _ member => entry.inert_keptFields described plain member⟩

end Unannotate
