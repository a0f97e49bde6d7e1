import Unannotate.Proofs.ArchivePurge.Copied

/-!
# What is kept of an entry with new content

An entry whose content is replaced has the name, the comment, the method, the time of modification and the
permissions that it had, and its extra fields are the complete ones that it had, in their order, but for
those of the writer and those that are refused. This is read off the directory of the archive that is
written, so nothing is assumed of how such an archive is read.
-/
set_option autoImplicit false

namespace Unannotate

open Archive

/-- What a directory record says is what an entry was read as, and its extra fields are those of the entry
that are not of the writer and were not refused. -/
structure KeepsMetadata (old : Entry) (record : DirectoryRecord) : Prop where
  name : Entry.decodeText ((record.header.field 8 2).testBit 11) record.name = old.name
  comment : Entry.decodeText ((record.header.field 8 2).testBit 11) record.comment = old.comment
  compression : Compression.ofCode? (record.header.field 10 2) = old.compression
  modified : (⟨record.header.field 14 2, record.header.field 12 2⟩ : Timestamp) = old.modified
  permissions : ∀ mode, old.mode = some mode →
    ∃ kept, unixMode (record.header.field 5 1) (record.header.field 38 4) = some kept ∧
      kept % 0o1000 = mode % 0o1000
  extra : ∃ fields tail kept refused, ExtraField.Splits old.extra fields tail ∧
    ExtraField.Gives Entry.giveField [] (fields.filter (·.id ∉ [0x0001, 0x9901, 0xA11E])) kept refused ∧
    record.extra = kept.flatMap ExtraField.encode

theorem keepsMetadata_of_recordRead {old : Entry} {compression : Compression} {content : Bytes}
    {record : DirectoryRecord} (known : old.compression = some compression)
    (read : (old.withContent compression old.keptFields.1 content).RecordRead record) :
    KeepsMetadata old record where
  name := by
    rw [read.flags]
    exact read.name
  comment := by
    rw [read.flags]
    exact read.comment
  compression := by
    rw [read.code, known]
    exact Compression.ofCode?_code compression
  modified := by
    rw [read.date, read.time]
    rfl
  permissions := by
    intro mode present
    refine ⟨_, read.mode, ?_⟩
    have written : writtenMode old.mode = mode % 0o1000 + 0o100000 := by
      rw [writtenMode, present, Option.getD_some]
    show writtenMode old.mode % 0o1000 = _
    omega
  extra := by
    have splits := ExtraField.splits_parse old.extra
    obtain ⟨kept, refused, gives, carried⟩ :=
      ExtraField.exists_carry_eq Entry.appends_giveField splits
    refine ⟨_, _, kept, refused, splits, gives, ?_⟩
    have given : old.keptFields.1 = kept := congrArg Prod.fst carried
    rw [read.extra, ← given]
    rfl

theorem Archive.Renews.mode_bounds {archive : Archive} {entry : Entry} {new : NewEntry}
    (renews : archive.Renews entry new) : 0 < new.mode ∧ new.mode < 0x10000 := by
  cases renews <;> exact writtenMode_bounds entry.mode

theorem recordRead_directoryOf {written : List NewEntry} (offset : Nat)
    (sized : ∀ new ∈ written, new.Sized) (numbered : ∀ new ∈ written, new.Numbered)
    (modes : ∀ new ∈ written, 0 < new.mode ∧ new.mode < 0x10000) :
    List.Forall₂ NewEntry.RecordRead written (directoryOf offset written) := by
  induction written generalizing offset with
  | nil => exact .nil
  | cons new rest ih =>
    rw [List.forall_mem_cons] at sized numbered modes
    exact .cons (NewEntry.recordRead sized.1 numbered.1 modes.1.1 modes.1.2 offset)
      (ih _ sized.2 numbered.2 modes.2)

/-- A class with a comment. -/
def commentedClass (content : Bytes) (fields : List ExtraField) : NewEntry :=
  { storedEntry "A.class" content with comment := "first", fields }

/-- A field of the writer, and one that restates the name, between two others. -/
def mixedFields : List ExtraField :=
  [⟨0x6A70, [1]⟩, ⟨0xA11E, [0, 0]⟩,
    ⟨0x7075, [1] ++ Bytes.littleEndian 4 (crc32 (Utf8.encode "A.class")).toNat ++ Utf8.encode "A.class"⟩,
    ⟨0x6A71, [2]⟩]

/-- The same fields, and the beginning of another one. -/
def cutShort : Bytes := mixedFields.flatMap ExtraField.encode ++ [0x72, 0x6A, 9, 0, 1]

end Unannotate
