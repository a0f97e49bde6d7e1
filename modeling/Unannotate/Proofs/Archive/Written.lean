import Unannotate.Proofs.Archive.ExtraFields
import Unannotate.Proofs.Archive.Opening
import Unannotate.Proofs.Text

/-!
# An archive is read back as it was written

What was written about an entry is read back from its directory record, and the bytes it was given from
behind its own header. So an archive that was written opens, and lists what was written, when the names
differ, the numbers fit, no extra field is one that would change or refuse the entry, and no other end
record can be read in the comment.
-/
set_option autoImplicit false

namespace Unannotate

/-! ## Extra fields -/

namespace ExtraField

/-- A field that can be written, and that leaves an entry alone when it is read. -/
structure Inert (field : ExtraField) : Prop extends Bounded field where
  passed : ∀ entry : Entry, entry.applyField field = .ok entry

theorem parse_encode {fields : List ExtraField} (inert : ∀ field ∈ fields, field.Inert) :
    parse (fields.flatMap encode) = (fields, []) :=
  parse_of_splits ⟨(List.append_nil _).symm, fun field member => (inert field member).toBounded,
    .inl (by decide)⟩

theorem foldlM_applyField {fields : List ExtraField} (inert : ∀ field ∈ fields, field.Inert)
    (entry : Entry) : fields.foldlM Entry.applyField entry = .ok entry := by
  induction fields with
  | nil => rfl
  | cons field rest ih =>
    rw [List.forall_mem_cons] at inert
    rw [List.foldlM_cons, inert.1.passed entry]
    exact ih inert.2

end ExtraField

namespace NewEntry

/-! ## Records -/

/-- The numbers that are copied from an entry fit their fields. -/
structure Numbered (new : NewEntry) : Prop where
  date_lt : new.modified.date < 0x10000
  time_lt : new.modified.time < 0x10000
  checksum_lt : new.checksum < 0x100000000

structure Readable (new : NewEntry) : Prop extends Numbered new where
  mode_pos : 0 < new.mode
  mode_lt : new.mode < 0x10000
  inert : ∀ field ∈ new.fields, field.Inert

/-- What an entry is read as, when its own header stands at `offset`. -/
def entryAt (new : NewEntry) (offset : Nat) : Entry :=
  { rawName := Utf8.encode new.name
    name := new.name
    rawComment := Utf8.encode new.comment
    comment := new.comment
    extra := new.extra
    encrypted := false
    compression := some new.compression
    modified := new.modified
    checksum := new.checksum
    compressedSize := new.stored.length
    size := new.size
    mode := some new.mode
    headerOffset := offset }

structure Sized (new : NewEntry) : Prop where
  name_lt : (Utf8.encode new.name).length < 0x10000
  comment_lt : (Utf8.encode new.comment).length < 0x10000
  extra_lt : new.extra.length < 0x10000
  stored_lt : new.stored.length < 0xFFFFFFFF
  size_lt : new.size < 0xFFFFFFFF

theorem fits_eq_true_iff {new : NewEntry} : new.fits = true ↔ new.Sized := by
  simp only [fits, Bool.and_eq_true, decide_eq_true_eq]
  constructor
  · rintro ⟨⟨⟨⟨name, comment⟩, extra⟩, stored⟩, size⟩
    exact ⟨name, comment, extra, stored, size⟩
  · rintro ⟨name, comment, extra, stored, size⟩
    exact ⟨⟨⟨⟨name, comment⟩, extra⟩, stored⟩, size⟩

theorem flags_lt (new : NewEntry) : new.flags < 0x10000 := by
  unfold flags
  split <;> decide

theorem code_lt (compression : Compression) : compression.code < 0x10000 := by
  cases compression <;> decide

theorem length_sharedFields (new : NewEntry) : new.sharedFields.length = 26 := by
  simp [sharedFields, Bytes.length_littleEndian]

theorem decodeText_encode (new : NewEntry) {text : String} (plain : new.flags = 0 → isAscii text) :
    Entry.decodeText (new.flags.testBit 11) (Utf8.encode text) = text := by
  by_cases ascii : new.flags = 0
  · rw [ascii]
    exact CodePage437.decode_encode (plain ascii)
  · have marked : new.flags = 0x800 := by
      unfold flags at ascii ⊢
      exact if_neg fun both => ascii (if_pos both)
    rw [marked]
    exact Utf8.decodeLossy_encode text

theorem isAscii_of_flags_eq_zero {new : NewEntry} (plain : new.flags = 0) :
    isAscii new.name = true ∧ isAscii new.comment = true := by
  unfold flags at plain
  split at plain
  · next ascii => simpa using ascii
  · cases plain

theorem testBit_flags_zero (new : NewEntry) : new.flags.testBit 0 = false := by
  unfold flags
  split <;> decide

/-! ### Fields -/

theorem sharedFields_eq (new : NewEntry) :
    new.sharedFields = Bytes.littleEndian 2 new.version ++ (Bytes.littleEndian 2 new.flags ++
      (Bytes.littleEndian 2 new.compression.code ++ (Bytes.littleEndian 2 new.modified.time ++
        (Bytes.littleEndian 2 new.modified.date ++ (Bytes.littleEndian 4 new.checksum ++
          (Bytes.littleEndian 4 new.stored.length ++ (Bytes.littleEndian 4 new.size ++
            (Bytes.littleEndian 2 (Utf8.encode new.name).length ++
              Bytes.littleEndian 2 new.extra.length)))))))) := by
  simp [sharedFields]

/-- The fields of a directory record behind those that both headers of an entry share. -/
def recordFields (new : NewEntry) (offset : Nat) : Bytes :=
  Bytes.littleEndian 2 (Utf8.encode new.comment).length ++ (Bytes.littleEndian 2 0 ++
    (Bytes.littleEndian 2 0 ++ (Bytes.littleEndian 4 (new.mode * 65536) ++
      Bytes.littleEndian 4 offset)))

/-- The signature of a directory record, and the version and the system that the entry is from. -/
def recordFront (new : NewEntry) : Bytes :=
  DirectoryRecord.signature ++ [UInt8.ofNat new.version, 3]

theorem length_recordFront (new : NewEntry) : new.recordFront.length = 6 := by
  simp [recordFront, DirectoryRecord.signature]

theorem header_directoryRecord (new : NewEntry) (offset : Nat) :
    (new.directoryRecord offset).header
      = new.recordFront ++ (new.sharedFields ++ new.recordFields offset) := by
  simp [directoryRecord, recordFront, recordFields]

theorem field_shared (new : NewEntry) (offset position width : Nat) (inside : position + width ≤ 26) :
    (new.directoryRecord offset).header.field (6 + position) width
      = new.sharedFields.field position width := by
  have behind : new.recordFront.length ≤ 6 + position := by
    rw [length_recordFront]
    omega
  rw [header_directoryRecord, Bytes.field_append_right _ behind, length_recordFront,
    Nat.add_sub_cancel_left, Bytes.field_append _ (by rw [length_sharedFields]; exact inside)]

theorem field_record (new : NewEntry) (offset position width : Nat) :
    (new.directoryRecord offset).header.field (32 + position) width
      = (new.recordFields offset).field position width := by
  have front : (new.recordFront ++ new.sharedFields).length = 32 := by
    rw [List.length_append, length_recordFront, length_sharedFields]
  rw [header_directoryRecord, ← List.append_assoc, Bytes.field_append_right _ (by omega), front,
    Nat.add_sub_cancel_left]

structure SharedRead (new : NewEntry) : Prop where
  flags : new.sharedFields.field 2 2 = new.flags
  code : new.sharedFields.field 4 2 = new.compression.code
  time : new.sharedFields.field 6 2 = new.modified.time
  date : new.sharedFields.field 8 2 = new.modified.date
  checksum : new.sharedFields.field 10 4 = new.checksum
  stored : new.sharedFields.field 14 4 = new.stored.length
  size : new.sharedFields.field 18 4 = new.size
  name : new.sharedFields.field 22 2 = (Utf8.encode new.name).length
  extra : new.sharedFields.field 24 2 = new.extra.length

theorem sharedRead {new : NewEntry} (sized : new.Sized) (numbered : new.Numbered) :
    new.SharedRead := by
  have flags := flags_lt new
  have code := code_lt new.compression
  obtain ⟨name, -, extra, stored, size⟩ := sized
  obtain ⟨date, time, checksum⟩ := numbered
  have storedFits : new.stored.length < 0x100000000 := by omega
  have sizeFits : new.size < 0x100000000 := by omega
  constructor
  all_goals
    simp [sharedFields_eq, Bytes.field_append_right, Bytes.length_littleEndian,
      Bytes.field_littleEndian, Bytes.field_littleEndian_self, Bytes.capacity, *]

theorem listable_directoryRecord {new : NewEntry} (sized : new.Sized) (numbered : new.Numbered)
    (offset : Nat) : (new.directoryRecord offset).Listable := by
  have shared := sharedRead sized numbered
  have name : (new.directoryRecord offset).header.field 28 2 = (Utf8.encode new.name).length :=
    (field_shared new offset 22 2 (by decide)).trans shared.name
  have extra : (new.directoryRecord offset).header.field 30 2 = new.extra.length :=
    (field_shared new offset 24 2 (by decide)).trans shared.extra
  have comment : (new.directoryRecord offset).header.field 32 2 = (Utf8.encode new.comment).length :=
    (field_record new offset 0 2).trans (Bytes.field_littleEndian _ sized.comment_lt)
  refine ⟨⟨?_, name.symm, extra.symm, comment.symm⟩, ?_⟩
  · simp [header_directoryRecord, length_recordFront, length_sharedFields, recordFields,
      Bytes.length_littleEndian, DirectoryRecord.headerSize]
  · rw [header_directoryRecord, recordFront, List.append_assoc]
    exact List.prefix_append _ _

/-- What a directory record says of an entry that is written, where its own header does not matter. -/
structure RecordRead (new : NewEntry) (record : DirectoryRecord) : Prop where
  flags : record.header.field 8 2 = new.flags
  code : record.header.field 10 2 = new.compression.code
  time : record.header.field 12 2 = new.modified.time
  date : record.header.field 14 2 = new.modified.date
  checksum : record.header.field 16 4 = new.checksum
  stored : record.header.field 20 4 = new.stored.length
  size : record.header.field 24 4 = new.size
  mode : unixMode (record.header.field 5 1) (record.header.field 38 4) = some new.mode
  name : Entry.decodeText (new.flags.testBit 11) record.name = new.name
  comment : Entry.decodeText (new.flags.testBit 11) record.comment = new.comment
  extra : record.extra = new.extra

theorem unixMode_directoryRecord {new : NewEntry} (positive : 0 < new.mode) (small : new.mode < 0x10000)
    (offset : Nat) :
    unixMode ((new.directoryRecord offset).header.field 5 1) ((new.directoryRecord offset).header.field 38 4)
      = some new.mode := by
  have modeFits : new.mode * 65536 < 0x100000000 := by omega
  have mode : (new.directoryRecord offset).header.field 38 4 = new.mode * 65536 := by
    rw [field_record new offset 6 4]
    simp [recordFields, Bytes.field_append_right, Bytes.length_littleEndian, Bytes.field_littleEndian,
      Bytes.capacity, modeFits]
  have host : (new.directoryRecord offset).header.field 5 1 = 3 := by
    have inside : 5 + 1 ≤ new.recordFront.length := Nat.le_of_eq (length_recordFront new).symm
    rw [header_directoryRecord, Bytes.field_append _ inside]
    simp [recordFront, Bytes.field, DirectoryRecord.signature, Bytes.ofLittleEndian]
  have some : new.mode * 65536 ≠ 0 := by omega
  have high : new.mode * 65536 / 65536 = new.mode := by omega
  rw [mode, host, unixMode, if_neg some, high, if_pos (by omega)]

theorem recordRead {new : NewEntry} (sized : new.Sized) (numbered : new.Numbered)
    (positive : 0 < new.mode) (small : new.mode < 0x10000) (offset : Nat) :
    new.RecordRead (new.directoryRecord offset) := by
  have shared := sharedRead sized numbered
  have field (position width : Nat) (inside : position + width ≤ 26) :=
    field_shared new offset position width inside
  exact {
    flags := (field 2 2 (by decide)).trans shared.flags
    code := (field 4 2 (by decide)).trans shared.code
    time := (field 6 2 (by decide)).trans shared.time
    date := (field 8 2 (by decide)).trans shared.date
    checksum := (field 10 4 (by decide)).trans shared.checksum
    stored := (field 14 4 (by decide)).trans shared.stored
    size := (field 18 4 (by decide)).trans shared.size
    mode := unixMode_directoryRecord positive small offset
    name := decodeText_encode new fun plain => (isAscii_of_flags_eq_zero plain).1
    comment := decodeText_encode new fun plain => (isAscii_of_flags_eq_zero plain).2
    extra := rfl }

theorem ofRecord_directoryRecord {new : NewEntry} (sized : new.Sized) (readable : new.Readable)
    {offset : Nat} (placed : offset < 0x100000000) :
    Entry.ofRecord 0 (new.directoryRecord offset) = .ok (new.entryAt offset) := by
  have read := recordRead sized readable.toNumbered readable.mode_pos readable.mode_lt offset
  have place : (new.directoryRecord offset).header.field 42 4 = offset := by
    rw [field_record new offset 10 4]
    simp [recordFields, Bytes.field_append_right, Bytes.length_littleEndian,
      Bytes.field_littleEndian_self, Bytes.capacity, placed]
  have parsed := ExtraField.parse_encode readable.inert
  simp only [Entry.ofRecord, read.flags, read.code, read.time, read.date, read.checksum, read.stored,
    read.size, read.mode, read.name, read.comment, read.extra, place, testBit_flags_zero,
    Compression.ofCode?_code, Nat.zero_add, Entry.applyExtra, extra, parsed,
    ExtraField.foldlM_applyField readable.inert]
  rfl

end NewEntry

namespace Archive

/-! ## Entries -/

/-- The entries that written ones are read as, where their headers begin at `offset`. -/
def entriesAt (offset : Nat) : List NewEntry → List Entry
  | [] => []
  | new :: rest => new.entryAt offset :: entriesAt (offset + new.localRecord.length) rest

theorem names_entriesAt (offset : Nat) (written : List NewEntry) :
    (entriesAt offset written).map (·.name) = written.map (·.name) := by
  induction written generalizing offset with
  | nil => rfl
  | cons new rest ih => rw [entriesAt, List.map_cons, List.map_cons, ih, NewEntry.entryAt]

theorem names_directoryOf (offset : Nat) (written : List NewEntry) :
    (directoryOf offset written).map (·.name) = written.map (Utf8.encode ·.name) := by
  induction written generalizing offset with
  | nil => rfl
  | cons new rest ih => rw [directoryOf, List.map_cons, List.map_cons, ih, NewEntry.directoryRecord]

theorem length_directoryOf (offset : Nat) (written : List NewEntry) :
    (directoryOf offset written).length = written.length := by
  induction written generalizing offset with
  | nil => rfl
  | cons new rest ih => rw [directoryOf, List.length_cons, List.length_cons, ih]

theorem listable_directoryOf {offset : Nat} {written : List NewEntry}
    (sized : ∀ new ∈ written, new.Sized) (numbered : ∀ new ∈ written, new.Numbered)
    {record : DirectoryRecord} (member : record ∈ directoryOf offset written) : record.Listable := by
  induction written generalizing offset with
  | nil => cases member
  | cons new rest ih =>
    rw [List.forall_mem_cons] at sized numbered
    cases member with
    | head => exact NewEntry.listable_directoryRecord sized.1 numbered.1 offset
    | tail _ later => exact ih sized.2 numbered.2 later

theorem forall₂_directoryOf {offset : Nat} {written : List NewEntry}
    (sized : ∀ new ∈ written, new.Sized) (readable : ∀ new ∈ written, new.Readable)
    (placed : offset + (written.flatMap NewEntry.localRecord).length < 0x100000000) :
    List.Forall₂ (fun record entry => Entry.ofRecord 0 record = .ok entry) (directoryOf offset written)
      (entriesAt offset written) := by
  induction written generalizing offset with
  | nil => exact .nil
  | cons new rest ih =>
    rw [List.forall_mem_cons] at sized readable
    rw [List.flatMap_cons, List.length_append] at placed
    exact .cons (NewEntry.ofRecord_directoryRecord sized.1 readable.1 (by omega))
      (ih sized.2 readable.2 (by omega))

/-- A written entry, as it is read from an archive. -/
structure ReadAs (archive : Archive) (new : NewEntry) (entry : Entry) : Prop where
  described : ∃ offset, entry = new.entryAt offset
  opens : archive.open? entry = some (new.compression, new.stored)

theorem open?_entryAt {archive : Archive} {new : NewEntry} {front back : Bytes} (sized : new.Sized)
    (numbered : new.Numbered) (place : archive.data = front ++ (new.localRecord ++ back)) :
    archive.open? (new.entryAt front.length) = some (new.compression, new.stored) := by
  have shared := NewEntry.sharedRead sized numbered
  have size : (localSignature ++ new.sharedFields).length = localHeaderSize := by
    simp [NewEntry.length_sharedFields, localSignature, localHeaderSize]
  have cut : Bytes.split? localHeaderSize (archive.data.drop front.length)
      = some (localSignature ++ new.sharedFields,
        Utf8.encode new.name ++ new.extra ++ (new.stored ++ back)) := by
    rw [place, List.drop_left, Bytes.split?_eq_some_iff]
    exact ⟨by simp [NewEntry.localRecord], size⟩
  have signed : localSignature.isPrefixOf (localSignature ++ new.sharedFields) = true :=
    List.isPrefixOf_iff_prefix.mpr (List.prefix_append _ _)
  have name : Bytes.field (localSignature ++ new.sharedFields) 26 2 = (Utf8.encode new.name).length :=
    (Bytes.field_append_right _ (by decide)).trans shared.name
  have extra : Bytes.field (localSignature ++ new.sharedFields) 28 2 = new.extra.length :=
    (Bytes.field_append_right _ (by decide)).trans shared.extra
  have skipped : (Utf8.encode new.name ++ new.extra ++ (new.stored ++ back)).drop
      ((Utf8.encode new.name).length + new.extra.length) = new.stored ++ back :=
    List.drop_left' List.length_append
  simp only [open?, NewEntry.entryAt, Option.bind_eq_bind, Option.bind_some, cut, signed, name, extra,
    skipped, List.take_left, and_self, if_true, Option.pure_def]

theorem forall₂_readAs {archive : Archive} {written : List NewEntry} {front back : Bytes}
    (sized : ∀ new ∈ written, new.Sized) (numbered : ∀ new ∈ written, new.Numbered)
    (place : archive.data = front ++ (written.flatMap NewEntry.localRecord ++ back)) :
    List.Forall₂ (ReadAs archive) written (entriesAt front.length written) := by
  induction written generalizing front with
  | nil => exact .nil
  | cons new rest ih =>
    rw [List.forall_mem_cons] at sized numbered
    have here : archive.data
        = front ++ (new.localRecord ++ (rest.flatMap NewEntry.localRecord ++ back)) := by
      rw [place, List.flatMap_cons, List.append_assoc]
    have behind : archive.data
        = (front ++ new.localRecord) ++ (rest.flatMap NewEntry.localRecord ++ back) := by
      rw [here, List.append_assoc]
    have later := ih sized.2 numbered.2 behind
    rw [List.length_append] at later
    exact .cons ⟨⟨_, rfl⟩, open?_entryAt sized.1 numbered.1 here⟩ later

/-! ## Archives -/

theorem shift?_eq_zero {front back : Bytes} {records : List DirectoryRecord} {ending : EndRecord}
    (listable : ∀ record ∈ records, record.Listable) (count : ending.entries = records.length)
    (offset : ending.directoryOffset = front.length) :
    shift? (front ++ records.flatMap DirectoryRecord.encode ++ back)
      (front ++ records.flatMap DirectoryRecord.encode).length ending = some 0 := by
  rw [List.length_append, List.append_assoc]
  cases records with
  | nil =>
    have none : ending.entries = 0 := count
    simp only [shift?, if_pos none, offset, List.flatMap_nil, List.length_nil, Nat.add_zero,
      Nat.sub_self]
  | cons record rest =>
    have nonempty : ending.entries ≠ 0 := by
      rw [count, List.length_cons]
      omega
    obtain ⟨tail, directory⟩ : DirectoryRecord.signature <+:
        (record :: rest).flatMap DirectoryRecord.encode :=
      DirectoryRecord.signature_prefix_flatMap (listable record List.mem_cons_self)
    have long := congrArg List.length directory
    have width : DirectoryRecord.signature.length = 4 := by decide
    rw [List.length_append, width] at long
    have first : firstPosition? DirectoryRecord.signature front.length
        ((record :: rest).flatMap DirectoryRecord.encode) = some front.length := by
      rw [← directory]
      rfl
    simp only [shift?, if_neg nonempty, offset, List.drop_left, Nat.add_sub_cancel_left, List.take_left,
      first, Option.map_some, Nat.sub_self]
    rw [if_neg (by omega)]

/-- The end record of a written archive. -/
def endingOf (written : List NewEntry) (comment : Bytes) : EndRecord :=
  .ofDirectory written.length ((directoryOf 0 written).flatMap DirectoryRecord.encode).length
    (written.flatMap NewEntry.localRecord).length comment

/-- What an archive consists of when it could be written. -/
structure Encodes (written : List NewEntry) (comment bytes : Bytes) : Prop where
  sized : ∀ new ∈ written, new.Sized
  fits : (endingOf written comment).Fits
  bytes_eq : bytes = written.flatMap NewEntry.localRecord
    ++ (directoryOf 0 written).flatMap DirectoryRecord.encode ++ (endingOf written comment).encode

theorem encodes_of_encode? {written : List NewEntry} {comment bytes : Bytes}
    (encoded : encode? written comment = some bytes) : Encodes written comment bytes := by
  simp only [encode?] at encoded
  split at encoded
  · next fits =>
    obtain ⟨sizes, count, directorySize, frontSize, commentSize⟩ := fits
    cases encoded
    refine ⟨fun new member => NewEntry.fits_eq_true_iff.mp (List.all_eq_true.mp sizes new member), ?_,
      rfl⟩
    constructor
    all_goals
      simp only [endingOf, EndRecord.ofDirectory]
      omega
  · cases encoded

/-- What a written archive is read as. -/
def asWritten (written : List NewEntry) (comment bytes : Bytes) : Archive :=
  { data := bytes, entries := entriesAt 0 written, comment
    directoryStart := (written.flatMap NewEntry.localRecord).length, offset := 0 }

section Encoded

variable {written : List NewEntry} {comment bytes : Bytes}

theorem ofBytes_encode? (encoded : encode? written comment = some bytes)
    (distinct : (written.map (·.name)).Nodup) (readable : ∀ new ∈ written, new.Readable)
    (last : (endingOf written comment).IsLast) :
    ofBytes bytes = .ok (asWritten written comment bytes) := by
  -- The directory stands where the end record says, no two records give one name, and so the entries
  -- are those of the records.
  obtain ⟨sized, fits, rfl⟩ := encodes_of_encode? encoded
  have listable (record : DirectoryRecord) (member : record ∈ directoryOf 0 written) :
      record.Listable :=
    listable_directoryOf sized (fun new place => (readable new place).toNumbered) member
  have apart : ((entriesAt 0 written).map (·.name)).Nodup := by
    rw [names_entriesAt]
    exact distinct
  have placed : 0 + (written.flatMap NewEntry.localRecord).length < 0x100000000 := by
    rw [Nat.zero_add]
    exact fits.directoryOffset_lt
  have opened := ofBytes_of_directory fits last rfl (length_directoryOf 0 written).symm rfl
    (shift?_eq_zero listable (length_directoryOf 0 written).symm rfl) listable
    (forall₂_directoryOf sized readable placed)
  rw [insertEntries_eq apart] at opened
  exact opened

theorem Encodes.readAs (encodes : Encodes written comment bytes)
    (numbered : ∀ new ∈ written, new.Numbered) :
    List.Forall₂ (ReadAs (asWritten written comment bytes)) written
      (asWritten written comment bytes).entries := by
  obtain ⟨sized, -, rfl⟩ := encodes
  have front : ((written.flatMap NewEntry.localRecord
      ++ (directoryOf 0 written).flatMap DirectoryRecord.encode) ++ (endingOf written comment).encode)
      = [] ++ (written.flatMap NewEntry.localRecord
        ++ ((directoryOf 0 written).flatMap DirectoryRecord.encode
          ++ (endingOf written comment).encode)) := by simp
  change List.Forall₂ _ written (entriesAt ([] : Bytes).length written)
  exact forall₂_readAs sized numbered front

theorem readAs_encode? (encoded : encode? written comment = some bytes)
    (readable : ∀ new ∈ written, new.Readable) :
    List.Forall₂ (ReadAs (asWritten written comment bytes)) written
      (asWritten written comment bytes).entries :=
  (encodes_of_encode? encoded).readAs fun new member => (readable new member).toNumbered

/-- The directory of a written archive has one record for each entry, and nothing behind them. -/
theorem Encodes.sequence (encodes : Encodes written comment bytes)
    (numbered : ∀ new ∈ written, new.Numbered) :
    DirectoryRecord.sequence (bytes.drop (written.flatMap NewEntry.localRecord).length)
      = .ok (directoryOf 0 written) := by
  obtain ⟨sized, -, rfl⟩ := encodes
  rw [List.append_assoc, List.drop_left]
  exact DirectoryRecord.sequence_flatMap_encode
    (fun _ member => listable_directoryOf sized numbered member) (EndRecord.starts_encode _)

theorem sequence_encode? (encoded : encode? written comment = some bytes)
    (readable : ∀ new ∈ written, new.Readable) :
    DirectoryRecord.sequence (bytes.drop (written.flatMap NewEntry.localRecord).length)
      = .ok (directoryOf 0 written) :=
  (encodes_of_encode? encoded).sequence fun new member => (readable new member).toNumbered

end Encoded

end Archive

end Unannotate
