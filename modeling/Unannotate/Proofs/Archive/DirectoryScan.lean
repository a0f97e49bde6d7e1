import Unannotate.Proofs.Archive.FirstEntries

/-!
# Directories by position

The records of a directory, told by positions in the data: one begins where a signature stands in front of
enough bytes, says in three of its fields how long it is, and the next one begins where it ends.
`firstEntriesOnly` is determined by them. It fails where one of them overruns the data, leaves the data
alone when their names differ, and else writes the first record of each name, byte for byte, and an end
record that describes them.
-/
set_option autoImplicit false

namespace Unannotate

open DirectoryRecord

/-! ## Records by position -/

/-- The part of fixed width is there, and its signature. -/
def BeginsAt (data : Bytes) (position : Nat) : Prop :=
  position + 46 ≤ data.length ∧ data.field position 4 = 0x02014B50

instance (data : Bytes) (position : Nat) : Decidable (BeginsAt data position) :=
  inferInstanceAs (Decidable (_ ∧ _))

/-- The size that the record at a position announces. -/
def sizeAt (data : Bytes) (position : Nat) : Nat :=
  46 + data.field (position + 28) 2 + data.field (position + 30) 2 + data.field (position + 32) 2

/-- The consecutive records from a position on, and whether they are whole: the scan stops where no record
begins, or at a record that overruns the data. -/
inductive Scan (data : Bytes) : Nat → List Bytes → Bool → Prop
  | stops {position : Nat} (ends : ¬ BeginsAt data position) : Scan data position [] true
  | overruns {position : Nat} (begins : BeginsAt data position)
      (past : data.length < position + sizeAt data position) : Scan data position [] false
  | record {position : Nat} {others : List Bytes} {whole : Bool} (begins : BeginsAt data position)
      (inside : position + sizeAt data position ≤ data.length)
      (rest : Scan data (position + sizeAt data position) others whole) :
      Scan data position ((data.drop position).take (sizeAt data position) :: others) whole

theorem Scan.unique {data : Bytes} {position : Nat} {records others : List Bytes} {whole ends : Bool}
    (scan : Scan data position records whole) (other : Scan data position others ends) :
    others = records ∧ ends = whole := by
  induction scan generalizing others ends with
  | stops nothing =>
    cases other with
    | stops => exact ⟨rfl, rfl⟩
    | overruns begins => exact absurd begins nothing
    | record begins => exact absurd begins nothing
  | overruns begins past =>
    cases other with
    | stops nothing => exact absurd begins nothing
    | overruns => exact ⟨rfl, rfl⟩
    | record _ inside => exact absurd inside (Nat.not_le.mpr past)
  | record begins inside _ ih =>
    cases other with
    | stops nothing => exact absurd begins nothing
    | overruns _ past => exact absurd inside (Nat.not_le.mpr past)
    | record _ _ rest =>
      obtain ⟨rfl, rfl⟩ := ih rest
      exact ⟨rfl, rfl⟩

theorem starts_drop_iff {data : Bytes} {position : Nat} :
    starts (data.drop position) = true ↔ BeginsAt data position := by
  have width : ((data.drop position).take headerSize).length = headerSize ↔
      position + 46 ≤ data.length := by
    rw [List.length_take, List.length_drop, headerSize]
    omega
  rw [starts, Bool.and_eq_true, beq_iff_eq, width, List.isPrefixOf_iff_prefix, and_comm, BeginsAt]
  refine and_congr_right fun enough => ?_
  have spelled : signature = Bytes.littleEndian 4 0x02014B50 := by decide
  rw [spelled, Bytes.littleEndian_prefix_iff (by decide) (by rw [List.length_drop]; omega),
    Bytes.field_drop, Nat.add_zero]

theorem sizeAt_drop (data : Bytes) (position : Nat) : sizeAt (data.drop position) 0 = sizeAt data position := by
  simp only [sizeAt, Bytes.field_drop, Nat.zero_add]

/-- The size stands in the part of fixed width. -/
theorem sizeAt_append {header : Bytes} (width : header.length = headerSize) (rest : Bytes) :
    sizeAt (header ++ rest) 0 = sizeAt header 0 := by
  have announced (place : Nat) (inside : place + 2 ≤ headerSize) :
      Bytes.field (header ++ rest) (0 + place) 2 = header.field (0 + place) 2 :=
    Bytes.field_append rest (by rw [width, Nat.zero_add]; exact inside)
  rw [sizeAt, announced 28 (by decide), announced 30 (by decide), announced 32 (by decide), sizeAt]

theorem DirectoryRecord.Fits.length_encode {record : DirectoryRecord} (fits : record.Fits) (rest : Bytes) :
    record.encode.length = sizeAt (record.encode ++ rest) 0 := by
  have front : record.encode ++ rest
      = record.header ++ (record.name ++ record.extra ++ record.comment ++ rest) := by
    simp only [encode, List.append_assoc]
  rw [front, sizeAt_append fits.header_length]
  simp only [sizeAt, Nat.zero_add, encode, List.length_append, fits.header_length, headerSize,
    fits.name_length, fits.extra_length, fits.comment_length]

/-- A record is taken wherever the size that it announces is there. -/
theorem take?_ne_none {block : Bytes} (enough : headerSize ≤ block.length)
    (inside : sizeAt block 0 ≤ block.length) : take? block ≠ none := by
  have width : (block.take headerSize).length = headerSize := List.length_take_of_le enough
  have announced : sizeAt (block.take headerSize) 0 ≤ block.length := by
    rwa [← sizeAt_append width (block.drop headerSize), List.take_append_drop]
  have fixed : headerSize = 46 := rfl
  simp only [sizeAt, Nat.zero_add] at announced
  rw [take?, Bytes.split?_of_le enough]
  simp only [Option.bind_eq_bind, Option.bind_some]
  -- Name, extra data and comment, each cut off what the one before it leaves.
  rw [Bytes.split?_of_le (by simp only [List.length_drop]; omega), Option.bind_some,
    Bytes.split?_of_le (by simp only [List.length_drop]; omega), Option.bind_some,
    Bytes.split?_of_le (by simp only [List.length_drop]; omega), Option.bind_some]
  exact Option.some_ne_none _

/-- The records that are read are those of the scan, and reading fails only at one that overruns. -/
theorem scan_of_sequence (data : Bytes) (position : Nat) :
    (∀ records, sequence (data.drop position) = .ok records →
      Scan data position (records.map encode) true) ∧
    (∀ fault, sequence (data.drop position) = .error fault →
      fault = .directoryRecordTruncated ∧ ∃ records, Scan data position records false) := by
  -- By induction on the bytes that are left, which are those from a position on.
  generalize shape : data.drop position = block
  fun_induction sequence block generalizing position with
  | case1 block begins overruns =>
    rw [← shape] at begins overruns
    have place := starts_drop_iff.mp begins
    have enough := place.1
    constructor
    · intro records found
      cases found
    · intro fault failed
      cases failed
      refine ⟨rfl, [], .overruns place (Nat.lt_of_not_le fun inside => ?_)⟩
      refine take?_ne_none ?_ ?_ overruns
      · rw [List.length_drop, headerSize]
        omega
      · rw [sizeAt_drop, List.length_drop]
        omega
  | case2 block begins record rest taken ih =>
    obtain ⟨whole, listable⟩ := starts_and_take?_iff.mp ⟨begins, taken⟩
    have place := starts_drop_iff.mp (shape ▸ begins)
    have size : sizeAt data position = record.encode.length := by
      rw [← sizeAt_drop, shape, whole, ← listable.length_encode]
    have behind : data.drop (position + sizeAt data position) = rest := by
      rw [← List.drop_drop, shape, whole, size, List.drop_left]
    have inside : position + sizeAt data position ≤ data.length := by
      have total := congrArg List.length (shape.trans whole)
      rw [List.length_drop, List.length_append] at total
      have enough := place.1
      omega
    have here : (data.drop position).take (sizeAt data position) = record.encode := by
      rw [shape, whole, size, List.take_left]
    obtain ⟨onSuccess, onFailure⟩ := ih (position + sizeAt data position) behind
    constructor
    · intro records found
      obtain ⟨others, remaining, finished⟩ := outcome_bind_ok_iff.mp found
      cases finished
      rw [List.map_cons, ← here]
      exact .record place inside (onSuccess others remaining)
    · intro fault failed
      cases remaining : sequence rest with
      | ok others =>
        rw [remaining] at failed
        cases failed
      | error found =>
        rw [remaining] at failed
        cases failed
        obtain ⟨kind, others, scan⟩ := onFailure _ remaining
        exact ⟨kind, _, .record place inside scan⟩
  | case3 block ends =>
    rw [← shape, starts_drop_iff] at ends
    constructor
    · intro records found
      cases found
      exact .stops ends
    · intro fault failed
      cases failed

/-! ## The first record of each name -/

/-- The name in a record, as it is spelled there. -/
def nameOf (record : Bytes) : Bytes := (record.drop 46).take (record.field 28 2)

/-- The records that none of those in front of them has the name of. -/
def firstOfNames (records : List Bytes) : List Bytes := earliestOfEach nameOf records

theorem DirectoryRecord.Fits.nameOf_encode {record : DirectoryRecord} (fits : record.Fits) :
    nameOf record.encode = record.name := by
  have announced : record.encode.field 28 2 = record.name.length := by
    rw [encode, List.append_assoc, List.append_assoc, fits.name_length]
    exact Bytes.field_append _ (by rw [fits.header_length]; decide)
  have width : record.header.length = 46 := fits.header_length
  rw [nameOf, announced, encode, List.append_assoc, List.append_assoc, List.drop_left' width,
    List.take_left]

theorem map_nameOf_encode {records : List DirectoryRecord} (fits : ∀ record ∈ records, record.Fits) :
    (records.map encode).map nameOf = records.map (·.name) := by
  rw [List.map_map]
  exact List.map_congr_left fun record member => (fits record member).nameOf_encode

theorem firstOfNames_encode {records : List DirectoryRecord} (fits : ∀ record ∈ records, record.Fits) :
    firstOfNames (records.map encode) = (firstOfEachName [] records).map encode := by
  have pairs : List.Forall₂ (fun record bytes => encode record = bytes) records (records.map encode) :=
    List.forall₂_map_right_iff.mpr (List.forall₂_same.mpr fun _ _ => rfl)
  have named (pair : DirectoryRecord × Bytes) (member : pair ∈ records.zip (records.map encode)) :
      nameOf pair.2 = pair.1.name := by
    rw [← List.map_id' records, List.map_map, List.zip_map'] at member
    obtain ⟨record, inside, rfl⟩ := List.mem_map.mp member
    exact (fits record inside).nameOf_encode
  have first := forall₂_firstOfEach (·.name) nameOf pairs [] fun one oneIn other otherIn => by
    rw [named one oneIn, named other otherIn]
  rw [← List.forall₂_map_left_iff, List.forall₂_eq_eq_eq] at first
  rw [firstOfNames, ← firstOfEach_eq_earliestOfEach, firstOfEachName_eq]
  exact first.symm

/-! ## What is written -/

/-- An end record of an archive on one disk, without a comment, that describes so many records of such a
size at such a place. -/
structure EndsDirectory (ending : Bytes) (count size start : Nat) : Prop where
  length : ending.length = 22
  signature : ending.field 0 4 = 0x06054B50
  disk : ending.field 4 2 = 0
  directoryDisk : ending.field 6 2 = 0
  entriesOnDisk : ending.field 8 2 = count
  entries : ending.field 10 2 = count
  directorySize : ending.field 12 4 = size
  directoryOffset : ending.field 16 4 = start
  comment : ending.field 20 2 = 0

theorem endsDirectory_ofDirectory {count size start : Nat} (countFits : count < 0xFFFF)
    (sizeFits : size < 0xFFFFFFFF) (startFits : start < 0xFFFFFFFF) :
    EndsDirectory (EndRecord.ofDirectory count size start []).encode count size start := by
  have countSmall : count < 65536 := Nat.lt_trans countFits (by decide)
  have sizeSmall : size < 4294967296 := Nat.lt_trans sizeFits (by decide)
  have startSmall : start < 4294967296 := Nat.lt_trans startFits (by decide)
  have shape := EndRecord.encode_eq (EndRecord.ofDirectory count size start [])
  simp only [EndRecord.ofDirectory, List.append_nil] at shape
  rw [EndRecord.ofDirectory, shape]
  constructor
  case length => exact EndRecord.length_header _
  case signature => exact (Bytes.field_append _ (by decide)).trans (by decide)
  all_goals
    simp [EndRecord.header, EndRecord.length_signature, Bytes.field_append_right,
      Bytes.length_littleEndian, Bytes.field_littleEndian, Bytes.field_littleEndian_self,
      Bytes.capacity, countSmall, sizeSmall, startSmall]

/-! ## What listing each name once does -/

/-- The records or their place do not fit the fields of an end record. -/
def TooLarge (kept : List Bytes) (start offset : Nat) : Prop :=
  0xFFFF ≤ kept.length ∨ 0xFFFFFFFF ≤ kept.flatten.length ∨ start < offset ∨
    0xFFFFFFFF ≤ start - offset

instance (kept : List Bytes) (start offset : Nat) : Decidable (TooLarge kept start offset) :=
  inferInstanceAs (Decidable (_ ∨ _))

theorem not_tooLarge_iff {kept : List DirectoryRecord} {start offset : Nat} :
    ¬ TooLarge (kept.map encode) start offset ↔
      kept.length < 0xFFFF ∧ (kept.flatMap encode).length < 0xFFFFFFFF ∧ offset ≤ start ∧
        start - offset < 0xFFFFFFFF := by
  simp only [TooLarge, List.length_map, ← List.flatMap_def, not_or, Nat.not_le, Nat.not_lt]

/-- The scan from the start of the directory determines what `firstEntriesOnly` does. A record that overruns
the data is refused, and names that differ are left alone. Where names repeat, the first record of each
follows the bytes in front of the directory, and an end record that describes them, unless that is too
large; nothing is left to do for what is written then. -/
theorem firstEntriesOnly_exact (data : Bytes) (start offset : Nat) (inside : start ≤ data.length) :
    ∃ records whole, Scan data start records whole ∧
      (∀ others ends, Scan data start others ends → others = records ∧ ends = whole) ∧
      (whole = false → firstEntriesOnly data start offset = .error .directoryRecordTruncated) ∧
      (whole = true → (records.map nameOf).Nodup → firstEntriesOnly data start offset = .ok none) ∧
      (whole = true → ¬ (records.map nameOf).Nodup →
        (TooLarge (firstOfNames records) start offset →
          firstEntriesOnly data start offset = .error .directoryTooLarge) ∧
        (¬ TooLarge (firstOfNames records) start offset →
          ∃ ending patched dropped,
            EndsDirectory ending (firstOfNames records).length (firstOfNames records).flatten.length
              (start - offset) ∧
            patched = data.take start ++ (firstOfNames records).flatten ++ ending ∧
            (firstOfNames records).length + dropped = records.length ∧
            firstEntriesOnly data start offset = .ok (some (patched, dropped)) ∧
            ∀ other, firstEntriesOnly patched start other = .ok none)) := by
  obtain ⟨onSuccess, onFailure⟩ := scan_of_sequence data start
  cases found : sequence (data.drop start) with
  | error fault =>
    obtain ⟨rfl, records, scan⟩ := onFailure fault found
    refine ⟨records, false, scan, fun _ _ => scan.unique,
      fun _ => firstEntriesOnly_of_error inside found, ?_, ?_⟩
    all_goals
      intro whole
      cases whole
  | ok records =>
    have scan := onSuccess records found
    obtain ⟨_, -, -, listable⟩ := sequence_ok found
    have fits (record : DirectoryRecord) (member : record ∈ records) : record.Fits :=
      (listable record member).toFits
    refine ⟨records.map encode, true, scan, fun _ _ => scan.unique, ?_, ?_, ?_⟩
    · intro overruns
      cases overruns
    · intro _ distinct
      rw [map_nameOf_encode fits] at distinct
      exact firstEntriesOnly_eq_none_iff.mpr ⟨inside, records, found, distinct⟩
    · intro _ repeats
      rw [map_nameOf_encode fits] at repeats
      rw [firstOfNames_encode fits, not_tooLarge_iff]
      constructor
      · intro large
        exact firstEntriesOnly_of_tooLarge inside found repeats
          fun small => not_tooLarge_iff.mpr small large
      · rintro ⟨count, size, shifted, placed⟩
        have reduction : Reduction data start offset records _ :=
          ⟨found, inside, repeats, count, size, shifted, placed, rfl⟩
        have total := Nat.add_sub_of_le (firstOfEachName_sublist records).length_le
        rw [List.length_map, List.length_map, ← List.flatMap_def]
        exact ⟨_, _, _, endsDirectory_ofDirectory count size placed, rfl, total,
          firstEntriesOnly_eq_some_iff.mpr ⟨records, reduction, rfl⟩, reduction.settled⟩

/-- A record whose name is one byte, and whose comment is another one. -/
def shortRecord (name mark : UInt8) : Bytes :=
  [0x50, 0x4B, 1, 2] ++ List.replicate 24 0 ++ [1, 0, 0, 0, 1, 0] ++ List.replicate 12 0 ++ [name, mark]

/-- Three bytes, and a directory in which the first name comes back behind another one. -/
def comingBack : Bytes := [7, 7, 7] ++ shortRecord 65 1 ++ shortRecord 66 2 ++ shortRecord 65 3 ++ [9]

/-- The record that comes back is left out. -/
theorem firstEntriesOnly_exact_comingBack :
    3 ≤ comingBack.length ∧ ∃ ending, EndsDirectory ending 2 96 1 ∧
      firstEntriesOnly comingBack 3 2
        = .ok (some ([7, 7, 7] ++ (shortRecord 65 1 ++ shortRecord 66 2) ++ ending, 1)) := by
  have inside : 3 ≤ comingBack.length := by decide +kernel
  obtain ⟨records, whole, -, unique, -, -, onRepeats⟩ := firstEntriesOnly_exact comingBack 3 2 inside
  obtain ⟨found, rfl⟩ := unique _ _ (.record (by decide +kernel) (by decide +kernel)
    (.record (by decide +kernel) (by decide +kernel) (.record (by decide +kernel) (by decide +kernel)
      (.stops (by decide +kernel)))))
  have spelled : records = [shortRecord 65 1, shortRecord 66 2, shortRecord 65 3] :=
    found.symm.trans (by decide +kernel)
  have kept : firstOfNames records = [shortRecord 65 1, shortRecord 66 2] := by
    rw [spelled]
    decide +kernel
  rw [kept] at onRepeats
  obtain ⟨-, onSmall⟩ := onRepeats rfl (by rw [spelled]; decide +kernel)
  obtain ⟨ending, patched, dropped, describes, rfl, count, written, -⟩ := onSmall (by decide +kernel)
  have one : dropped = 1 := by
    rw [spelled] at count
    exact Nat.add_left_cancel count
  rw [one] at written
  exact ⟨inside, ending, describes, written⟩

end Unannotate
