import Unannotate.Proofs.Archive.Opening

/-!
# Archives that list each name once

`firstEntriesOnly` leaves an archive alone when no two records of its directory have one name. Else it
puts the first records of the names and a new end record behind the bytes in front of the directory, and
what it puts there opens: it lists the entries of the first records, at the same places.
-/
set_option autoImplicit false

namespace Unannotate

open DirectoryRecord

/-! ## What is left out -/

/-- An archive is left alone exactly when its records are whole and have different names. -/
theorem firstEntriesOnly_eq_none_iff {data : Bytes} {start offset : Nat} :
    firstEntriesOnly data start offset = .ok none ↔
      start ≤ data.length ∧ ∃ records, sequence (data.drop start) = .ok records ∧
        (records.map (·.name)).Nodup := by
  unfold firstEntriesOnly
  split
  · next past =>
    constructor
    · rintro ⟨⟩
    · rintro ⟨inside, -⟩
      exact absurd inside (Nat.not_le.mpr past)
  · next inside =>
    rw [outcome_bind_ok_iff, and_iff_right (Nat.not_lt.mp inside)]
    refine exists_congr fun records => and_congr_right fun _ => ?_
    simp only [length_firstOfEachName_eq_iff]
    split
    · next distinct => simp [distinct, pure, Except.pure]
    · next repeats =>
      rw [iff_false_right repeats]
      split <;> simp [throw, throwThe, MonadExceptOf.throw, pure, Except.pure]

/-- What stands in place of an archive in which names repeat. -/
structure Reduction (data : Bytes) (start offset : Nat) (records : List DirectoryRecord) (bytes : Bytes) :
    Prop where
  found : sequence (data.drop start) = .ok records
  inside : start ≤ data.length
  repeats : ¬ (records.map (·.name)).Nodup
  count_lt : (firstOfEachName [] records).length < 0xFFFF
  size_lt : ((firstOfEachName [] records).flatMap encode).length < 0xFFFFFFFF
  offset_le : offset ≤ start
  start_lt : start - offset < 0xFFFFFFFF
  bytes_eq : bytes = data.take start ++ (firstOfEachName [] records).flatMap encode
    ++ (EndRecord.ofDirectory (firstOfEachName [] records).length
      ((firstOfEachName [] records).flatMap encode).length (start - offset) []).encode

theorem firstEntriesOnly_eq_some_iff {data bytes : Bytes} {start offset dropped : Nat} :
    firstEntriesOnly data start offset = .ok (some (bytes, dropped)) ↔
      ∃ records, Reduction data start offset records bytes ∧
        dropped = records.length - (firstOfEachName [] records).length := by
  unfold firstEntriesOnly
  split
  · next past =>
    constructor
    · rintro ⟨⟩
    · rintro ⟨records, reduction, -⟩
      exact absurd reduction.inside (Nat.not_le.mpr past)
  · next inside =>
    rw [outcome_bind_ok_iff]
    refine exists_congr fun records => ?_
    simp only [length_firstOfEachName_eq_iff]
    constructor
    · rintro ⟨found, finished⟩
      split at finished
      · cases finished
      · next repeats =>
        split at finished
        · next fits =>
          cases finished
          exact ⟨⟨found, Nat.not_lt.mp inside, repeats, fits.1, fits.2.1, fits.2.2.1, fits.2.2.2, rfl⟩,
            rfl⟩
        · cases finished
    · rintro ⟨⟨found, -, repeats, count, size, shifted, placed, rfl⟩, rfl⟩
      refine ⟨found, ?_⟩
      rw [if_neg repeats, if_pos ⟨count, size, shifted, placed⟩]
      rfl

/-- A directory of which a record overruns the data is refused. -/
theorem firstEntriesOnly_of_error {data : Bytes} {start offset : Nat} {fault : Malformation}
    (inside : start ≤ data.length) (failed : sequence (data.drop start) = .error fault) :
    firstEntriesOnly data start offset = .error fault := by
  rw [firstEntriesOnly, if_neg (Nat.not_lt.mpr inside), failed]
  rfl

/-- What repeats names is refused when its first records do not fit the fields of an end record. -/
theorem firstEntriesOnly_of_tooLarge {data : Bytes} {start offset : Nat} {records : List DirectoryRecord}
    (inside : start ≤ data.length) (found : sequence (data.drop start) = .ok records)
    (repeats : ¬ (records.map (·.name)).Nodup)
    (large : ¬ ((firstOfEachName [] records).length < 0xFFFF ∧
      ((firstOfEachName [] records).flatMap encode).length < 0xFFFFFFFF ∧ offset ≤ start ∧
      start - offset < 0xFFFFFFFF)) :
    firstEntriesOnly data start offset = .error .directoryTooLarge := by
  rw [← length_firstOfEachName_eq_iff] at repeats
  rw [firstEntriesOnly, if_neg (Nat.not_lt.mpr inside), found]
  show (if _ then _ else _) = _
  rw [if_neg repeats]
  exact if_neg large

/-! ## What is put in place -/

/-- What is put in place is left alone, wherever its offsets count from. -/
theorem Reduction.settled {data bytes : Bytes} {start offset : Nat} {records : List DirectoryRecord}
    (reduction : Reduction data start offset records bytes) (other : Nat) :
    firstEntriesOnly bytes start other = .ok none := by
  obtain ⟨_, -, -, listable⟩ := sequence_ok reduction.found
  have width : (data.take start).length = start := List.length_take_of_le reduction.inside
  have directory : bytes.drop start = (firstOfEachName [] records).flatMap encode
      ++ (EndRecord.ofDirectory (firstOfEachName [] records).length
        ((firstOfEachName [] records).flatMap encode).length (start - offset) []).encode := by
    rw [reduction.bytes_eq, List.append_assoc, List.drop_left' width]
  have keptListable (record : DirectoryRecord) (member : record ∈ firstOfEachName [] records) :
      record.Listable := listable record ((firstOfEachName_sublist records).subset member)
  refine firstEntriesOnly_eq_none_iff.mpr ⟨?_, firstOfEachName [] records, ?_, ?_⟩
  · rw [reduction.bytes_eq, List.append_assoc, List.length_append, width]
    exact Nat.le_add_right _ _
  · rw [directory]
    exact sequence_flatMap_encode keptListable (EndRecord.starts_encode _)
  · rw [firstOfEachName_eq]
    exact nodup_firstOfEach _ [] records

namespace Archive

/-- How far the directory stands from where the end record of an archive puts it, and what stands between
these two places. -/
theorem EndsAt.exists_between {data : Bytes} {position : Nat} {ending : EndRecord} {listed : List Entry}
    {archive : Archive} (ends : EndsAt data position ending listed archive)
    (signed : EndRecord.signature <+: data.drop position)
    (begins : starts (data.drop archive.directoryStart) = true) :
    ∃ between back, data.drop ending.directoryOffset = between ++ (signature ++ back) ∧
      archive.offset = between.length ∧
      firstPosition? signature ending.directoryOffset (between ++ (signature ++ back))
        = some (ending.directoryOffset + between.length) := by
  have here : signature <+: data.drop archive.directoryStart := by
    simp only [starts, Bool.and_eq_true, List.isPrefixOf_iff_prefix] at begins
    exact begins.1
  have shifted := ends.shifted
  unfold shift? at shifted
  dsimp only at shifted
  split at shifted
  · -- No entries are announced, so the directory would start at the end record or behind it.
    by_cases before : ending.directoryOffset ≤ position
    · have start : archive.directoryStart = position := by
        rw [ends.start, ← Option.some.inj shifted]
        omega
      rw [start] at here
      have clash := List.prefix_of_prefix_length_le here signed (by decide)
      exact absurd clash (by decide)
    · have offset : archive.offset = 0 := by
        rw [← Option.some.inj shifted]
        omega
      rw [ends.start, offset, Nat.add_zero] at here
      obtain ⟨back, shape⟩ := here
      refine ⟨[], back, shape.symm, offset, ?_⟩
      rfl
  · split at shifted
    · cases shifted
    · obtain ⟨first, found, place⟩ := Option.map_eq_some_iff.mp shifted
      obtain ⟨between, rest, shape, rfl, back, rfl⟩ := firstPosition?_eq_some found
      have whole := List.take_append_drop (position - ending.directoryOffset)
        (data.drop ending.directoryOffset)
      rw [shape, List.append_assoc, List.append_assoc] at whole
      rw [shape] at found
      refine ⟨between, _, whole.symm, ?_, firstPosition?_append (by decide) _ _ _ found⟩
      omega

/-- The end record that is put behind the first records finds the directory where it was. -/
theorem shift?_of_reduction {data bytes : Bytes} {position : Nat} {ending : EndRecord}
    {listed : List Entry} {archive : Archive} {records : List DirectoryRecord}
    (ends : EndsAt data position ending listed archive)
    (signed : EndRecord.signature <+: data.drop position)
    (reduction : Reduction archive.data archive.directoryStart archive.offset records bytes) :
    Archive.shift? bytes
      (archive.directoryStart + ((firstOfEachName [] records).flatMap encode).length)
      (.ofDirectory (firstOfEachName [] records).length
        ((firstOfEachName [] records).flatMap encode).length
        (archive.directoryStart - archive.offset) [])
      = some archive.offset := by
  obtain ⟨rest, shape, -, listable⟩ := sequence_ok reduction.found
  have size := reduction.inside
  obtain ⟨rfl⟩ := ends.data_eq
  cases records with
  | nil => exact absurd List.nodup_nil reduction.repeats
  | cons record others =>
    have begins : starts (archive.data.drop archive.directoryStart) = true := by
      rw [shape, List.flatMap_cons, List.append_assoc]
      exact starts_encode (listable record List.mem_cons_self) _
    obtain ⟨between, back, announced, offset, found⟩ := ends.exists_between signed begins
    have start : archive.directoryStart - archive.offset = ending.directoryOffset := by
      rw [ends.start]
      omega
    obtain ⟨kept, first⟩ : ∃ kept, firstOfEachName [] (record :: others) = record :: kept :=
      ⟨_, by rw [firstOfEachName, if_neg List.not_mem_nil]⟩
    obtain ⟨tail, directory⟩ : signature <+: (record :: kept).flatMap encode :=
      signature_prefix_flatMap (listable record List.mem_cons_self)
    have width : (archive.data.take archive.directoryStart).length = archive.directoryStart := by
      rw [List.length_take]
      omega
    have front : (archive.data.take archive.directoryStart).drop ending.directoryOffset = between := by
      rw [List.drop_take, announced]
      exact List.take_left' (by rw [ends.start]; omega)
    have cut : (bytes.drop ending.directoryOffset).take
        (archive.directoryStart + ((record :: kept).flatMap encode).length - ending.directoryOffset)
        = between ++ (record :: kept).flatMap encode := by
      rw [reduction.bytes_eq, first, List.append_assoc,
        List.drop_append_of_le_length (by rw [width, ends.start]; omega), front, ← List.append_assoc]
      refine List.take_left' ?_
      rw [List.length_append, ends.start]
      omega
    have behind : ¬ archive.directoryStart + ((record :: kept).flatMap encode).length
        ≤ ending.directoryOffset := by
      have long := congrArg List.length directory
      rw [List.length_append] at long
      have positive : 0 < signature.length := by decide
      rw [ends.start]
      omega
    simp only [Archive.shift?, EndRecord.ofDirectory, first, start]
    rw [if_neg (List.cons_ne_nil record kept ∘ List.eq_nil_of_length_eq_zero), if_neg behind, cut,
      ← directory, firstPosition?_append (by decide) _ _ _ found, Option.map_some, offset]
    congr 1
    omega

theorem fits_of_reduction {data bytes : Bytes} {start offset : Nat} {records : List DirectoryRecord}
    (reduction : Reduction data start offset records bytes) :
    (EndRecord.ofDirectory (firstOfEachName [] records).length
      ((firstOfEachName [] records).flatMap encode).length (start - offset) []).Fits := by
  have count := reduction.count_lt
  have size := reduction.size_lt
  have placed := reduction.start_lt
  constructor
  all_goals
    simp only [EndRecord.ofDirectory, List.length_nil]
    omega

/-- The archive of the first records opens, and lists their entries. -/
theorem ofBytes_of_reduction {data bytes : Bytes} {archive : Archive} {records : List DirectoryRecord}
    {kept : List Entry} (opened : ofBytes data = .ok archive)
    (reduction : Reduction archive.data archive.directoryStart archive.offset records bytes)
    (read : List.Forall₂ (fun record entry => Entry.ofRecord archive.offset record = .ok entry)
      (firstOfEachName [] records) kept) :
    ofBytes bytes = .ok
      { data := bytes, entries := kept.foldl insertEntry [], comment := []
        directoryStart := archive.directoryStart, offset := archive.offset } := by
  obtain ⟨position, ending, listed, ends, signed⟩ := ofBytes_eq_ok opened
  obtain ⟨rest, -, -, listable⟩ := sequence_ok reduction.found
  -- The new end record stands where the old directory had its later records, and counts from the
  -- same place, so the offset is found again.
  have shifted := shift?_of_reduction (data_of_ofBytes opened ▸ ends) (data_of_ofBytes opened ▸ signed)
    reduction
  have offset_le := reduction.offset_le
  have width : (archive.data.take archive.directoryStart).length = archive.directoryStart :=
    List.length_take_of_le reduction.inside
  have keptListable (record : DirectoryRecord) (member : record ∈ firstOfEachName [] records) :
      record.Listable := listable record ((firstOfEachName_sublist records).subset member)
  have start : (archive.data.take archive.directoryStart).length
      = archive.directoryStart - archive.offset + archive.offset := by
    rw [width]
    omega
  have whole := ofBytes_of_directory (fits_of_reduction reduction)
    (EndRecord.isLast_of_comment_eq_nil rfl) rfl rfl start
    (by rw [List.length_append, width, ← reduction.bytes_eq]; exact shifted) keptListable read
  rw [width, ← reduction.bytes_eq] at whole
  exact whole

end Archive

end Unannotate
