import Unannotate.Proofs.Archive.Records
import Unannotate.Proofs.LittleEndian

/-!
# What is known of an archive that opens

An archive that opens has an end record, and behind the start of its directory stand as many records as
that announces. The entries are those of the records, and of entries with one name the last has taken the
place of the first, so no two of them have one name.
-/
set_option autoImplicit false

namespace Unannotate.Archive

/-! ## Positions of a signature -/

/-- Positions that are found later stand in front. -/
theorem positionsOf_eq_append (signature : Bytes) (position : Nat) (found : List Nat) (data : Bytes) :
    ∃ later, positionsOf signature position found data = later ++ found ∧
      ∀ other ∈ later, ∃ front back, data = front ++ back ∧ other = position + front.length ∧
        signature <+: back := by
  induction data generalizing position found with
  | nil => exact ⟨[], rfl, by simp⟩
  | cons byte rest ih =>
    rw [positionsOf]
    obtain ⟨later, same, matching⟩ := ih (position + 1)
      (if signature.isPrefixOf (byte :: rest) then position :: found else found)
    have behind (other : Nat) (member : other ∈ later) : ∃ front back, byte :: rest = front ++ back ∧
        other = position + front.length ∧ signature <+: back := by
      obtain ⟨front, back, rfl, rfl, here⟩ := matching other member
      exact ⟨byte :: front, back, rfl, by simp only [List.length_cons]; omega, here⟩
    simp only [same]
    split
    · next here =>
      refine ⟨later ++ [position], by simp, ?_⟩
      intro other member
      rcases List.mem_append.mp member with old | new
      · exact behind other old
      · rw [List.mem_singleton.mp new]
        exact ⟨[], byte :: rest, rfl, rfl, List.isPrefixOf_iff_prefix.mp here⟩
    · exact ⟨later, rfl, behind⟩

theorem exists_positionsOf_append (signature : Bytes) (position : Nat) (found : List Nat)
    (front back : Bytes) :
    ∃ earlier, positionsOf signature position found (front ++ back)
      = positionsOf signature (position + front.length) earlier back := by
  induction front generalizing position found with
  | nil => exact ⟨found, rfl⟩
  | cons byte rest ih =>
    obtain ⟨earlier, same⟩ := ih (position + 1)
      (if signature.isPrefixOf (byte :: (rest ++ back)) then position :: found else found)
    refine ⟨earlier, ?_⟩
    rw [List.cons_append, positionsOf]
    simp only [same, List.length_cons]
    congr 1
    omega

theorem firstPosition?_eq_some {signature data : Bytes} {position first : Nat}
    (found : firstPosition? signature position data = some first) :
    ∃ front back, data = front ++ back ∧ first = position + front.length ∧ signature <+: back := by
  induction data generalizing position with
  | nil => cases found
  | cons byte rest ih =>
    rw [firstPosition?] at found
    split at found
    · next here =>
      cases found
      exact ⟨[], byte :: rest, rfl, rfl, List.isPrefixOf_iff_prefix.mp here⟩
    · obtain ⟨front, back, rfl, rfl, matching⟩ := ih found
      exact ⟨byte :: front, back, rfl, by simp only [List.length_cons]; omega, matching⟩

/-- The search for the first position does not look behind it. -/
theorem firstPosition?_append {signature : Bytes} (nonempty : signature ≠ []) (position : Nat)
    (front : Bytes) {first : Bytes} (second : Bytes)
    (found : firstPosition? signature position (front ++ (signature ++ first))
      = some (position + front.length)) :
    firstPosition? signature position (front ++ (signature ++ second))
      = some (position + front.length) := by
  induction front generalizing position with
  | nil =>
    obtain ⟨byte, rest, rfl⟩ := List.exists_cons_of_ne_nil nonempty
    have here : (byte :: rest).isPrefixOf (byte :: (rest ++ second)) = true :=
      List.isPrefixOf_iff_prefix.mpr (List.prefix_append (byte :: rest) second)
    rw [List.nil_append, List.cons_append, firstPosition?, if_pos here]
    rfl
  | cons byte rest ih =>
    -- A signature that begins in front of the one that was found ends before that does, so what
    -- stands behind does not show in it.
    have same (third fourth : Bytes)
        (here : signature <+: byte :: (rest ++ (signature ++ third))) :
        signature <+: byte :: (rest ++ (signature ++ fourth)) := by
      have whole : byte :: (rest ++ signature) <+: byte :: (rest ++ (signature ++ third)) := by simp
      have enough : signature.length ≤ (byte :: (rest ++ signature)).length := by
        simp only [List.length_cons, List.length_append]
        omega
      have short := List.prefix_of_prefix_length_le here whole enough
      exact short.trans (by simp)
    rw [List.cons_append, firstPosition?] at found ⊢
    split at found
    · have place := Option.some.inj found
      rw [List.length_cons] at place
      omega
    · next apart =>
      have stillApart : ¬ signature.isPrefixOf (byte :: (rest ++ (signature ++ second))) = true := by
        rw [List.isPrefixOf_iff_prefix] at apart ⊢
        exact fun here => apart (same _ _ here)
      rw [if_neg stillApart]
      have later := ih (position + 1)
      rw [List.length_cons] at found ⊢
      rw [Nat.add_assoc, Nat.add_comm 1] at later
      exact later found

/-! ## End records -/

/-- What an archive read from the end record at a position is made of. -/
structure EndsAt (data : Bytes) (position : Nat) (ending : EndRecord) (listed : List Entry)
    (archive : Archive) : Prop where
  taken : EndRecord.take? (data.drop position) = some ending
  shifted : shift? data position ending = some archive.offset
  oneDisk : ending.disk = ending.directoryDisk
  start : archive.directoryStart = ending.directoryOffset + archive.offset
  read : readEntries archive.offset ending.entriesOnDisk (data.drop archive.directoryStart) = .ok listed
  entries : archive.entries = listed.foldl insertEntry []
  comment : archive.comment = ending.comment
  data_eq : archive.data = data

theorem ofEndRecord?_eq_ok_iff {data : Bytes} {position : Nat} {archive : Archive} :
    ofEndRecord? data position = some (.ok archive) ↔
      ∃ ending listed, EndsAt data position ending listed archive := by
  simp only [ofEndRecord?, Option.bind_eq_bind, Option.bind_eq_some_iff]
  constructor
  · rintro ⟨ending, taken, offset, shifted, found⟩
    split at found
    · next oneDisk =>
      obtain ⟨listed, read, finished⟩ := outcome_bind_ok_iff.mp (Option.some.inj found)
      cases finished
      exact ⟨ending, listed, taken, shifted, oneDisk, rfl, read, rfl, rfl, rfl⟩
    · cases found
  · rintro ⟨ending, listed, taken, shifted, oneDisk, start, read, entries, comment, same⟩
    refine ⟨ending, taken, archive.offset, shifted, ?_⟩
    rw [if_pos oneDisk, ← start, read, ← same, ← comment]
    cases archive
    simp only at entries
    rw [entries]
    rfl

/-! ## The search for the end record -/

theorem ofPositions_eq_ok {data : Bytes} {fault : ArchiveFault} {positions : List Nat}
    {archive : Archive} (opened : ofPositions data fault positions = .ok archive) :
    ∃ position ∈ positions, ofEndRecord? data position = some (.ok archive) := by
  induction positions generalizing fault with
  | nil => cases opened
  | cons position rest ih =>
    rw [ofPositions] at opened
    split at opened
    · obtain ⟨other, member, found⟩ := ih opened
      exact ⟨other, List.mem_cons_of_mem _ member, found⟩
    · obtain ⟨other, member, found⟩ := ih opened
      exact ⟨other, List.mem_cons_of_mem _ member, found⟩
    · next first =>
      cases opened
      exact ⟨position, List.mem_cons_self, first⟩

/-- An archive that opens ends at an end record. -/
theorem ofBytes_eq_ok {data : Bytes} {archive : Archive} (opened : ofBytes data = .ok archive) :
    ∃ position ending listed, EndsAt data position ending listed archive ∧
      EndRecord.signature <+: data.drop position := by
  obtain ⟨position, member, found⟩ := ofPositions_eq_ok opened
  obtain ⟨later, same, matching⟩ := positionsOf_eq_append EndRecord.signature 0 [] data
  rw [same, List.append_nil] at member
  obtain ⟨front, back, rfl, rfl, signed⟩ := matching position member
  obtain ⟨ending, listed, ends⟩ := ofEndRecord?_eq_ok_iff.mp found
  exact ⟨_, ending, listed, ends, by rwa [Nat.zero_add, List.drop_left]⟩

theorem data_of_ofBytes {data : Bytes} {archive : Archive} (opened : ofBytes data = .ok archive) :
    archive.data = data := by
  obtain ⟨_, _, _, ends, -⟩ := ofBytes_eq_ok opened
  exact ends.data_eq

theorem ofPositions_skip {data : Bytes} {fault : ArchiveFault} {later rest : List Nat} {position : Nat}
    {archive : Archive}
    (fruitless : ∀ other ∈ later, EndRecord.take? (data.drop other) = none)
    (found : ofEndRecord? data position = some (.ok archive)) :
    ofPositions data fault (later ++ position :: rest) = .ok archive := by
  induction later with
  | nil => simp [ofPositions, found]
  | cons other later ih =>
    have nothing : ofEndRecord? data other = none := by
      simp [ofEndRecord?, fruitless other List.mem_cons_self]
    simp only [List.cons_append, ofPositions, nothing]
    exact ih fun another member => fruitless another (List.mem_cons_of_mem _ member)

/-- The archive of an end record, when no other one can be read behind it. -/
theorem ofBytes_of_ending {front back : Bytes} {archive : Archive}
    (signed : EndRecord.signature <+: back)
    (last : ∀ skipped rest, back = skipped ++ rest → skipped ≠ [] → EndRecord.signature <+: rest →
      EndRecord.take? rest = none)
    (found : ofEndRecord? (front ++ back) front.length = some (.ok archive)) :
    ofBytes (front ++ back) = .ok archive := by
  obtain ⟨byte, tail, rfl⟩ : ∃ byte tail, back = byte :: tail := by
    cases back with
    | nil => exact absurd (List.prefix_nil.mp signed) (by decide)
    | cons byte tail => exact ⟨byte, tail, rfl⟩
  obtain ⟨earlier, passed⟩ := exists_positionsOf_append EndRecord.signature 0 [] front (byte :: tail)
  obtain ⟨later, listed, matching⟩ := positionsOf_eq_append EndRecord.signature
    (0 + front.length + 1) ((0 + front.length) :: earlier) tail
  rw [ofBytes, passed, positionsOf, if_pos (List.isPrefixOf_iff_prefix.mpr signed), listed,
    Nat.zero_add]
  refine ofPositions_skip ?_ found
  intro other member
  obtain ⟨skipped, rest, rfl, rfl, here⟩ := matching other member
  have place : front ++ byte :: (skipped ++ rest) = (front ++ byte :: skipped) ++ rest := by simp
  have size : 0 + front.length + 1 + skipped.length = (front ++ byte :: skipped).length := by
    simp only [List.length_append, List.length_cons]
    omega
  rw [place, size, List.drop_left]
  exact last (byte :: skipped) rest rfl (List.cons_ne_nil _ _) here

/-! ## Records and entries -/

theorem readEntries_ok_iff {offset count : Nat} {data : Bytes} {entries : List Entry} :
    readEntries offset count data = .ok entries ↔
      ∃ records rest, data = records.flatMap DirectoryRecord.encode ++ rest ∧
        records.length = count ∧ (∀ record ∈ records, record.Listable) ∧
        List.Forall₂ (fun record entry => Entry.ofRecord offset record = .ok entry) records entries := by
  induction count generalizing data entries with
  | zero =>
    constructor
    · rintro ⟨⟩
      exact ⟨[], data, rfl, rfl, by simp, .nil⟩
    · rintro ⟨records, rest, rfl, empty, -, read⟩
      cases List.eq_nil_of_length_eq_zero empty
      cases read
      rfl
  | succ count ih =>
    constructor
    · intro found
      rw [readEntries] at found
      split at found
      · next begins =>
        split at found
        · cases found
        · next record rest taken =>
          obtain ⟨entry, first, remaining⟩ := outcome_bind_ok_iff.mp found
          obtain ⟨others, second, finished⟩ := outcome_bind_ok_iff.mp remaining
          cases finished
          obtain ⟨records, tail, rfl, rfl, listable, read⟩ := ih.mp second
          obtain ⟨rfl, fits⟩ := DirectoryRecord.starts_and_take?_iff.mp ⟨begins, taken⟩
          exact ⟨record :: records, tail, by simp, rfl, by simpa using ⟨fits, listable⟩,
            .cons first read⟩
      · cases found
    · rintro ⟨records, rest, rfl, size, listable, read⟩
      cases read with
      | nil => cases size
      | @cons record entry records entries first others =>
        rw [List.forall_mem_cons] at listable
        have remaining : readEntries offset count (records.flatMap DirectoryRecord.encode ++ rest)
            = .ok entries :=
          ih.mpr ⟨records, rest, rfl, Nat.succ.inj size, listable.2, others⟩
        obtain ⟨begins, taken⟩ := DirectoryRecord.starts_and_take?_iff.mpr
          ⟨Eq.refl (record.encode ++ (records.flatMap DirectoryRecord.encode ++ rest)), listable.1⟩
        rw [List.flatMap_cons, List.append_assoc, readEntries, if_pos begins, taken]
        simp only [first, remaining]
        rfl

theorem entries_unique {offset : Nat} {records : List DirectoryRecord} {entries others : List Entry}
    (first : List.Forall₂ (fun record entry => Entry.ofRecord offset record = .ok entry) records entries)
    (second : List.Forall₂ (fun record entry => Entry.ofRecord offset record = .ok entry) records
      others) : entries = others := by
  refine List.right_unique_forall₂' (fun record one other described again => ?_) first second
  rw [described] at again
  exact Except.ok.inj again

/-- An archive whose directory and end record were put behind some bytes. -/
theorem ofBytes_of_directory {front : Bytes} {records : List DirectoryRecord} {listed : List Entry}
    {ending : EndRecord} {offset : Nat} (fits : ending.Fits) (last : ending.IsLast)
    (oneDisk : ending.disk = ending.directoryDisk) (count : ending.entriesOnDisk = records.length)
    (start : front.length = ending.directoryOffset + offset)
    (shifted : shift? (front ++ records.flatMap DirectoryRecord.encode ++ ending.encode)
      (front ++ records.flatMap DirectoryRecord.encode).length ending = some offset)
    (listable : ∀ record ∈ records, record.Listable)
    (described : List.Forall₂ (fun record entry => Entry.ofRecord offset record = .ok entry) records
      listed) :
    ofBytes (front ++ records.flatMap DirectoryRecord.encode ++ ending.encode) = .ok
      { data := front ++ records.flatMap DirectoryRecord.encode ++ ending.encode
        entries := listed.foldl insertEntry [], comment := ending.comment
        directoryStart := front.length, offset } := by
  have taken : EndRecord.take? ((front ++ records.flatMap DirectoryRecord.encode ++ ending.encode).drop
      (front ++ records.flatMap DirectoryRecord.encode).length) = some ending := by
    rw [List.drop_left]
    simpa using EndRecord.take?_encode fits []
  have read : readEntries offset ending.entriesOnDisk
      ((front ++ records.flatMap DirectoryRecord.encode ++ ending.encode).drop front.length)
      = .ok listed := by
    rw [List.append_assoc, List.drop_left]
    exact readEntries_ok_iff.mpr ⟨records, _, rfl, count.symm, listable, described⟩
  exact ofBytes_of_ending (EndRecord.signature_prefix_encode ending) last
    (ofEndRecord?_eq_ok_iff.mpr ⟨ending, listed, taken, shifted, oneDisk, start, read, rfl, rfl, rfl⟩)

theorem readEntries_of_sequence {offset count : Nat} {data : Bytes} {entries : List Entry}
    {records : List DirectoryRecord} (read : readEntries offset count data = .ok entries)
    (found : DirectoryRecord.sequence data = .ok records) :
    count ≤ records.length ∧ List.Forall₂
      (fun record entry => Entry.ofRecord offset record = .ok entry) (records.take count) entries := by
  obtain ⟨counted, rest, rfl, rfl, listable, described⟩ := readEntries_ok_iff.mp read
  -- The records that are counted stand in front of the others: an induction on the count peels both
  -- readings alike.
  have whole : ∃ others, records = counted ++ others := by
    clear described read
    induction counted generalizing records with
    | nil => exact ⟨records, rfl⟩
    | cons record counted ih =>
      rw [List.forall_mem_cons] at listable
      rw [List.flatMap_cons, List.append_assoc, DirectoryRecord.sequence_encode listable.1] at found
      cases tail : DirectoryRecord.sequence (counted.flatMap DirectoryRecord.encode ++ rest) with
      | error fault =>
        rw [tail] at found
        cases found
      | ok remaining =>
        rw [tail] at found
        cases found
        obtain ⟨others, rfl⟩ := ih tail listable.2
        exact ⟨others, rfl⟩
  obtain ⟨others, rfl⟩ := whole
  exact ⟨by simp, by simpa using described⟩

/-! ## One entry for each name -/

theorem names_insertEntry (entries : List Entry) (entry : Entry) :
    (insertEntry entries entry).map (·.name) =
      if entry.name ∈ entries.map (·.name) then entries.map (·.name)
      else entries.map (·.name) ++ [entry.name] := by
  unfold insertEntry
  by_cases known : entry.name ∈ entries.map (·.name)
  · have present : entries.any (·.name = entry.name) = true := by simpa using known
    rw [if_pos present, if_pos known, List.map_map]
    refine List.map_congr_left fun earlier _ => ?_
    simp only [Function.comp_apply]
    split
    · next same => exact same.symm
    · rfl
  · have absent : entries.any (·.name = entry.name) = false := by
      simpa using known
    rw [if_neg (by simp [absent]), if_neg known, List.map_append]
    rfl

theorem names_insertEntries (entries listed : List Entry)
    (distinct : (entries.map (·.name)).Nodup) :
    ((listed.foldl insertEntry entries).map (·.name)).Nodup ∧
      ∀ name, name ∈ (listed.foldl insertEntry entries).map (·.name) ↔
        name ∈ entries.map (·.name) ∨ name ∈ listed.map (·.name) := by
  induction listed generalizing entries with
  | nil => exact ⟨distinct, by simp⟩
  | cons entry rest ih =>
    have still : ((insertEntry entries entry).map (·.name)).Nodup := by
      rw [names_insertEntry]
      split
      · exact distinct
      · next unknown => exact List.nodup_append.mpr ⟨distinct, by simp, by simpa using unknown⟩
    obtain ⟨nodup, names⟩ := ih (insertEntry entries entry) still
    refine ⟨nodup, fun name => ?_⟩
    rw [List.foldl_cons, names, names_insertEntry, List.map_cons, List.mem_cons]
    split
    · next known =>
      constructor
      · rintro (old | later)
        · exact .inl old
        · exact .inr (.inr later)
      · rintro (old | rfl | later)
        · exact .inl old
        · exact .inl known
        · exact .inr later
    · simp only [List.mem_append, List.mem_singleton]
      tauto

theorem insertEntries_append (entries listed : List Entry)
    (distinct : ((entries ++ listed).map (·.name)).Nodup) :
    listed.foldl insertEntry entries = entries ++ listed := by
  induction listed generalizing entries with
  | nil => simp
  | cons entry rest ih =>
    have unknown : entries.any (·.name = entry.name) = false := by
      rw [List.map_append, List.map_cons, List.nodup_append] at distinct
      simp only [List.any_eq_false, decide_eq_true_eq]
      exact fun earlier member => distinct.2.2 _ (List.mem_map_of_mem member) _ List.mem_cons_self
    have added : insertEntry entries entry = entries ++ [entry] := by
      simp [insertEntry, unknown]
    rw [List.foldl_cons, added, ih _ (by simpa using distinct)]
    simp

theorem insertEntries_eq {listed : List Entry} (distinct : (listed.map (·.name)).Nodup) :
    listed.foldl insertEntry [] = listed := by
  have apart : ((([] : List Entry) ++ listed).map (·.name)).Nodup := distinct
  rw [insertEntries_append [] listed apart, List.nil_append]

theorem mem_insertEntries {entries listed : List Entry} {entry : Entry}
    (member : entry ∈ listed.foldl insertEntry entries) : entry ∈ entries ∨ entry ∈ listed := by
  induction listed generalizing entries with
  | nil => exact .inl member
  | cons first rest ih =>
    rcases ih member with old | later
    · unfold insertEntry at old
      split at old
      · obtain ⟨earlier, known, rfl⟩ := List.mem_map.mp old
        split
        · exact .inr List.mem_cons_self
        · exact .inl known
      · rcases List.mem_append.mp old with known | new
        · exact .inl known
        · exact .inr (List.mem_singleton.mp new ▸ List.mem_cons_self)
    · exact .inr (List.mem_cons_of_mem _ later)

/-- No two entries of an archive have one name. -/
theorem nodup_names_of_ofBytes {data : Bytes} {archive : Archive}
    (opened : ofBytes data = .ok archive) : (archive.entries.map (·.name)).Nodup := by
  obtain ⟨_, _, listed, ends, -⟩ := ofBytes_eq_ok opened
  rw [ends.entries]
  exact (names_insertEntries [] listed List.nodup_nil).1

/-- Every entry of an archive is that of a record. -/
theorem exists_record_of_mem {data : Bytes} {archive : Archive} (opened : ofBytes data = .ok archive)
    {entry : Entry} (member : entry ∈ archive.entries) :
    ∃ record : DirectoryRecord, record.Listable ∧
      Entry.ofRecord archive.offset record = .ok entry := by
  obtain ⟨_, _, listed, ends, -⟩ := ofBytes_eq_ok opened
  obtain ⟨records, _, -, -, listable, read⟩ := readEntries_ok_iff.mp ends.read
  rw [ends.entries] at member
  have found : entry ∈ listed := (mem_insertEntries member).resolve_left (by simp)
  obtain ⟨record, place, described⟩ := exists_related_of_mem read.flip found
  exact ⟨record, listable record place, described⟩

end Unannotate.Archive
