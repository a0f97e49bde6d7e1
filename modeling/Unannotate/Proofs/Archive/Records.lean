import Mathlib.Data.List.Forall2
import Mathlib.Data.List.Infix
import Unannotate.Archive.Basic
import Unannotate.Proofs.LittleEndian
import Unannotate.Proofs.Outcomes

/-!
# The records of a directory

A record is read back from its encoding, whatever stands behind it, so the records at the front of some
bytes are determined by the bytes. Of the records that repeat a name the first is kept, and the kept ones
stay in order.
-/
set_option autoImplicit false

namespace Unannotate

/-! ## Blocks -/

theorem Bytes.split?_eq_some_iff {count : Nat} {data taken rest : Bytes} :
    Bytes.split? count data = some (taken, rest) ↔ data = taken ++ rest ∧ taken.length = count := by
  constructor
  · exact Bytes.split?_eq_some
  · rintro ⟨rfl, rfl⟩
    simp [Bytes.split?]

theorem Bytes.split?_of_le {count : Nat} {data : Bytes} (enough : count ≤ data.length) :
    Bytes.split? count data = some (data.take count, data.drop count) :=
  Bytes.split?_eq_some_iff.mpr ⟨(List.take_append_drop count data).symm, List.length_take_of_le enough⟩

/-! ## The first item of each name -/

section FirstOfEach

variable {α β κ μ : Type} [DecidableEq κ] [DecidableEq μ] (name : α → κ) (otherName : β → μ)

/-- The items whose name no earlier one has. -/
def firstOfEach (seen : List κ) : List α → List α
  | [] => []
  | item :: rest =>
    if name item ∈ seen then firstOfEach seen rest
    else item :: firstOfEach (name item :: seen) rest

/-- The items that none of those in front of them has the name of. -/
def earliestOfEach (items : List α) : List α :=
  ((items.zip items.inits).filter fun here => name here.1 ∉ here.2.map name).map Prod.fst

theorem firstOfEach_sublist (seen : List κ) (items : List α) :
    (firstOfEach name seen items).Sublist items := by
  induction items generalizing seen with
  | nil => exact .slnil
  | cons item rest ih =>
    rw [firstOfEach]
    split
    · exact (ih seen).cons item
    · exact (ih _).cons_cons item

theorem mem_firstOfEach {seen : List κ} {items : List α} {item : α}
    (found : item ∈ firstOfEach name seen items) : name item ∉ seen := by
  induction items generalizing seen with
  | nil => cases found
  | cons head rest ih =>
    rw [firstOfEach] at found
    split at found
    · exact ih found
    · next unseen =>
      cases found with
      | head => exact unseen
      | tail _ later => exact fun member => ih later (List.mem_cons_of_mem _ member)

theorem nodup_firstOfEach (seen : List κ) (items : List α) :
    ((firstOfEach name seen items).map name).Nodup := by
  induction items generalizing seen with
  | nil => exact List.nodup_nil
  | cons item rest ih =>
    rw [firstOfEach]
    split
    · exact ih seen
    · rw [List.map_cons, List.nodup_cons, List.mem_map]
      refine ⟨?_, ih _⟩
      rintro ⟨later, found, same⟩
      exact mem_firstOfEach name found (same ▸ List.mem_cons_self)

theorem find?_firstOfEach {seen : List κ} (items : List α) {key : κ} (unseen : key ∉ seen) :
    (firstOfEach name seen items).find? (name · = key) = items.find? (name · = key) := by
  induction items generalizing seen with
  | nil => rfl
  | cons item rest ih =>
    rw [firstOfEach]
    by_cases same : name item = key
    · subst same
      simp [unseen]
    · have otherUnseen : key ∉ name item :: seen := by
        simpa [Ne.symm same] using unseen
      split
      · simpa [same] using ih unseen
      · simpa [same] using ih otherUnseen

theorem firstOfEach_eq_self {seen : List κ} {items : List α} (distinct : (items.map name).Nodup)
    (unseen : ∀ item ∈ items, name item ∉ seen) : firstOfEach name seen items = items := by
  induction items generalizing seen with
  | nil => rfl
  | cons item rest ih =>
    rw [List.map_cons, List.nodup_cons] at distinct
    have apart (later : α) (member : later ∈ rest) : name later ∉ name item :: seen := by
      have fresh := unseen later (List.mem_cons_of_mem _ member)
      have differs : name later ≠ name item :=
        fun same => distinct.1 (same ▸ List.mem_map_of_mem member)
      simp [differs, fresh]
    rw [firstOfEach, if_neg (unseen item List.mem_cons_self), ih distinct.2 apart]

/-- No item is left out exactly when no name repeats. -/
theorem length_firstOfEach_eq_iff {items : List α} :
    (firstOfEach name [] items).length = items.length ↔ (items.map name).Nodup := by
  constructor
  · intro same
    have whole := (firstOfEach_sublist name [] items).eq_of_length same
    rw [← whole]
    exact nodup_firstOfEach name [] items
  · intro distinct
    rw [firstOfEach_eq_self name distinct (by simp)]

theorem firstOfEach_eq_filter (seen : List κ) (items : List α) :
    firstOfEach name seen items = ((items.zip items.inits).filter fun here =>
      name here.1 ∉ seen ∧ name here.1 ∉ here.2.map name).map Prod.fst := by
  induction items generalizing seen with
  | nil => rfl
  | cons item rest ih =>
    -- Behind the first item, what stands in front of an item begins with it.
    have later (seen' : List κ) (same : ∀ key, (key ∉ seen ∧ name item ≠ key) ↔ key ∉ seen') :
        (((rest.zip (rest.inits.map (item :: ·))).filter fun here =>
          name here.1 ∉ seen ∧ name here.1 ∉ here.2.map name).map Prod.fst)
          = firstOfEach name seen' rest := by
      rw [ih, List.zip_map_right, List.filter_map, List.map_map]
      refine congrArg₂ List.map (funext fun _ => rfl) (List.filter_congr ?_)
      rintro ⟨other, before⟩ -
      simp [← same, and_assoc]
    rw [firstOfEach, List.inits_cons, List.zip_cons_cons, List.filter_cons]
    by_cases known : name item ∈ seen
    · rw [if_pos known, if_neg (by simp [known])]
      refine (later seen fun key => ⟨And.left, fun unseen => ⟨unseen, ?_⟩⟩).symm
      rintro rfl
      exact unseen known
    · rw [if_neg known, if_pos (by simp [known]), List.map_cons]
      refine congrArg (item :: ·) (later _ fun key => ?_).symm
      simp [and_comm, eq_comm]

theorem firstOfEach_eq_earliestOfEach (items : List α) :
    firstOfEach name [] items = earliestOfEach name items := by
  rw [firstOfEach_eq_filter, earliestOfEach]
  simp

theorem forall₂_firstOfEach {related : α → β → Prop} {items : List α} {others : List β}
    (pairs : List.Forall₂ related items others) (seen : List (α × β))
    (agree : ∀ one ∈ seen ++ items.zip others, ∀ other ∈ items.zip others,
      name one.1 = name other.1 ↔ otherName one.2 = otherName other.2) :
    List.Forall₂ related (firstOfEach name (seen.map (name ·.1)) items)
      (firstOfEach otherName (seen.map (otherName ·.2)) others) := by
  -- What was seen is kept in pairs, so that the two lists of names are taken from the same places.
  induction pairs generalizing seen with
  | nil => exact .nil
  | @cons item other items others here _ ih =>
    rw [List.zip_cons_cons] at agree
    have known : name item ∈ seen.map (name ·.1) ↔ otherName other ∈ seen.map (otherName ·.2) := by
      simp only [List.mem_map]
      exact exists_congr fun one => and_congr_right fun member =>
        agree one (List.mem_append_left _ member) (item, other) List.mem_cons_self
    rw [firstOfEach, firstOfEach]
    by_cases repeated : name item ∈ seen.map (name ·.1)
    · rw [if_pos repeated, if_pos (known.mp repeated)]
      refine ih seen fun one member another inside => ?_
      refine agree one ?_ another (List.mem_cons_of_mem _ inside)
      rcases List.mem_append.mp member with old | new
      · exact List.mem_append_left _ old
      · exact List.mem_append_right _ (List.mem_cons_of_mem _ new)
    · rw [if_neg repeated, if_neg (fun member => repeated (known.mpr member))]
      refine .cons here (ih ((item, other) :: seen) fun one member another inside => ?_)
      refine agree one ?_ another (List.mem_cons_of_mem _ inside)
      simp only [List.cons_append, List.mem_cons, List.mem_append] at member ⊢
      tauto

end FirstOfEach

namespace DirectoryRecord

/-! ## One record -/

/-- The fields of fixed width say how long the others are. -/
structure Fits (record : DirectoryRecord) : Prop where
  header_length : record.header.length = headerSize
  name_length : record.name.length = record.header.field 28 2
  extra_length : record.extra.length = record.header.field 30 2
  comment_length : record.comment.length = record.header.field 32 2

theorem take?_eq_some_iff {data rest : Bytes} {record : DirectoryRecord} :
    take? data = some (record, rest) ↔ data = record.encode ++ rest ∧ record.Fits := by
  simp only [take?, Option.bind_eq_bind, Option.bind_eq_some_iff, Option.pure_def, Option.some.injEq,
    Prod.mk.injEq, Prod.exists, Bytes.split?_eq_some_iff]
  constructor
  · rintro ⟨header, _, ⟨rfl, width⟩, name, _, ⟨rfl, named⟩, extra, _, ⟨rfl, extended⟩, comment, _,
      ⟨rfl, commented⟩, rfl, rfl⟩
    exact ⟨by simp [encode], width, named, extended, commented⟩
  · rintro ⟨rfl, width, named, extended, commented⟩
    exact ⟨_, _, ⟨by simp [encode], width⟩, _, _, ⟨rfl, named⟩, _, _, ⟨rfl, extended⟩, _, _,
      ⟨rfl, commented⟩, rfl, rfl⟩

/-- A record that a directory can hold. -/
structure Listable (record : DirectoryRecord) : Prop extends Fits record where
  signed : signature <+: record.header

theorem starts_encode {record : DirectoryRecord} (listable : record.Listable) (rest : Bytes) :
    starts (record.encode ++ rest) = true := by
  have front : signature <+: record.encode ++ rest := by
    simp only [encode, List.append_assoc]
    exact listable.signed.trans (List.prefix_append _ _)
  have enough : ((record.encode ++ rest).take headerSize).length = headerSize := by
    simp only [encode, List.append_assoc, ← listable.header_length, List.take_left]
  rw [starts, List.isPrefixOf_iff_prefix.mpr front, enough]
  rfl

theorem listable_of_starts {record : DirectoryRecord} {rest : Bytes} (fits : record.Fits)
    (begins : starts (record.encode ++ rest) = true) : record.Listable := by
  refine ⟨fits, ?_⟩
  simp only [starts, Bool.and_eq_true, List.isPrefixOf_iff_prefix, encode, List.append_assoc]
    at begins
  refine List.prefix_of_prefix_length_le begins.1 (List.prefix_append _ _) ?_
  rw [fits.header_length]
  decide

theorem starts_and_take?_iff {data rest : Bytes} {record : DirectoryRecord} :
    (starts data = true ∧ take? data = some (record, rest)) ↔
      data = record.encode ++ rest ∧ record.Listable := by
  rw [take?_eq_some_iff]
  constructor
  · rintro ⟨begins, rfl, fits⟩
    exact ⟨rfl, listable_of_starts fits begins⟩
  · rintro ⟨rfl, listable⟩
    exact ⟨starts_encode listable rest, rfl, listable.toFits⟩

theorem signature_prefix_flatMap {record : DirectoryRecord} {records : List DirectoryRecord}
    (listable : record.Listable) : signature <+: (record :: records).flatMap encode := by
  simp only [List.flatMap_cons, encode, List.append_assoc]
  exact listable.signed.trans (List.prefix_append _ _)

/-! ## Consecutive records -/

theorem sequence_encode {record : DirectoryRecord} (listable : record.Listable) (rest : Bytes) :
    sequence (record.encode ++ rest) = (sequence rest).map (record :: ·) := by
  obtain ⟨begins, taken⟩ := starts_and_take?_iff.mpr ⟨rfl, listable⟩
  rw [sequence.eq_def, if_pos begins]
  split
  · next missing => rw [taken] at missing; cases missing
  · next found =>
    rw [taken] at found
    cases found
    cases sequence rest <;> rfl

theorem sequence_ok {data : Bytes} {records : List DirectoryRecord}
    (found : sequence data = .ok records) :
    ∃ rest, data = records.flatMap encode ++ rest ∧ starts rest = false ∧
      ∀ record ∈ records, record.Listable := by
  fun_induction sequence data generalizing records with
  | case1 data begins overruns => cases found
  | case2 data begins record rest taken ih =>
    obtain ⟨others, remaining, finished⟩ := outcome_bind_ok_iff.mp found
    cases finished
    obtain ⟨tail, rfl, ends, listable⟩ := ih remaining
    obtain ⟨rfl, first⟩ := starts_and_take?_iff.mp ⟨begins, taken⟩
    exact ⟨tail, by simp, ends, by simpa using ⟨first, listable⟩⟩
  | case3 data ends =>
    cases found
    exact ⟨data, rfl, by simpa using ends, by simp⟩

theorem sequence_flatMap_encode {records : List DirectoryRecord} {rest : Bytes}
    (listable : ∀ record ∈ records, record.Listable) (ends : starts rest = false) :
    sequence (records.flatMap encode ++ rest) = .ok records := by
  induction records with
  | nil =>
    rw [List.flatMap_nil, List.nil_append, sequence.eq_def, if_neg (by simp [ends])]
  | cons record others ih =>
    rw [List.forall_mem_cons] at listable
    rw [List.flatMap_cons, List.append_assoc, sequence_encode listable.1, ih listable.2]
    rfl

theorem firstOfEachName_eq (seen : List Bytes) (records : List DirectoryRecord) :
    firstOfEachName seen records = firstOfEach (·.name) seen records := by
  induction records generalizing seen with
  | nil => rfl
  | cons record rest ih =>
    rw [firstOfEachName, firstOfEach, ih, ih]
    by_cases known : record.name ∈ seen
    · rw [if_pos known, if_pos known]
    · rw [if_neg known, if_neg known]

theorem firstOfEachName_sublist (records : List DirectoryRecord) :
    (firstOfEachName [] records).Sublist records :=
  firstOfEachName_eq [] records ▸ firstOfEach_sublist _ [] records

theorem length_firstOfEachName_eq_iff {records : List DirectoryRecord} :
    (firstOfEachName [] records).length = records.length ↔ (records.map (·.name)).Nodup :=
  firstOfEachName_eq [] records ▸ length_firstOfEach_eq_iff _

end DirectoryRecord

/-! ## The end record -/

namespace EndRecord

/-- Every number fits its field. -/
structure Fits (ending : EndRecord) : Prop where
  disk_lt : ending.disk < 0x10000
  directoryDisk_lt : ending.directoryDisk < 0x10000
  entriesOnDisk_lt : ending.entriesOnDisk < 0x10000
  entries_lt : ending.entries < 0x10000
  directorySize_lt : ending.directorySize < 0x100000000
  directoryOffset_lt : ending.directoryOffset < 0x100000000
  comment_lt : ending.comment.length < 0x10000

/-- The part of fixed width. -/
def header (ending : EndRecord) : Bytes :=
  signature ++ (Bytes.littleEndian 2 ending.disk ++ (Bytes.littleEndian 2 ending.directoryDisk ++
    (Bytes.littleEndian 2 ending.entriesOnDisk ++ (Bytes.littleEndian 2 ending.entries ++
      (Bytes.littleEndian 4 ending.directorySize ++ (Bytes.littleEndian 4 ending.directoryOffset ++
        Bytes.littleEndian 2 ending.comment.length))))))

theorem length_signature : signature.length = 4 := by decide

theorem encode_eq (ending : EndRecord) : ending.encode = ending.header ++ ending.comment := by
  simp [encode, header]

theorem length_header (ending : EndRecord) : ending.header.length = headerSize := by
  simp [header, Bytes.length_littleEndian, signature, headerSize]

theorem signature_prefix_encode (ending : EndRecord) : signature <+: ending.encode := by
  rw [encode_eq, header, List.append_assoc]
  exact List.prefix_append _ _

theorem starts_encode (ending : EndRecord) : DirectoryRecord.starts ending.encode = false := by
  have apart : ¬ DirectoryRecord.signature <+: ending.encode := by
    intro clash
    have same := List.prefix_of_prefix_length_le clash (signature_prefix_encode ending) (by decide)
    exact absurd same (by decide)
  rw [DirectoryRecord.starts, Bool.and_eq_false_iff]
  exact .inl (by simpa [← Bool.not_eq_true, List.isPrefixOf_iff_prefix] using apart)

theorem take?_encode {ending : EndRecord} (fits : ending.Fits) (rest : Bytes) :
    take? (ending.encode ++ rest) = some ending := by
  obtain ⟨disk, directoryDisk, entriesOnDisk, entries, size, offset, comment⟩ := fits
  have cut : Bytes.split? headerSize (ending.encode ++ rest)
      = some (ending.header, ending.comment ++ rest) :=
    Bytes.split?_eq_some_iff.mpr ⟨by rw [encode_eq, List.append_assoc], length_header ending⟩
  have width : ending.header.field 20 2 = ending.comment.length := by
    simp [header, length_signature, Bytes.field_append_right, Bytes.length_littleEndian,
      Bytes.field_littleEndian_self, Bytes.capacity, comment]
  have cutComment : Bytes.split? ending.comment.length (ending.comment ++ rest)
      = some (ending.comment, rest) := Bytes.split?_eq_some_iff.mpr ⟨rfl, rfl⟩
  rw [take?, cut]
  simp only [Option.bind_eq_bind, Option.bind_some, width, cutComment, Option.pure_def]
  simp [header, length_signature, Bytes.field_append_right, Bytes.length_littleEndian,
    Bytes.field_littleEndian, Bytes.capacity, disk, directoryDisk, entriesOnDisk, entries, size, offset]

theorem take?_eq_none_of_length {data : Bytes} (short : data.length < headerSize) :
    take? data = none := by
  have nothing : Bytes.split? headerSize data = none := by
    unfold Bytes.split?
    rw [List.take_of_length_le (Nat.le_of_lt short), if_neg (Nat.ne_of_lt short)]
  simp [take?, nothing]

/-- No other end record can be read behind the start of this one. -/
def IsLast (ending : EndRecord) : Prop :=
  ∀ skipped rest, ending.encode = skipped ++ rest → skipped ≠ [] → signature <+: rest →
    take? rest = none

theorem isLast_of_comment_eq_nil {ending : EndRecord} (plain : ending.comment = []) :
    ending.IsLast := by
  intro skipped rest parts nonempty _
  have total := congrArg List.length parts
  rw [encode_eq, plain, List.append_nil, length_header, List.length_append] at total
  have positive := List.length_pos_iff.mpr nonempty
  exact take?_eq_none_of_length (by omega)

end EndRecord

end Unannotate
