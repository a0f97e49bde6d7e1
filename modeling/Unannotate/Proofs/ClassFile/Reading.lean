import Mathlib.Tactic.Basic
import Unannotate.ClassFile.Reader
import Unannotate.Proofs.BigEndian
import Unannotate.Proofs.Outcomes

/-!
# Readers that accept exactly a written form

`Reader.Accepts reader written` says that a reader takes a value from the front of what lies ahead
exactly when a written form of the value stands there, whatever was passed before and whatever follows.
Readers made from such readers by sequencing and counting are of the same kind, so each section of a
class file needs one statement, from which both directions of its codec follow.
-/
set_option autoImplicit false

namespace Unannotate

/-! ## Passing over a block of bytes -/

/-- From `cursor` to `next` exactly the bytes `front` are passed. -/
def Cursor.Passes (cursor next : Cursor) (front : Bytes) : Prop :=
  cursor.rest = front ++ next.rest ∧ next.passed = front.reverseAux cursor.passed

theorem Cursor.passes_iff (cursor next : Cursor) (front : Bytes) :
    cursor.Passes next front ↔
      ∃ passed rest, cursor = ⟨passed, front ++ rest⟩ ∧ next = ⟨front.reverseAux passed, rest⟩ := by
  constructor
  · intro passes
    refine ⟨cursor.passed, next.rest, ?_, ?_⟩
    · rw [← passes.1]
    · rw [← passes.2]
  · rintro ⟨passed, rest, rfl, rfl⟩
    exact ⟨rfl, rfl⟩

theorem Cursor.passes_nil (cursor next : Cursor) : cursor.Passes next [] ↔ next = cursor := by
  cases cursor
  cases next
  simp [Cursor.Passes, and_comm, eq_comm]

theorem Cursor.Passes.append {cursor middle next : Cursor} {front back : Bytes}
    (first : cursor.Passes middle front) (second : middle.Passes next back) :
    cursor.Passes next (front ++ back) := by
  refine ⟨?_, ?_⟩
  · rw [first.1, second.1, List.append_assoc]
  · rw [second.2, first.2]
    simp [List.reverseAux_eq]

/-- What is passed splits where the bytes do. -/
theorem Cursor.Passes.split {cursor next : Cursor} {front back : Bytes}
    (passes : cursor.Passes next (front ++ back)) :
    ∃ middle : Cursor, cursor.Passes middle front ∧ middle.Passes next back := by
  refine ⟨⟨front.reverseAux cursor.passed, back ++ next.rest⟩, ⟨?_, rfl⟩, rfl, ?_⟩
  · rw [passes.1, List.append_assoc]
  · rw [passes.2]
    simp [List.reverseAux_eq]

theorem Cursor.Passes.data_eq {cursor next : Cursor} {front : Bytes}
    (passes : cursor.Passes next front) : next.data = cursor.data := by
  obtain ⟨passed, rest, rfl, rfl⟩ := (cursor.passes_iff next front).mp passes
  simp [Cursor.data, List.reverseAux_eq]

theorem Cursor.Passes.offset_eq {cursor next : Cursor} {front : Bytes}
    (passes : cursor.Passes next front) : next.offset = cursor.offset + front.length := by
  obtain ⟨passed, rest, rfl, rfl⟩ := (cursor.passes_iff next front).mp passes
  simp [Cursor.offset, List.reverseAux_eq, Nat.add_comm]

/-- What was passed since the start of a block is the block. -/
theorem Cursor.Passes.since_eq {cursor next : Cursor} {front : Bytes}
    (passes : cursor.Passes next front) : next.since cursor.offset = front := by
  obtain ⟨passed, rest, rfl, rfl⟩ := (cursor.passes_iff next front).mp passes
  simp [Cursor.since, Cursor.offset, List.reverseAux_eq]

theorem Cursor.length_data (cursor : Cursor) :
    cursor.data.length = cursor.offset + cursor.rest.length := by
  simp [Cursor.data, Cursor.offset, List.reverseAux_eq]

theorem Cursor.take?_eq_some_iff {count : Nat} {cursor next : Cursor} {taken : Bytes} :
    cursor.take? count = some (taken, next) ↔ taken.length = count ∧ cursor.Passes next taken := by
  constructor
  · intro success
    obtain ⟨width, ahead, behind⟩ := take?_eq_some success
    exact ⟨width, ahead, behind⟩
  · rintro ⟨rfl, passes⟩
    obtain ⟨passed, rest, rfl, rfl⟩ := (passes_iff cursor next taken).mp passes
    exact take?_append passed taken rest

namespace Reader

variable {α β : Type}

/-- The reader succeeds exactly on the written forms of values, and passes over nothing else. -/
def Accepts (reader : Reader α) (written : α → Bytes → Prop) : Prop :=
  ∀ cursor value next, reader cursor = .ok (value, next) ↔
    ∃ front, written value front ∧ cursor.Passes next front

/-- Each value that fits has one written form. -/
def Written (fits : α → Prop) (layout : α → Bytes) (value : α) (front : Bytes) : Prop :=
  fits value ∧ front = layout value

theorem Accepts.congr {reader : Reader α} {written written' : α → Bytes → Prop}
    (accepts : reader.Accepts written)
    (same : ∀ value front, written value front ↔ written' value front) :
    reader.Accepts written' := by
  intro cursor value next
  rw [accepts]
  exact exists_congr fun front => and_congr_left fun _ => same value front

/-- What is written in front of anything else is read and passed over. -/
theorem Accepts.read {reader : Reader α} {written : α → Bytes → Prop} (accepts : reader.Accepts written)
    {value : α} {front : Bytes} (isWritten : written value front) (passed tail : Bytes) :
    reader ⟨passed, front ++ tail⟩ = .ok (value, ⟨front.reverseAux passed, tail⟩) :=
  (accepts ..).mpr ⟨front, isWritten, rfl, rfl⟩

/-- More bytes behind what is read change nothing. -/
theorem Accepts.append {reader : Reader α} {written : α → Bytes → Prop} (accepts : reader.Accepts written)
    {passed short behind rest : Bytes} {value : α}
    (read : reader ⟨passed, short⟩ = .ok (value, ⟨behind, rest⟩)) (more : Bytes) :
    reader ⟨passed, short ++ more⟩ = .ok (value, ⟨behind, rest ++ more⟩) := by
  obtain ⟨front, isWritten, ahead, passedOver⟩ := (accepts ..).mp read
  refine (accepts ..).mpr ⟨front, isWritten, ?_, passedOver⟩
  rw [show short = front ++ rest from ahead, List.append_assoc]

/-! ## Sequencing -/

theorem bind_eq_ok_iff {first : Reader α} {second : α → Reader β} {cursor next : Cursor} {value : β} :
    (first >>= second) cursor = .ok (value, next) ↔
      ∃ part middle, first cursor = .ok (part, middle) ∧ second part middle = .ok (value, next) := by
  show Except.bind (first cursor) (fun result => second result.1 result.2) = .ok (value, next) ↔ _
  cases first cursor with
  | error fault => simp [Except.bind]
  | ok result =>
    obtain ⟨part, middle⟩ := result
    simp [Except.bind]

theorem bind_of_eq_ok {first : Reader α} {second : α → Reader β} {cursor middle : Cursor} {part : α}
    (read : first cursor = .ok (part, middle)) : (first >>= second) cursor = second part middle := by
  show Except.bind (first cursor) (fun result => second result.1 result.2) = _
  rw [read]
  rfl

theorem bind_of_eq_error {first : Reader α} {second : α → Reader β} {cursor : Cursor}
    {fault : Malformation} (failed : first cursor = .error fault) :
    (first >>= second) cursor = .error fault := by
  show Except.bind (first cursor) (fun result => second result.1 result.2) = _
  rw [failed]
  rfl

theorem accepts_pure (value : α) :
    Accepts (pure value) fun result front => result = value ∧ front = [] := by
  intro cursor result next
  show Except.ok (value, cursor) = .ok (result, next) ↔ _
  constructor
  · rintro ⟨⟩
    exact ⟨[], ⟨rfl, rfl⟩, (cursor.passes_nil cursor).mpr rfl⟩
  · rintro ⟨front, ⟨rfl, rfl⟩, passes⟩
    rw [(cursor.passes_nil next).mp passes]

theorem accepts_bind {first : Reader α} {second : α → Reader β} {written : α → Bytes → Prop}
    {written' : α → β → Bytes → Prop} (firstAccepts : first.Accepts written)
    (secondAccepts : ∀ part, (second part).Accepts (written' part)) :
    Accepts (first >>= second) fun value front =>
      ∃ part upper lower, written part upper ∧ written' part value lower ∧ front = upper ++ lower := by
  intro cursor value next
  rw [bind_eq_ok_iff]
  constructor
  · rintro ⟨part, middle, firstRead, secondRead⟩
    obtain ⟨upper, upperWritten, upperPassed⟩ := (firstAccepts ..).mp firstRead
    obtain ⟨lower, lowerWritten, lowerPassed⟩ := (secondAccepts part ..).mp secondRead
    exact ⟨upper ++ lower, ⟨part, upper, lower, upperWritten, lowerWritten, rfl⟩,
      upperPassed.append lowerPassed⟩
  · rintro ⟨_, ⟨part, upper, lower, upperWritten, lowerWritten, rfl⟩, passes⟩
    obtain ⟨middle, upperPassed, lowerPassed⟩ := passes.split
    exact ⟨part, middle, (firstAccepts ..).mpr ⟨upper, upperWritten, upperPassed⟩,
      (secondAccepts part ..).mpr ⟨lower, lowerWritten, lowerPassed⟩⟩

theorem accepts_map {reader : Reader α} {written : α → Bytes → Prop} (make : α → β)
    (accepts : reader.Accepts written) :
    Accepts (make <$> reader) fun value front => ∃ part, written part front ∧ value = make part := by
  have mapped : (make <$> reader) = (reader >>= fun part => pure (make part)) := by
    rw [bind_pure_comp]
  rw [mapped]
  refine (accepts_bind accepts fun part => accepts_pure (make part)).congr ?_
  intro value front
  simp

theorem accepts_fail (fault : Malformation) : Accepts (fail fault : Reader α) fun _ _ => False := by
  intro cursor value next
  simp [fail]

/-! ## Blocks and integers -/

theorem accepts_bytes (count : Nat) :
    Accepts (bytes count) (Written (fun taken => taken.length = count) id) := by
  intro cursor taken next
  have read : bytes count cursor = .ok (taken, next) ↔ cursor.take? count = some (taken, next) := by
    unfold bytes
    cases cursor.take? count <;> simp
  rw [read, Cursor.take?_eq_some_iff]
  constructor
  · rintro ⟨width, passes⟩
    exact ⟨taken, ⟨width, rfl⟩, passes⟩
  · rintro ⟨_, ⟨width, rfl⟩, passes⟩
    exact ⟨width, passes⟩

/-- An integer of `width` bytes, given how such an integer and its number determine each other. -/
theorem accepts_integer (width : Nat) (ofNat : Nat → α) (toNat : α → Nat)
    (toNat_ofNat : ∀ value, value < Bytes.capacity width → toNat (ofNat value) = value)
    (toNat_lt : ∀ value, toNat value < Bytes.capacity width)
    (ofNat_toNat : ∀ value, ofNat (toNat value) = value) :
    Accepts (do return ofNat (Bytes.ofBigEndian (← bytes width)))
      fun value front => front = Bytes.bigEndian width (toNat value) := by
  refine (accepts_bind (accepts_bytes width) fun taken =>
    accepts_pure (ofNat (Bytes.ofBigEndian taken))).congr ?_
  intro value front
  constructor
  · rintro ⟨_, taken, _, ⟨enough, rfl⟩, ⟨rfl, rfl⟩, rfl⟩
    have bound := Bytes.ofBigEndian_lt taken
    rw [enough] at bound
    rw [toNat_ofNat _ bound, ← enough, Bytes.bigEndian_ofBigEndian]
    simp
  · rintro rfl
    have back : Bytes.ofBigEndian (Bytes.bigEndian width (toNat value)) = toNat value :=
      Bytes.ofBigEndian_bigEndian_of_lt (toNat_lt value)
    refine ⟨Bytes.bigEndian width (toNat value), _, [], ⟨Bytes.length_bigEndian .., rfl⟩, ⟨?_, rfl⟩, ?_⟩
    · rw [back, ofNat_toNat]
    · simp

theorem accepts_u8 : Accepts u8 fun value front => front = Bytes.ofUInt8 value := by
  refine (accepts_integer 1 UInt8.ofNat UInt8.toNat ?_ UInt8.toNat_lt ?_).congr ?_
  · intro value bound
    exact UInt8.toNat_ofNat_of_lt bound
  · intro value
    exact UInt8.ofNat_toNat
  · intro value front
    rw [Bytes.ofUInt8_eq]

theorem u8_cons (byte : UInt8) (passed rest : Bytes) :
    u8 ⟨passed, byte :: rest⟩ = .ok (byte, ⟨byte :: passed, rest⟩) :=
  accepts_u8.read rfl passed rest

theorem accepts_u16 : Accepts u16 fun value front => front = Bytes.ofUInt16 value := by
  refine accepts_integer 2 UInt16.ofNat UInt16.toNat ?_ UInt16.toNat_lt ?_
  · intro value bound
    exact UInt16.toNat_ofNat_of_lt bound
  · intro value
    exact UInt16.ofNat_toNat

theorem accepts_u32 : Accepts u32 fun value front => front = Bytes.ofUInt32 value := by
  refine accepts_integer 4 UInt32.ofNat UInt32.toNat ?_ UInt32.toNat_lt ?_
  · intro value bound
    exact UInt32.toNat_ofNat_of_lt bound
  · intro value
    exact UInt32.ofNat_toNat

theorem accepts_u64 : Accepts u64 fun value front => front = Bytes.ofUInt64 value := by
  refine accepts_integer 8 UInt64.ofNat UInt64.toNat ?_ UInt64.toNat_lt ?_
  · intro value bound
    exact UInt64.toNat_ofNat_of_lt bound
  · intro value
    exact UInt64.ofNat_toNat

/-- Two 16-bit numbers read as one block. -/
theorem accepts_pair (make : UInt16 → UInt16 → α) :
    Accepts (do let pair ← u32; return make (pair >>> 16).toUInt16 pair.toUInt16) fun value front =>
      ∃ upper lower, value = make upper lower ∧ front = Bytes.ofUInt16 upper ++ Bytes.ofUInt16 lower := by
  refine (accepts_bind accepts_u32 fun pair => accepts_pure _).congr ?_
  intro value front
  constructor
  · rintro ⟨pair, _, _, rfl, ⟨rfl, rfl⟩, rfl⟩
    refine ⟨_, _, rfl, ?_⟩
    rw [List.append_nil, Bytes.ofUInt32_eq_append]
  · rintro ⟨upper, lower, rfl, rfl⟩
    obtain ⟨pair, upperPart, lowerPart⟩ := Bytes.exists_pair upper lower
    refine ⟨pair, _, [], rfl, ⟨?_, rfl⟩, ?_⟩
    · rw [upperPart, lowerPart]
    · rw [List.append_nil, Bytes.ofUInt32_eq_append, upperPart, lowerPart]

/-! ## Lists -/

theorem accepts_times {item : Reader α} {fits : α → Prop} {layout : α → Bytes}
    (accepts : item.Accepts (Written fits layout)) (count : Nat) :
    Accepts (times item count)
      (Written (fun list => list.length = count ∧ ∀ value ∈ list, fits value)
        fun list => list.flatMap layout) := by
  induction count with
  | zero =>
    refine (accepts_pure []).congr ?_
    intro list front
    cases list <;> simp [Written]
  | succ count ih =>
    refine (accepts_bind accepts fun first => accepts_bind ih fun others =>
      accepts_pure (first :: others)).congr ?_
    intro list front
    cases list with
    | nil => simp [Written]
    | cons head tail => simp [Written]; tauto

/-- A list behind its 16-bit length. -/
def countedLayout (layout : α → Bytes) (list : List α) : Bytes :=
  Bytes.bigEndian 2 list.length ++ list.flatMap layout

def CountedFits (fits : α → Prop) (list : List α) : Prop :=
  list.length < 65536 ∧ ∀ value ∈ list, fits value

theorem CountedFits.ofSublist {fits : α → Prop} {kept list : List α}
    (listFits : CountedFits fits list) (part : kept.Sublist list) : CountedFits fits kept := by
  refine ⟨Nat.lt_of_le_of_lt part.length_le listFits.1, ?_⟩
  intro value inKept
  exact listFits.2 value (part.subset inKept)

/-- What holds of each item holds of what is left beside it. -/
theorem forall_mem_of_forall₂ {related : α → α → Prop} {fits : α → Prop}
    (transfer : ∀ left item, related left item → fits item → fits left) {kept list : List α}
    (remains : List.Forall₂ related kept list) (each : ∀ item ∈ list, fits item) :
    ∀ left ∈ kept, fits left := by
  induction remains with
  | nil => exact each
  | cons headRemains _ ih =>
    obtain ⟨headFits, tailFits⟩ := List.forall_mem_cons.mp each
    exact List.forall_mem_cons.mpr ⟨transfer _ _ headRemains headFits, ih tailFits⟩

theorem CountedFits.ofForall₂ {related : α → α → Prop} {fits : α → Prop}
    (transfer : ∀ left item, related left item → fits item → fits left) {kept list : List α}
    (remains : List.Forall₂ related kept list) (listFits : CountedFits fits list) :
    CountedFits fits kept := by
  refine ⟨?_, forall_mem_of_forall₂ transfer remains listFits.2⟩
  rw [remains.length_eq]
  exact listFits.1

/-- Items may go away, and less may be left of those that stay. -/
theorem CountedFits.ofSublistForall₂ {related : α → α → Prop} {fits : α → Prop}
    (transfer : ∀ left item, related left item → fits item → fits left) {kept list : List α}
    (remains : List.SublistForall₂ related kept list) (listFits : CountedFits fits list) :
    CountedFits fits kept := by
  obtain ⟨staying, remaining, part⟩ := List.sublistForall₂_iff.mp remains
  exact CountedFits.ofForall₂ transfer remaining (listFits.ofSublist part)

theorem accepts_counted {item : Reader α} {fits : α → Prop} {layout : α → Bytes}
    (accepts : item.Accepts (Written fits layout)) :
    Accepts (counted item) (Written (CountedFits fits) (countedLayout layout)) := by
  refine (accepts_bind accepts_u16 fun count => accepts_times accepts count.toNat).congr ?_
  intro list front
  constructor
  · rintro ⟨count, _, _, rfl, ⟨⟨width, fitting⟩, rfl⟩, rfl⟩
    refine ⟨⟨?_, fitting⟩, ?_⟩
    · rw [width]
      exact count.toNat_lt
    · rw [countedLayout, width, Bytes.ofUInt16]
  · rintro ⟨⟨bound, fitting⟩, rfl⟩
    have width : (UInt16.ofNat list.length).toNat = list.length := UInt16.toNat_ofNat_of_lt bound
    refine ⟨UInt16.ofNat list.length, _, _, rfl, ⟨⟨width.symm, fitting⟩, rfl⟩, ?_⟩
    rw [Bytes.ofUInt16, width, countedLayout]

/-! ## Whole byte strings -/

theorem finish_eq_ok_iff (part : String) (cursor next : Cursor) :
    finish part cursor = .ok ((), next) ↔ cursor.rest = [] ∧ next = cursor := by
  unfold finish
  cases ahead : cursor.rest with
  | nil => simp [eq_comm]
  | cons byte rest => simp

/-- A reader over a whole byte string succeeds exactly on the written forms. -/
theorem all_eq_ok_iff {reader : Reader α} {written : α → Bytes → Prop} (accepts : reader.Accepts written)
    (part : String) (data : Bytes) (value : α) :
    all reader part data = .ok value ↔ written value data := by
  have whole : all reader part data = .ok value ↔
      ∃ next, (do let value ← reader; finish part; return value : Reader α) (.ofBytes data)
        = .ok (value, next) := by
    unfold all
    split
    · next result next read =>
      rw [read]
      simp
    · next fault read =>
      rw [read]
      simp
  rw [whole]
  constructor
  · rintro ⟨next, read⟩
    obtain ⟨result, middle, valueRead, rest⟩ := bind_eq_ok_iff.mp read
    obtain ⟨_, last, finished, returned⟩ := bind_eq_ok_iff.mp rest
    obtain ⟨ended, rfl⟩ := (finish_eq_ok_iff part middle last).mp finished
    cases returned
    obtain ⟨front, frontWritten, ahead, -⟩ := (accepts ..).mp valueRead
    have entire : data = front := by simpa [Cursor.ofBytes, ended] using ahead
    rwa [entire]
  · intro dataWritten
    let last : Cursor := ⟨data.reverseAux [], []⟩
    have passes : (Cursor.ofBytes data).Passes last data := ⟨(List.append_nil data).symm, rfl⟩
    have valueRead := (accepts ..).mpr ⟨data, dataWritten, passes⟩
    have finished : finish part last = .ok ((), last) := (finish_eq_ok_iff part last last).mpr ⟨rfl, rfl⟩
    refine ⟨last, bind_eq_ok_iff.mpr ⟨value, last, valueRead, ?_⟩⟩
    exact bind_eq_ok_iff.mpr ⟨(), last, finished, rfl⟩

/-- Values that are read back from their layouts are told apart by them. -/
theorem eq_of_layout_eq {parse : Bytes → Except Malformation α} {layout : α → Bytes} {value other : α}
    (parsed : parse (layout value) = .ok value) (parsedOther : parse (layout other) = .ok other)
    (same : layout value = layout other) : value = other := by
  rw [same, parsedOther] at parsed
  exact (Except.ok.inj parsed).symm

/-! ## The writing side -/

/-- The encoder succeeds exactly on the values that fit, and writes their layout. -/
def Writes (encode : α → Except Malformation Bytes) (fits : α → Prop) (layout : α → Bytes) : Prop :=
  ∀ value front, encode value = .ok front ↔ Written fits layout value front

theorem ok_bind (value : α) (next : α → Except Malformation β) :
    (Except.ok value >>= next) = next value := rfl

theorem mapM_eq_ok_iff {encode : α → Except Malformation Bytes} {fits : α → Prop} {layout : α → Bytes}
    (writes : Writes encode fits layout) (list : List α) (items : List Bytes) :
    list.mapM encode = .ok items ↔ (∀ value ∈ list, fits value) ∧ items = list.map layout := by
  have each : ∀ value item, encode value = .ok item ↔ fits value ∧ layout value = item :=
    fun value item => (writes value item).trans (and_congr_right' eq_comm)
  simp only [mapM_eq_ok_iff_forall₂, each]
  rw [List.forall₂_and_left, ← List.forall₂_map_left_iff, List.forall₂_eq_eq_eq]
  exact and_congr_right' eq_comm

theorem encodeCount_eq_ok_iff (part : String) (count : Nat) (front : Bytes) :
    encodeCount part count = .ok front ↔ count < 65536 ∧ front = Bytes.bigEndian 2 count := by
  unfold encodeCount
  split
  · next fits => simp [fits, eq_comm]
  · next long => simp [long]

theorem writes_counted {encode : α → Except Malformation Bytes} {fits : α → Prop}
    {layout : α → Bytes} (writes : Writes encode fits layout) (part : String) :
    Writes
      (fun list => do
        let count ← encodeCount part list.length
        let items ← list.mapM encode
        return count ++ items.flatten)
      (CountedFits fits) (countedLayout layout) := by
  intro list front
  simp only [outcome_bind_ok_iff, encodeCount_eq_ok_iff, mapM_eq_ok_iff writes]
  constructor
  · rintro ⟨_, ⟨bound, rfl⟩, _, ⟨fitting, rfl⟩, returned⟩
    cases returned
    exact ⟨⟨bound, fitting⟩, by rw [countedLayout, List.flatMap]⟩
  · rintro ⟨⟨bound, fitting⟩, rfl⟩
    exact ⟨_, ⟨bound, rfl⟩, _, ⟨fitting, rfl⟩, by rw [countedLayout, List.flatMap]; rfl⟩

end Reader

end Unannotate
