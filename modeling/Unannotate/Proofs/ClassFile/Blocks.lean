import Unannotate.AnnotationTree.Basic
import Unannotate.ClassFile.Code
import Unannotate.ClassFile.Record
import Unannotate.Proofs.ClassFile.Faults
import Unannotate.Proofs.ClassFile.Reading

/-!
# Readers take data block by block

All that a reader of class file data does with its data is to take the next block of some length, to look
whether the end is reached, and to go on with what it found. Such a course of blocks can be followed over
positions in the data as well, where a block that does not lie in it would be an access outside of the
data; it never is. What holds of courses in general then holds of every reader: a course that reads data to
the end is stopped for want of bytes on everything shorter.
-/
set_option autoImplicit false

namespace Unannotate

open Reader

/-! ## Courses of blocks -/

/-- What is done with data, one block after the other. -/
inductive BlockReads (α : Type)
  | done (value : α)
  | refuse (fault : Malformation) (fromReading : fault.FromReading)
  | take (count : Nat) (further : Bytes → BlockReads α)
  | atEnd (part : String) (further : BlockReads α)

/-- The bytes from one position to another; none where these do not lie in the data. -/
def Bytes.slice? (data : Bytes) (start stop : Nat) : Option Bytes :=
  if start ≤ stop ∧ stop ≤ data.length then some ((data.take stop).drop start) else none

theorem Bytes.slice?_isSome (data : Bytes) (start stop : Nat) :
    (data.slice? start stop).isSome ↔ start ≤ stop ∧ stop ≤ data.length := by
  unfold slice?
  split <;> simp [*]

namespace BlockReads

variable {α β : Type}

/-- The course as a reader. -/
def reader : BlockReads α → Reader α
  | done value => pure value
  | refuse fault _ => fail fault
  | take count further => do
    let block ← bytes count
    (further block).reader
  | atEnd part further => do
    finish part
    further.reader

/-- The course over positions in the data, with the position behind what it took; none as soon as it
looks outside of the data. -/
def byOffset (data : Bytes) : BlockReads α → (offset : Nat) → Option (Except Malformation (α × Nat))
  | done value, offset => some (.ok (value, offset))
  | refuse fault _, _ => some (.error fault)
  | take count further, offset =>
    if offset + count ≤ data.length then do
      let block ← data.slice? offset (offset + count)
      (further block).byOffset data (offset + count)
    else some (.error (.truncated count offset data.length))
  | atEnd part further, offset =>
    if offset = data.length then further.byOffset data offset
    else some (.error (.trailing (data.length - offset) part))

/-- The positions that the course comes by, in order. -/
def positions (data : Bytes) : BlockReads α → (offset : Nat) → List Nat
  | done _, offset => [offset]
  | refuse _ _, offset => [offset]
  | take count further, offset =>
    match data.slice? offset (offset + count) with
    | some block => offset :: (further block).positions data (offset + count)
    | none => [offset]
  | atEnd _ further, offset =>
    if offset = data.length then further.positions data offset else [offset]

def bind : BlockReads α → (α → BlockReads β) → BlockReads β
  | done value, next => next value
  | refuse fault fromReading, _ => refuse fault fromReading
  | take count further, next => take count fun block => (further block).bind next
  | atEnd part further, next => atEnd part (further.bind next)

theorem reader_bind (reads : BlockReads α) (next : α → BlockReads β) :
    (reads.bind next).reader = reads.reader >>= fun value => (next value).reader := by
  induction reads with
  | done value => rw [bind, reader, pure_bind]
  | refuse fault fromReading => rfl
  | take count further ih => simp only [bind, reader, ih, bind_assoc]
  | atEnd part further ih => simp only [bind, reader, ih, bind_assoc]

/-! ## What holds of every course -/

/-- A block is taken when there are enough bytes, and otherwise the want of them is the fault. -/
theorem bytes_cases (count : Nat) (cursor : Cursor) :
    (∃ block next, block.length = count ∧ cursor.Passes next block ∧
      bytes count cursor = .ok (block, next)) ∨
    cursor.rest.length < count ∧
      bytes count cursor = .error (.truncated count cursor.offset cursor.size) := by
  rcases Nat.lt_or_ge cursor.rest.length count with short | enough
  · refine .inr ⟨short, ?_⟩
    have none : cursor.take? count = none := by
      rw [Cursor.take?, if_neg]
      rw [List.length_take]
      omega
    rw [bytes, none]
  · have width : (cursor.rest.take count).length = count := List.length_take_of_le enough
    have passes : cursor.Passes ⟨(cursor.rest.take count).reverseAux cursor.passed,
        cursor.rest.drop count⟩ (cursor.rest.take count) :=
      ⟨(List.take_append_drop count cursor.rest).symm, rfl⟩
    exact .inl ⟨_, _, width, passes, (accepts_bytes count ..).mpr ⟨_, ⟨width, rfl⟩, passes⟩⟩

/-- What lies between the two ends of a block is the block. -/
theorem slice?_of_passes {cursor next : Cursor} {block : Bytes} (passes : cursor.Passes next block) :
    cursor.data.slice? cursor.offset (cursor.offset + block.length) = some block := by
  obtain ⟨passed, rest, rfl, rfl⟩ := (cursor.passes_iff next block).mp passes
  have split : (Cursor.data ⟨passed, block ++ rest⟩) = passed.reverse ++ block ++ rest := by
    simp [Cursor.data, List.reverseAux_eq]
  have front : (passed.reverse ++ block ++ rest).take (passed.length + block.length)
      = passed.reverse ++ block := by
    rw [List.take_left']
    simp
  rw [Bytes.slice?, split, Cursor.offset, if_pos (by simp), front, List.drop_left' (by simp)]

/-- The two ways to follow a course agree, and neither ever looks outside of the data. -/
theorem byOffset_eq (reads : BlockReads α) (cursor : Cursor) :
    reads.byOffset cursor.data cursor.offset
      = some ((reads.reader cursor).map fun found => (found.1, found.2.offset)) := by
  induction reads generalizing cursor with
  | done value => rfl
  | refuse fault fromReading => rfl
  | take count further ih =>
    rw [reader, byOffset, cursor.length_data]
    rcases bytes_cases count cursor with ⟨block, next, rfl, passes, taken⟩ | ⟨short, refused⟩
    · have inside : cursor.offset + block.length ≤ cursor.offset + cursor.rest.length := by
        have width := congrArg List.length passes.1
        rw [List.length_append] at width
        omega
      rw [if_pos inside, slice?_of_passes passes, bind_of_eq_ok taken, ← ih block next,
        passes.data_eq, passes.offset_eq]
      rfl
    · have outside : ¬ cursor.offset + count ≤ cursor.offset + cursor.rest.length := by omega
      rw [if_neg outside, bind_of_eq_error refused]
      rfl
  | atEnd part further ih =>
    rw [reader, byOffset, cursor.length_data]
    cases ahead : cursor.rest with
    | nil =>
      have finished := (finish_eq_ok_iff part cursor cursor).mpr ⟨ahead, rfl⟩
      rw [if_pos (by simp), bind_of_eq_ok finished, ih]
    | cons byte rest =>
      have refused : finish part cursor = .error (.trailing (byte :: rest).length part) := by
        rw [finish, ahead]
        rfl
      rw [if_neg (by simp), bind_of_eq_error refused, Nat.add_sub_cancel_left]
      rfl

theorem positions_inside (reads : BlockReads α) {data : Bytes} {offset : Nat}
    (inside : offset ≤ data.length) :
    ∀ position ∈ reads.positions data offset, offset ≤ position ∧ position ≤ data.length := by
  induction reads generalizing offset with
  | done value => simp [positions, inside]
  | refuse fault fromReading => simp [positions, inside]
  | take count further ih =>
    rw [positions]
    split
    · next block found =>
      have fits := (data.slice?_isSome ..).mp (Option.isSome_of_eq_some found)
      simp only [List.forall_mem_cons]
      refine ⟨⟨Nat.le_refl _, inside⟩, fun position later => ?_⟩
      have bounds := ih block fits.2 position later
      exact ⟨Nat.le_trans fits.1 bounds.1, bounds.2⟩
    · simp [inside]
  | atEnd part further ih =>
    rw [positions]
    split
    · exact ih inside
    · simp [inside]

/-- Whatever lies between two positions of a course lies in the data. -/
theorem positions_pairwise (reads : BlockReads α) {data : Bytes} {offset : Nat}
    (inside : offset ≤ data.length) :
    (reads.positions data offset).Pairwise fun start stop => (data.slice? start stop).isSome := by
  simp only [Bytes.slice?_isSome]
  induction reads generalizing offset with
  | done value => exact List.pairwise_singleton ..
  | refuse fault fromReading => exact List.pairwise_singleton ..
  | take count further ih =>
    rw [positions]
    split
    · next block found =>
      have fits := (data.slice?_isSome ..).mp (Option.isSome_of_eq_some found)
      refine List.pairwise_cons.mpr ⟨fun position later => ?_, ih block fits.2⟩
      have bounds := (further block).positions_inside fits.2 position later
      exact ⟨Nat.le_trans fits.1 bounds.1, bounds.2⟩
    · exact List.pairwise_singleton ..
  | atEnd part further ih =>
    rw [positions]
    split
    · exact ih inside
    · exact List.pairwise_singleton ..

/-- Data that is read to the end is too short for its course wherever it is cut. -/
theorem starves (reads : BlockReads α) {passed short missing : Bytes} {value : α} {last : Cursor}
    (read : reads.reader ⟨passed, short ++ missing⟩ = .ok (value, last)) (toEnd : last.rest = [])
    (cut : missing ≠ []) :
    ∃ need offset, reads.reader ⟨passed, short⟩
        = .error (.truncated need offset (passed.length + short.length)) ∧
      offset ≤ passed.length + short.length ∧ passed.length + short.length < offset + need := by
  induction reads generalizing passed short with
  | done result =>
    cases (show Except.ok (result, (⟨passed, short ++ missing⟩ : Cursor)) = .ok (value, last) from read)
    exact absurd (List.append_eq_nil_iff.mp toEnd).2 cut
  | refuse fault fromReading =>
    cases (show Except.error fault = .ok (value, last) from read)
  | take count further ih =>
    rcases bytes_cases count ⟨passed, short⟩ with
      ⟨block, ⟨behind, rest⟩, -, passes, taken⟩ | ⟨few, refused⟩
    · -- The block lies in front of the cut, so that what is missing has no part in it.
      rw [reader, bind_of_eq_ok ((accepts_bytes count).append taken missing)] at read
      obtain ⟨need, offset, starved, bounds⟩ := ih block read
      have size : behind.length + rest.length = passed.length + short.length := by
        simpa [Cursor.length_data, Cursor.offset] using congrArg List.length passes.data_eq
      rw [size] at starved bounds
      exact ⟨need, offset, by rw [reader, bind_of_eq_ok taken, starved], bounds⟩
    · refine ⟨count, passed.length, ?_, Nat.le_add_right .., Nat.add_lt_add_left few _⟩
      rw [reader, bind_of_eq_error refused]
      rfl
  | atEnd part further ih =>
    obtain ⟨_, next, finished, -⟩ := bind_eq_ok_iff.mp read
    obtain ⟨nothing, -⟩ := (finish_eq_ok_iff part _ next).mp finished
    exact absurd (List.append_eq_nil_iff.mp nothing).2 cut

/-- A course refuses because of what it reads. -/
theorem meetsReadingFaults (reads : BlockReads α) : MeetsReadingFaults reads.reader := by
  intro cursor
  induction reads generalizing cursor with
  | done value => exact readsOnly_ok _
  | refuse fault fromReading => exact readsOnly_error fromReading
  | take count further ih =>
    refine readsOnly_bind ?_ fun found => ih found.1 found.2
    rcases bytes_cases count cursor with ⟨block, next, -, -, taken⟩ | ⟨-, refused⟩
    · rw [taken]
      exact readsOnly_ok _
    · rw [refused]
      exact readsOnly_error trivial
  | atEnd part further ih =>
    refine readsOnly_bind ?_ fun found => ih found.2
    rw [finish]
    split
    · exact readsOnly_ok _
    · exact readsOnly_error trivial

end BlockReads

/-! ## Readers with a course -/

namespace Reader

variable {α β : Type}

/-- The reader does with its data what some course of blocks does. -/
def TakesBlocks (reader : Reader α) : Prop := ∃ reads : BlockReads α, reads.reader = reader

theorem blocks_pure (value : α) : TakesBlocks (pure value) := ⟨.done value, rfl⟩

theorem blocks_fail {fault : Malformation} (fromReading : fault.FromReading) :
    TakesBlocks (fail fault : Reader α) := ⟨.refuse fault fromReading, rfl⟩

theorem blocks_bind {first : Reader α} {second : α → Reader β} (firstBlocks : first.TakesBlocks)
    (secondBlocks : ∀ value, (second value).TakesBlocks) : TakesBlocks (first >>= second) := by
  obtain ⟨reads, rfl⟩ := firstBlocks
  choose next same using secondBlocks
  refine ⟨reads.bind next, ?_⟩
  simp only [BlockReads.reader_bind, same]

theorem blocks_map {reader : Reader α} (make : α → β) (blocks : reader.TakesBlocks) :
    TakesBlocks (make <$> reader) := by
  rw [← bind_pure_comp]
  exact blocks_bind blocks fun value => blocks_pure (make value)

theorem blocks_bytes (count : Nat) : TakesBlocks (bytes count) :=
  ⟨.take count .done, bind_pure _⟩

theorem blocks_finish (part : String) : TakesBlocks (finish part) :=
  ⟨.atEnd part (.done ()), bind_pure _⟩

theorem blocks_u8 : TakesBlocks u8 := blocks_bind (blocks_bytes 1) fun _ => blocks_pure _

theorem blocks_u16 : TakesBlocks u16 := blocks_bind (blocks_bytes 2) fun _ => blocks_pure _

theorem blocks_u32 : TakesBlocks u32 := blocks_bind (blocks_bytes 4) fun _ => blocks_pure _

theorem blocks_u64 : TakesBlocks u64 := blocks_bind (blocks_bytes 8) fun _ => blocks_pure _

theorem blocks_times {item : Reader α} (blocks : item.TakesBlocks) (count : Nat) :
    TakesBlocks (times item count) := by
  induction count with
  | zero => exact blocks_pure []
  | succ count ih => exact blocks_bind blocks fun _ => blocks_bind ih fun _ => blocks_pure _

theorem blocks_counted {item : Reader α} (blocks : item.TakesBlocks) : TakesBlocks (counted item) :=
  blocks_bind blocks_u16 fun count => blocks_times blocks count.toNat

/-! ## Whole byte strings -/

theorem all_eq (reader : Reader α) (part : String) (data : Bytes) :
    all reader part data
      = ((do let value ← reader; finish part; return value : Reader α) (.ofBytes data)).map
          Prod.fst := by
  unfold all
  split
  · next value last read => rw [read]; rfl
  · next fault refused => rw [refused]; rfl

theorem all_of_error {reader : Reader α} {data : Bytes} {fault : Malformation}
    (refused : reader (.ofBytes data) = .error fault) (part : String) :
    all reader part data = .error fault := by
  rw [all_eq, bind_of_eq_error refused]
  rfl

/-- What is left behind the value is one byte too many. -/
theorem all_of_rest {reader : Reader α} {data : Bytes} {value : α} {next : Cursor}
    (read : reader (.ofBytes data) = .ok (value, next)) (more : next.rest ≠ []) (part : String) :
    all reader part data = .error (.trailing next.rest.length part) := by
  have refused : finish part next = .error (.trailing next.rest.length part) := by
    rw [finish, if_neg (by simpa using more)]
  rw [all_eq, bind_of_eq_ok read, bind_of_eq_error refused]
  rfl

theorem readsOnly_all {reader : Reader α} (blocks : reader.TakesBlocks) (part : String) (data : Bytes) :
    ReadsOnly (all reader part data) := by
  obtain ⟨reads, same⟩ := blocks_bind blocks fun value =>
    blocks_bind (blocks_finish part) fun _ => blocks_pure value
  rw [all_eq, ← same]
  exact readsOnly_map _ (reads.meetsReadingFaults _)

end Reader

/-! ## Constant pools -/

namespace Constant

theorem blocks_pairOf (make : UInt16 → UInt16 → Constant) : TakesBlocks (pairOf make) :=
  blocks_bind blocks_u32 fun _ => blocks_pure _

theorem blocks_readText : TakesBlocks readText := by
  refine blocks_bind blocks_u16 fun length => blocks_bind (blocks_bytes length.toNat) fun encoded => ?_
  split
  · exact blocks_pure _
  · next fault undecodable =>
    exact blocks_fail (ModifiedUtf8.readsOnly_decode encoded fault undecodable)

theorem blocks_readBody (tag : UInt8) (index : Nat) : TakesBlocks (readBody tag index) := by
  unfold readBody
  split
  case h_1 => exact blocks_readText
  case h_12 => exact blocks_bind (blocks_bytes 3) fun _ => blocks_pure _
  case h_18 => exact blocks_fail trivial
  all_goals
    first
    | exact blocks_map _ blocks_u16
    | exact blocks_map _ blocks_u32
    | exact blocks_map _ blocks_u64
    | exact blocks_pairOf _

end Constant

namespace ConstantPool

theorem blocks_readConstants (count : UInt16) (remaining index : Nat) :
    TakesBlocks (readConstants count remaining index) := by
  induction remaining using Nat.strongRecOn generalizing index with
  | ind remaining ih =>
    cases remaining with
    | zero =>
      rw [readConstants]
      exact blocks_pure []
    | succ remaining =>
      -- A wide constant takes two numbers at once, so that the induction is over all smaller counts.
      have after (left step : Nat) (fewer : left < remaining + 1) (tag : UInt8) :
          TakesBlocks (do
            let constant ← Constant.readBody tag index
            let others ← readConstants count left (index + step)
            return constant :: others) :=
        blocks_bind (Constant.blocks_readBody tag index) fun _ =>
          blocks_bind (ih left fewer (index + step)) fun _ => blocks_pure _
      rw [readConstants]
      refine blocks_bind blocks_u8 fun tag => ?_
      split
      · cases remaining with
        | zero => exact blocks_fail trivial
        | succ remaining => exact after remaining 2 (by omega) tag
      · exact after remaining 1 (by omega) tag

theorem blocks_read : TakesBlocks read :=
  blocks_bind blocks_u16 fun count =>
    blocks_bind (blocks_readConstants count (count.toNat - 1) 1) fun _ => blocks_pure _

end ConstantPool

/-! ## Class files -/

theorem Attribute.blocks_readList : TakesBlocks readList :=
  blocks_counted (blocks_bind blocks_u16 fun _ => blocks_bind blocks_u32 fun length =>
    blocks_bind (blocks_bytes length.toNat) fun _ => blocks_pure _)

theorem Member.blocks_read : TakesBlocks read :=
  blocks_bind blocks_u16 fun _ => blocks_bind blocks_u16 fun _ => blocks_bind blocks_u16 fun _ =>
    blocks_bind Attribute.blocks_readList fun _ => blocks_pure _

theorem RecordComponent.blocks_readList : TakesBlocks (counted read) :=
  blocks_counted (blocks_bind blocks_u16 fun _ => blocks_bind blocks_u16 fun _ =>
    blocks_bind Attribute.blocks_readList fun _ => blocks_pure _)

theorem RecordComponent.readsOnly_parseList (info : Bytes) : ReadsOnly (parseList info) :=
  readsOnly_all blocks_readList "Record attribute" info

theorem Code.blocks_read : TakesBlocks read :=
  blocks_bind (blocks_bytes 4) fun _ => blocks_bind blocks_u32 fun length =>
    blocks_bind (blocks_bytes length.toNat) fun _ => blocks_bind blocks_u16 fun count =>
      blocks_bind (blocks_bytes (count.toNat * 8)) fun _ =>
        blocks_bind Attribute.blocks_readList fun _ => blocks_pure _

theorem Code.readsOnly_parse (info : Bytes) : ReadsOnly (parse info) :=
  readsOnly_all blocks_read "Code attribute" info

namespace ClassFile

theorem blocks_readHeader : TakesBlocks readHeader := by
  refine blocks_bind blocks_u32 fun first => ?_
  split
  · exact blocks_fail trivial
  · exact blocks_bind blocks_u16 fun _ => blocks_bind blocks_u16 fun _ => blocks_pure _

theorem blocks_read : TakesBlocks read :=
  blocks_bind blocks_readHeader fun _ => blocks_bind ConstantPool.blocks_read fun _ =>
    blocks_bind blocks_u16 fun _ => blocks_bind blocks_u16 fun _ => blocks_bind blocks_u16 fun _ =>
    blocks_bind (blocks_counted blocks_u16) fun _ =>
    blocks_bind (blocks_counted Member.blocks_read) fun _ =>
    blocks_bind (blocks_counted Member.blocks_read) fun _ =>
    blocks_bind Attribute.blocks_readList fun _ => blocks_pure _

theorem readsOnly_parse (data : Bytes) : ReadsOnly (parse data) :=
  readsOnly_bind (readsOnly_all blocks_read "class attributes" data) fun file =>
    readsOnly_bind file.readsOnly_name fun _ => readsOnly_ok file

end ClassFile

/-! ## Annotations -/

theorem ElementValue.blocks_readPair {readValue : Reader ElementValue}
    (blocks : readValue.TakesBlocks) : TakesBlocks (readPair readValue) :=
  blocks_bind blocks_u16 fun _ => blocks_bind blocks fun _ => blocks_pure _

theorem ElementValue.blocks_read (levels : Nat) : TakesBlocks (read levels) := by
  induction levels with
  | zero => exact blocks_fail trivial
  | succ levels ih =>
    rw [read]
    refine blocks_bind blocks_u8 fun tag => ?_
    split
    · exact blocks_bind blocks_u16 fun _ => blocks_pure _
    split
    · exact blocks_bind blocks_u32 fun _ => blocks_pure _
    split
    · exact blocks_bind blocks_u16 fun _ =>
        blocks_bind (blocks_counted (blocks_readPair ih)) fun _ => blocks_pure _
    split
    · exact blocks_bind (blocks_counted ih) fun _ => blocks_pure _
    · exact blocks_fail trivial

namespace AnnotationTree

theorem blocks_readList : TakesBlocks readList := by
  have values := ElementValue.blocks_readPair (ElementValue.blocks_read ElementValue.maxDepth)
  exact blocks_counted (blocks_bind blocks_u16 fun _ =>
    blocks_bind (blocks_counted values) fun _ => blocks_pure _)

theorem readsOnly_parseList (info : Bytes) : ReadsOnly (parseList info) :=
  readsOnly_all blocks_readList "annotations attribute" info

theorem readsOnly_parseParameters (info : Bytes) : ReadsOnly (parseParameters info) :=
  readsOnly_all (blocks_bind blocks_u8 fun count => blocks_times blocks_readList count.toNat)
    "parameter annotations attribute" info

end AnnotationTree

end Unannotate
