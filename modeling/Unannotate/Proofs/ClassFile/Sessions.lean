import Unannotate.ClassFile.OffsetReader
import Unannotate.Proofs.ClassFile.Blocks

/-!
# Readers in memory stay inside of their data

Whatever is asked of a reader in memory, in whatever order and with lengths up to the largest word, its
offset stays in the data and no bytes outside of it are looked at. A request that is granted passes over the
bytes ahead, one that is refused moves nothing, and what was passed is the data in front of the offset. The
readers of class files do the same with a cursor, which cannot leave its data.
-/
set_option autoImplicit false

namespace Unannotate.OffsetReader

open Access

/-! ## The place of a reader -/

section Place

variable {reader : OffsetReader}

def Inside (reader : OffsetReader) : Prop := reader.offset ≤ reader.data.size

/-- The place of a reader as a cursor. -/
def cursor (reader : OffsetReader) : Cursor :=
  ⟨(reader.data.bytes.take reader.offset.toNat).reverse, reader.data.bytes.drop reader.offset.toNat⟩

theorem inside_iff : reader.Inside ↔ reader.offset.toNat ≤ reader.data.bytes.length := by
  rw [Inside, UInt64.le_iff_toNat_le, Slice.toNat_size]

theorem inside_start (data : Slice) : (start data).Inside := inside_iff.mpr (Nat.zero_le _)

theorem cursor_start (data : Slice) : (start data).cursor = .ofBytes data.bytes := rfl

theorem data_cursor (reader : OffsetReader) : reader.cursor.data = reader.data.bytes := by
  simp [cursor, Cursor.data, List.reverseAux_eq]

theorem offset_cursor (inside : reader.Inside) : reader.cursor.offset = reader.offset.toNat := by
  have bound := inside_iff.mp inside
  simp [cursor, Cursor.offset, bound]

theorem size_cursor (reader : OffsetReader) : reader.cursor.size = reader.data.bytes.length := by
  rw [← data_cursor, Cursor.length_data]
  rfl

theorem toNat_sum {first second : UInt64} (fits : first.toNat + second.toNat < UInt64.size) :
    (first + second).toNat = first.toNat + second.toNat := by
  rw [UInt64.toNat_add, Nat.mod_eq_of_lt fits]

/-- A word that counts some of the bytes ahead leads to where these are passed. -/
theorem cursor_of_passes {length : UInt64} {block : Bytes} {after : Cursor} (inside : reader.Inside)
    (width : block.length = length.toNat) (passes : reader.cursor.Passes after block) :
    reader.offset.toNat + length.toNat ≤ reader.data.bytes.length ∧
      (⟨reader.data, reader.offset + length⟩ : OffsetReader).Inside ∧
      (⟨reader.data, reader.offset + length⟩ : OffsetReader).cursor = after := by
  obtain ⟨passed, rest, here, rfl⟩ := (reader.cursor.passes_iff after block).mp passes
  have whole : reader.data.bytes = passed.reverse ++ block ++ rest := by
    rw [← data_cursor, here]
    simp [Cursor.data, List.reverseAux_eq]
  have front : reader.offset.toNat = passed.reverse.length := by
    rw [← offset_cursor inside, here, List.length_reverse]
    rfl
  have bound : reader.offset.toNat + length.toNat ≤ reader.data.bytes.length := by
    rw [whole, front, ← width]
    simp
  have moved : (reader.offset + length).toNat = (passed.reverse ++ block).length := by
    rw [toNat_sum (Nat.lt_of_le_of_lt bound reader.data.fits), front, ← width, List.length_append]
  refine ⟨bound, inside_iff.mpr ?_, ?_⟩
  · rw [moved, whole]
    simp
  · rw [cursor, moved, whole, List.take_left, List.drop_left]
    simp [List.reverseAux_eq]

end Place

/-! ## The same answers as from a cursor -/

section Agreement

variable {α β : Type} {reader : OffsetReader}

theorem bind_of_ok {first : Access α} {second : α → Access β} {value : α} {next : OffsetReader}
    (ran : first reader = some (.ok value, next)) : (first >>= second) reader = second value next := by
  show Option.bind (first reader) _ = _
  rw [ran]
  rfl

theorem bind_of_error {first : Access α} {second : α → Access β} {fault : Malformation}
    {next : OffsetReader} (ran : first reader = some (.error fault, next)) :
    (first >>= second) reader = some (.error fault, next) := by
  show Option.bind (first reader) _ = _
  rw [ran]
  rfl

theorem get_eq (reader : OffsetReader) : (get : Access OffsetReader) reader = some (.ok reader, reader) := rfl

theorem checked_of_some {result : Option α} {value : α} (found : result = some value)
    (reader : OffsetReader) : checked result reader = some (.ok value, reader) := by
  rw [found]
  rfl

/-- The access ends inside of the data with the outcome of reading at the cursor, and stays where it is when
it fails. -/
def Agrees (reader : OffsetReader) (access : Access α) (reading : Reader α) : Prop :=
  ∃ outcome next, access reader = some (outcome, next) ∧ next.data = reader.data ∧ next.Inside ∧
    reading reader.cursor = outcome.map (fun value => (value, next.cursor)) ∧
    ∀ fault, outcome = .error fault → next = reader

theorem Agrees.map {access : Access α} {reading : Reader α} (agrees : Agrees reader access reading)
    (make : α → β) : Agrees reader (make <$> access) (make <$> reading) := by
  obtain ⟨outcome, next, ran, sameData, inside, read, stays⟩ := agrees
  rw [← bind_pure_comp, ← bind_pure_comp]
  cases outcome with
  | error fault =>
    exact ⟨.error fault, next, bind_of_error ran, sameData, inside, Reader.bind_of_eq_error read,
      fun _ _ => stays fault rfl⟩
  | ok value =>
    exact ⟨.ok (make value), next, bind_of_ok ran, sameData, inside, Reader.bind_of_eq_ok read, nofun⟩

theorem sum?_filter_eq_none {offset length size : UInt64} (short : size.toNat < offset.toNat + length.toNat) :
    (sum? offset length).filter (· ≤ size) = none := by
  unfold sum?
  split
  · next fits =>
    have beyond : ¬ offset + length ≤ size := by
      rw [UInt64.le_iff_toNat_le, toNat_sum fits]
      omega
    simp [Option.filter, beyond]
  · rfl

theorem sum?_filter_eq_some {offset length size : UInt64} (enough : offset.toNat + length.toNat ≤ size.toNat) :
    (sum? offset length).filter (· ≤ size) = some (offset + length) := by
  have fits : offset.toNat + length.toNat < UInt64.size := Nat.lt_of_le_of_lt enough size.toNat_lt
  have within : offset + length ≤ size := by
    rw [UInt64.le_iff_toNat_le, toNat_sum fits]
    exact enough
  simp [sum?, fits, Option.filter, within]

/-- The bytes between the offset and a later one in the data are those ahead. -/
theorem between?_of_passes {length : UInt64} {block : Bytes} {after : Cursor} (inside : reader.Inside)
    (width : block.length = length.toNat) (passes : reader.cursor.Passes after block) :
    reader.data.between? reader.offset (reader.offset + length) = some block := by
  obtain ⟨bound, insideNext, moved⟩ := cursor_of_passes inside width passes
  have stop : (reader.offset + length).toNat = reader.offset.toNat + length.toNat :=
    toNat_sum (Nat.lt_of_le_of_lt bound reader.data.fits)
  have later : reader.offset ≤ reader.offset + length := by
    rw [UInt64.le_iff_toNat_le, stop]
    exact Nat.le_add_right ..
  have sliced := BlockReads.slice?_of_passes passes
  rw [data_cursor, offset_cursor inside, width, Bytes.slice?, if_pos ⟨Nat.le_add_right .., bound⟩] at sliced
  rw [Slice.between?, if_pos ⟨later, insideNext⟩, stop]
  exact sliced

/-- A block is granted when that many bytes are ahead, and it is what a cursor at this place gives. -/
theorem bytes_cases (inside : reader.Inside) (length : UInt64) :
    (∃ block next, block.length = length.toNat ∧ bytes length reader = some (.ok block, next) ∧
      next.data = reader.data ∧ next.Inside ∧
      Reader.bytes length.toNat reader.cursor = .ok (block, next.cursor)) ∨
    ∃ fault, bytes length reader = some (.error fault, reader) ∧
      Reader.bytes length.toNat reader.cursor = .error fault := by
  rcases BlockReads.bytes_cases length.toNat reader.cursor with
    ⟨block, after, width, passes, read⟩ | ⟨short, refused⟩
  · obtain ⟨bound, insideNext, moved⟩ := cursor_of_passes inside width passes
    refine .inl ⟨block, ⟨reader.data, reader.offset + length⟩, width, ?_, rfl, insideNext, ?_⟩
    · have enough := sum?_filter_eq_some (Nat.le_trans bound (Nat.le_of_eq reader.data.toNat_size.symm))
      rw [bytes, bind_of_ok (get_eq reader), enough]
      exact bind_of_ok (checked_of_some (between?_of_passes inside width passes) reader)
    · rw [moved, read]
  · have few : reader.data.size.toNat < reader.offset.toNat + length.toNat := by
      have whole := reader.cursor.length_data
      rw [data_cursor, offset_cursor inside] at whole
      rw [Slice.toNat_size, whole]
      omega
    refine .inr ⟨_, ?_, refused⟩
    rw [bytes, bind_of_ok (get_eq reader), sum?_filter_eq_none few, offset_cursor inside, size_cursor,
      Slice.toNat_size]
    rfl

/-- Whatever is made of the bytes of a block, as many as were asked for. -/
theorem agrees_bytes_bind (inside : reader.Inside) (length : UInt64) {second : Bytes → Access α}
    {make : Bytes → α} (gives : ∀ block, block.length = length.toNat → second block = pure (make block)) :
    Agrees reader (bytes length >>= second) (make <$> Reader.bytes length.toNat) := by
  rw [← bind_pure_comp]
  rcases bytes_cases inside length with
    ⟨block, next, width, ran, sameData, insideNext, read⟩ | ⟨fault, ran, refused⟩
  · refine ⟨.ok (make block), next, ?_, sameData, insideNext, Reader.bind_of_eq_ok read, nofun⟩
    rw [bind_of_ok ran, gives block width]
    rfl
  · exact ⟨.error fault, reader, bind_of_error ran, rfl, inside, Reader.bind_of_eq_error refused,
      fun _ _ => rfl⟩

theorem agrees_bytes (inside : reader.Inside) (length : UInt64) :
    Agrees reader (bytes length) (Reader.bytes length.toNat) := by
  have agrees : Agrees reader (bytes length >>= pure) (id <$> Reader.bytes length.toNat) :=
    agrees_bytes_bind inside length fun _ _ => rfl
  rwa [bind_pure, id_map] at agrees

theorem agrees_skip (inside : reader.Inside) (length : UInt64) :
    Agrees reader (skip length) ((fun _ => ()) <$> Reader.bytes length.toNat) :=
  agrees_bytes_bind inside length fun _ _ => rfl

theorem agrees_u8 (inside : reader.Inside) : Agrees reader u8 Reader.u8 := by
  rw [Reader.u8, bind_pure_comp]
  refine agrees_bytes_bind inside 1 fun block width => ?_
  match block, width with
  | [first], _ =>
    rw [show Bytes.ofBigEndian [first] = first.toNat from by simp [Bytes.ofBigEndian], UInt8.ofNat_toNat]
    rfl

theorem agrees_u16 (inside : reader.Inside) : Agrees reader u16 Reader.u16 := by
  rw [Reader.u16, bind_pure_comp]
  refine agrees_bytes_bind inside 2 fun block width => ?_
  match block, width with
  | [first, second], _ => rfl

theorem agrees_u32 (inside : reader.Inside) : Agrees reader u32 Reader.u32 := by
  rw [Reader.u32, bind_pure_comp]
  refine agrees_bytes_bind inside 4 fun block width => ?_
  match block, width with
  | [first, second, third, fourth], _ => rfl

/-- The bytes since an offset that was passed are those that a cursor has passed since then. -/
theorem since_eq {start : UInt64} (inside : reader.Inside) (earlier : start ≤ reader.offset) :
    since start reader = some (.ok (reader.cursor.since start.toNat), reader) := by
  have sliced : reader.data.between? start reader.offset = some (reader.cursor.since start.toNat) := by
    rw [Slice.between?, if_pos ⟨earlier, inside⟩, Cursor.since, cursor, List.reverse_reverse]
  rw [since, bind_of_ok (get_eq reader), checked_of_some sliced]

theorem finish_cases (inside : reader.Inside) (part : String) :
    (reader.cursor.rest = [] ∧ finish part reader = some (.ok (), reader)) ∨
    (reader.cursor.rest ≠ [] ∧
      finish part reader = some (.error (.trailing reader.cursor.rest.length part), reader)) := by
  have whole := reader.cursor.length_data
  rw [data_cursor, offset_cursor inside] at whole
  rw [finish, bind_of_ok (get_eq reader)]
  by_cases ended : reader.offset = reader.data.size
  · refine .inl ⟨List.eq_nil_of_length_eq_zero ?_, by rw [if_pos ended]; rfl⟩
    rw [← UInt64.toNat_inj, Slice.toNat_size] at ended
    omega
  · have left : difference? reader.data.size reader.offset = some (reader.data.size - reader.offset) :=
      if_pos inside
    have ahead : (reader.data.size - reader.offset).toNat = reader.cursor.rest.length := by
      rw [UInt64.toNat_sub_of_le _ _ inside, Slice.toNat_size]
      omega
    refine .inr ⟨fun nothing => ended ?_, ?_⟩
    · rw [← UInt64.toNat_inj, Slice.toNat_size, whole, nothing]
      rfl
    · rw [if_neg ended, bind_of_ok (checked_of_some left reader), ahead]
      rfl

theorem agrees_finish (inside : reader.Inside) (part : String) :
    Agrees reader (finish part) (Reader.finish part) := by
  rcases finish_cases inside part with ⟨ended, ran⟩ | ⟨more, ran⟩
  · refine ⟨.ok (), reader, ran, rfl, inside, ?_, nofun⟩
    exact (Reader.finish_eq_ok_iff part _ _).mpr ⟨ended, rfl⟩
  · refine ⟨.error _, reader, ran, rfl, inside, ?_, fun _ _ => rfl⟩
    rw [Reader.finish, if_neg (by simpa using more)]
    rfl

/-- Every request is answered as at the cursor, when turns began at or in front of the offset. -/
theorem agrees_access {startOf : Nat → UInt64} (inside : reader.Inside)
    (earlier : ∀ turn, startOf turn ≤ reader.offset) (request : Request) :
    Agrees reader (request.access startOf) (request.read startOf) := by
  cases request with
  | u8 => exact (agrees_u8 inside).map _
  | u16 => exact (agrees_u16 inside).map _
  | u32 => exact (agrees_u32 inside).map _
  | bytes length => exact (agrees_bytes inside length).map _
  | skip length =>
    have agrees := (agrees_skip inside length).map fun _ => Reply.nothing
    rwa [Functor.map_map] at agrees
  | since turn =>
    exact ⟨.ok _, reader, bind_of_ok (since_eq inside (earlier turn)), rfl, inside, rfl,
      nofun⟩
  | finish part => exact (agrees_finish inside part).map _

end Agreement

/-! ## What a request comes to -/

namespace Request

/-- How many bytes a request asks for. -/
def width : Request → Nat
  | u8 => 1
  | u16 => 2
  | u32 => 4
  | bytes length | skip length => length.toNat
  | since _ | finish _ => 0

/-- Why a request is refused behind so many of the bytes, if it is. The sum is one of numbers, which no word
bounds. -/
def fault? (request : Request) (offset size : Nat) : Option Malformation :=
  if size < offset + request.width then some (.truncated request.width offset size)
  else
    match request with
    | finish part => if offset = size then none else some (.trailing (size - offset) part)
    | _ => none

/-- A request is granted with a reply by passing over some bytes. -/
inductive Grants : Request → Reply → Bytes → Prop
  | u8 (value : UInt8) : Grants u8 (.byte value) (Bytes.ofUInt8 value)
  | u16 (value : UInt16) : Grants u16 (.short value) (Bytes.ofUInt16 value)
  | u32 (value : UInt32) : Grants u32 (.word value) (Bytes.ofUInt32 value)
  | bytes {length : UInt64} {front : Bytes} (enough : front.length = length.toNat) :
      Grants (bytes length) (.block front) front
  | skip {length : UInt64} {front : Bytes} (enough : front.length = length.toNat) :
      Grants (skip length) .nothing front
  | since (turn : Nat) (block : Bytes) : Grants (since turn) (.block block) []
  | finish (part : String) : Grants (finish part) .nothing []

variable {startOf : Nat → UInt64} {cursor : Cursor}

theorem grants_of_read {request : Request} {reply : Reply} {next : Cursor}
    (read : request.read startOf cursor = .ok (reply, next)) :
    ∃ front, request.Grants reply front ∧ cursor.Passes next front := by
  cases request with
  | u8 =>
    obtain ⟨_, ⟨value, rfl, rfl⟩, passes⟩ := (Reader.accepts_map _ Reader.accepts_u8 ..).mp read
    exact ⟨_, .u8 value, passes⟩
  | u16 =>
    obtain ⟨_, ⟨value, rfl, rfl⟩, passes⟩ := (Reader.accepts_map _ Reader.accepts_u16 ..).mp read
    exact ⟨_, .u16 value, passes⟩
  | u32 =>
    obtain ⟨_, ⟨value, rfl, rfl⟩, passes⟩ := (Reader.accepts_map _ Reader.accepts_u32 ..).mp read
    exact ⟨_, .u32 value, passes⟩
  | bytes length =>
    obtain ⟨_, ⟨_, ⟨enough, rfl⟩, rfl⟩, passes⟩ :=
      (Reader.accepts_map _ (Reader.accepts_bytes length.toNat) ..).mp read
    exact ⟨_, .bytes enough, passes⟩
  | skip length =>
    obtain ⟨_, ⟨_, ⟨enough, rfl⟩, rfl⟩, passes⟩ :=
      (Reader.accepts_map _ (Reader.accepts_bytes length.toNat) ..).mp read
    exact ⟨_, .skip enough, passes⟩
  | since turn =>
    obtain ⟨rfl, rfl⟩ := Prod.mk.inj (Except.ok.inj read)
    exact ⟨[], .since turn _, (cursor.passes_nil _).mpr rfl⟩
  | finish part =>
    rw [Request.read, ← bind_pure_comp] at read
    obtain ⟨_, middle, finished, returned⟩ := Reader.bind_eq_ok_iff.mp read
    obtain ⟨-, rfl⟩ := (Reader.finish_eq_ok_iff part ..).mp finished
    obtain ⟨rfl, rfl⟩ := Prod.mk.inj (Except.ok.inj returned)
    exact ⟨[], .finish part, (middle.passes_nil _).mpr rfl⟩

/-- A block is refused when there are fewer bytes ahead. -/
theorem map_bytes_eq_error_iff {α : Type} (make : Bytes → α) (count : Nat) (fault : Malformation) :
    (make <$> Reader.bytes count) cursor = .error fault ↔
      cursor.size < cursor.offset + count ∧ .truncated count cursor.offset cursor.size = fault := by
  have whole : cursor.size = cursor.offset + cursor.rest.length := rfl
  rw [← bind_pure_comp]
  rcases BlockReads.bytes_cases count cursor with ⟨block, next, rfl, passes, read⟩ | ⟨short, refused⟩
  · have enough : ¬ cursor.size < cursor.offset + block.length := by
      rw [whole, passes.1, List.length_append]
      omega
    rw [Reader.bind_of_eq_ok read]
    exact ⟨nofun, fun few => absurd few.1 enough⟩
  · have few : cursor.size < cursor.offset + count := by omega
    rw [Reader.bind_of_eq_error refused, Except.error.injEq]
    exact ⟨fun same => ⟨few, same⟩, And.right⟩

/-- The end is refused when there are bytes ahead. -/
theorem map_finish_eq_error_iff {α : Type} (make : Unit → α) (part : String) (fault : Malformation) :
    (make <$> Reader.finish part) cursor = .error fault ↔
      cursor.offset ≠ cursor.size ∧ .trailing (cursor.size - cursor.offset) part = fault := by
  have whole : cursor.size = cursor.offset + cursor.rest.length := rfl
  rw [← bind_pure_comp, whole, Nat.add_sub_cancel_left]
  cases ahead : cursor.rest with
  | nil =>
    have finished := (Reader.finish_eq_ok_iff part cursor cursor).mpr ⟨ahead, rfl⟩
    rw [Reader.bind_of_eq_ok finished]
    exact iff_of_false (by rintro ⟨⟩) fun more => more.1 rfl
  | cons byte rest =>
    have refused : Reader.finish part cursor = .error (.trailing (byte :: rest).length part) := by
      rw [Reader.finish, ahead]
      rfl
    rw [Reader.bind_of_eq_error refused, Except.error.injEq]
    exact ⟨fun same => ⟨by simp, same⟩, And.right⟩

/-- What is refused is refused for the reason that the sizes give. -/
theorem read_eq_error_iff {request : Request} {fault : Malformation} :
    request.read startOf cursor = .error fault ↔
      request.fault? cursor.offset cursor.size = some fault := by
  have block (make : Bytes → Reply) (count : Nat) :
      (make <$> Reader.bytes count) cursor = .error fault ↔
        (if cursor.size < cursor.offset + count then
          some (.truncated count cursor.offset cursor.size) else none) = some fault := by
    rw [map_bytes_eq_error_iff]
    split <;> simp [*]
  have inside : ¬ cursor.size < cursor.offset + 0 := Nat.not_lt.mpr (Nat.le_add_right ..)
  cases request with
  | u8 =>
    rw [read, Reader.u8, bind_pure_comp, Functor.map_map]
    exact block _ 1
  | u16 =>
    rw [read, Reader.u16, bind_pure_comp, Functor.map_map]
    exact block _ 2
  | u32 =>
    rw [read, Reader.u32, bind_pure_comp, Functor.map_map]
    exact block _ 4
  | bytes length => exact block _ length.toNat
  | skip length => exact block _ length.toNat
  | since turn =>
    have granted : (since turn).fault? cursor.offset cursor.size = none := if_neg inside
    rw [granted]
    exact iff_of_false (by rintro ⟨⟩) (by rintro ⟨⟩)
  | finish part =>
    rw [fault?, width, if_neg inside, read, map_finish_eq_error_iff]
    split <;> simp [*]

end Request

/-- A reader that refuses a request does so for the reason that the sizes give, and stays where it is. One
that grants it passes over the bytes ahead that the reply is about. -/
def Answers (reader : OffsetReader) (request : Request) (outcome : Except Malformation Reply)
    (next : OffsetReader) : Prop :=
  match outcome with
  | .error fault =>
    request.fault? reader.offset.toNat reader.data.bytes.length = some fault ∧ next = reader
  | .ok reply =>
    request.fault? reader.offset.toNat reader.data.bytes.length = none ∧ next.data = reader.data ∧
      ∃ front, request.Grants reply front ∧
        next.offset.toNat = reader.offset.toNat + front.length ∧
        reader.data.bytes.drop reader.offset.toNat
          = front ++ reader.data.bytes.drop next.offset.toNat

theorem answers_of_agrees {reader next : OffsetReader} {startOf : Nat → UInt64} {request : Request}
    {outcome : Except Malformation Reply} (inside : reader.Inside) (insideNext : next.Inside)
    (sameData : next.data = reader.data)
    (read : request.read startOf reader.cursor = outcome.map fun value => (value, next.cursor))
    (stays : ∀ fault, outcome = .error fault → next = reader) : reader.Answers request outcome next := by
  have reasons (fault : Malformation) : request.read startOf reader.cursor = .error fault ↔
      request.fault? reader.offset.toNat reader.data.bytes.length = some fault := by
    rw [Request.read_eq_error_iff, offset_cursor inside, size_cursor]
  cases outcome with
  | error fault => exact ⟨(reasons fault).mp read, stays fault rfl⟩
  | ok reply =>
    have granted : request.fault? reader.offset.toNat reader.data.bytes.length = none := by
      refine Option.eq_none_iff_forall_ne_some.mpr fun fault because => ?_
      exact absurd (read.symm.trans ((reasons fault).mpr because)) nofun
    obtain ⟨front, grants, passes⟩ := Request.grants_of_read read
    refine ⟨granted, sameData, front, grants, ?_, ?_⟩
    · rw [← offset_cursor insideNext, ← offset_cursor inside, passes.offset_eq]
    · have ahead : reader.data.bytes.drop next.offset.toNat = next.cursor.rest := by
        rw [← sameData]
        rfl
      rw [ahead]
      exact passes.1

/-! ## Sessions -/

/-- What a turn passed over: the bytes of its reply, or none when it failed. -/
def Turn.Passes (turn : Turn) (front : Bytes) : Prop :=
  match turn.outcome with
  | .ok reply => turn.request.Grants reply front
  | .error _ => front = []

namespace Session

/-- What holds of a session on some data after every turn. -/
structure Sound (data : Slice) (session : Session) : Prop where
  data_eq : session.reader.data = data
  inside : session.reader.Inside
  earlier : ∀ turn ∈ session.turns, turn.offset ≤ session.reader.offset
  /-- What the turns passed over, one after the other, is the data in front of the offset. -/
  passed : ∃ fronts, List.Forall₂ Turn.Passes session.turns fronts ∧
    data.bytes.take session.reader.offset.toNat = fronts.flatten

variable {data : Slice} {session : Session}

theorem sound_start (data : Slice) : (start data).Sound data where
  data_eq := rfl
  inside := inside_start data
  earlier := nofun
  passed := ⟨[], .nil, rfl⟩

theorem Sound.startOf_le (sound : session.Sound data) (turn : Nat) :
    session.startOf turn ≤ session.reader.offset := by
  unfold startOf
  split
  · next found => exact sound.earlier _ (List.mem_of_getElem? found)
  · exact UInt64.le_refl _

/-- Whatever is asked for next, there is an answer. -/
theorem Sound.answers (sound : session.Sound data) (request : Request) :
    ∃ outcome next, request.access session.startOf session.reader = some (outcome, next) ∧
      next.Inside ∧ session.reader.Answers request outcome next ∧
      request.read session.startOf session.reader.cursor
        = outcome.map fun reply => (reply, next.cursor) := by
  obtain ⟨outcome, next, ran, sameData, insideNext, read, stays⟩ :=
    agrees_access sound.inside sound.startOf_le request
  exact ⟨outcome, next, ran, insideNext,
    answers_of_agrees sound.inside insideNext sameData read stays, read⟩

/-- The data in front of the offset grows by what the turn passes over. -/
theorem exists_passed {reader next : OffsetReader} {request : Request}
    {outcome : Except Malformation Reply} (answers : reader.Answers request outcome next) :
    ∃ front, Turn.Passes ⟨reader.offset, request, outcome⟩ front ∧ next.data = reader.data ∧
      reader.offset ≤ next.offset ∧
      reader.data.bytes.take next.offset.toNat = reader.data.bytes.take reader.offset.toNat ++ front := by
  cases outcome with
  | error fault =>
    obtain ⟨-, rfl⟩ := answers
    exact ⟨[], rfl, rfl, UInt64.le_refl _, (List.append_nil _).symm⟩
  | ok reply =>
    obtain ⟨-, sameData, front, grants, moved, ahead⟩ := answers
    refine ⟨front, grants, sameData, ?_, ?_⟩
    · rw [UInt64.le_iff_toNat_le, moved]
      exact Nat.le_add_right ..
    · rw [moved, List.take_add, ahead, List.take_left]

theorem sound_next (sound : session.Sound data) (request : Request) :
    ∃ after, session.next request = some after ∧ after.Sound data ∧
      after.turns.map (·.request) = session.turns.map (·.request) ++ [request] := by
  obtain ⟨outcome, reader, ran, insideNext, answers, -⟩ := sound.answers request
  obtain ⟨front, passes, sameData, later, grown⟩ := exists_passed answers
  obtain ⟨fronts, passed, before⟩ := sound.passed
  let turn : Turn := ⟨session.reader.offset, request, outcome⟩
  refine ⟨⟨reader, session.turns ++ [turn]⟩, by rw [next, ran]; rfl, ?_, by simp [turn]⟩
  exact {
    data_eq := sameData.trans sound.data_eq
    inside := insideNext
    earlier := by
      intro other member
      rcases List.mem_append.mp member with old | new
      · exact UInt64.le_trans (sound.earlier other old) later
      · rw [List.mem_singleton.mp new]
        exact later
    passed := by
      refine ⟨fronts ++ [front], List.rel_append passed (.cons passes .nil), ?_⟩
      rw [sound.data_eq] at grown
      rw [grown, before]
      simp }

/-- No sequence of requests ends the program, and every state that one leads to is sound. -/
theorem sound_follow (sound : session.Sound data) (requests : List Request) :
    ∃ last, session.follow requests = some last ∧ last.Sound data ∧
      last.turns.map (·.request) = session.turns.map (·.request) ++ requests := by
  induction requests generalizing session with
  | nil => exact ⟨session, rfl, sound, (List.append_nil _).symm⟩
  | cons request others ih =>
    obtain ⟨after, taken, soundAfter, asked⟩ := sound_next sound request
    obtain ⟨last, followed, soundLast, allAsked⟩ := ih soundAfter
    refine ⟨last, ?_, soundLast, by rw [allAsked, asked, List.append_assoc]; rfl⟩
    rw [follow, List.foldlM_cons, taken]
    exact followed

end Session

/-- A reader in memory, asked for anything in any order. The program does not end on an access outside of the
data, and the offset stays in it. What was passed is the data in front of the offset, which is what the
granted requests are about, one after the other; what was passed since the start of an earlier turn is the
end of it. The next request, whatever it is, is refused for want of bytes ahead, or for bytes left over, and
then moves nothing, or it is granted with the bytes ahead. A cursor that starts at the front of the data
answers the same and moves the same way. -/
theorem session_reads_in_order (data : Slice) (requests : List Request) :
    ∃ session, (Session.start data).follow requests = some session ∧
      session.turns.map (·.request) = requests ∧
      session.reader.data = data ∧ session.reader.offset ≤ data.size ∧
      (∃ fronts, List.Forall₂ Turn.Passes session.turns fronts ∧
        since 0 session.reader = some (.ok fronts.flatten, session.reader)) ∧
      (∀ turn, ∃ block,
        since (session.startOf turn) session.reader = some (.ok block, session.reader) ∧
        data.bytes.take session.reader.offset.toNat
          = data.bytes.take (session.startOf turn).toNat ++ block) ∧
      (start data).cursor = .ofBytes data.bytes ∧
      ∀ request, ∃ outcome next,
        request.access session.startOf session.reader = some (outcome, next) ∧
        session.reader.Answers request outcome next ∧
        request.read session.startOf session.reader.cursor
          = outcome.map fun reply => (reply, next.cursor) := by
  obtain ⟨session, followed, sound, asked⟩ := Session.sound_follow (Session.sound_start data) requests
  have zero : (0 : UInt64) ≤ session.reader.offset := UInt64.zero_le
  obtain ⟨fronts, passed, front⟩ := sound.passed
  refine ⟨session, followed, asked, sound.data_eq, ?_, ⟨fronts, passed, ?_⟩, fun turn => ?_,
    cursor_start data, fun request => ?_⟩
  · rw [← sound.data_eq]
    exact sound.inside
  · rw [since_eq sound.inside zero, ← front, ← sound.data_eq]
    simp [cursor, Cursor.since]
  · have earlier := UInt64.le_iff_toNat_le.mp (sound.startOf_le turn)
    refine ⟨_, since_eq sound.inside (sound.startOf_le turn), ?_⟩
    rw [Cursor.since, cursor, List.reverse_reverse, sound.data_eq]
    have split := List.take_append_drop (session.startOf turn).toNat
      (data.bytes.take session.reader.offset.toNat)
    rw [List.take_take, Nat.min_eq_left earlier] at split
    exact split.symm
  · obtain ⟨outcome, next, ran, -, answers, read⟩ := sound.answers request
    exact ⟨outcome, next, ran, answers, read⟩

/-- A length that goes beyond the largest word is refused as any other that is too long. -/
example : ((Session.start ⟨[1, 2, 3], by decide⟩).follow
      [.u16, .bytes 0xFFFFFFFFFFFFFFFF, .u8, .since 0]).map
        (fun session => session.turns.map (·.outcome))
    = some [.ok (.short 258), .error (.truncated 18446744073709551615 2 3), .ok (.byte 3),
        .ok (.block [1, 2, 3])] := rfl

end Unannotate.OffsetReader
