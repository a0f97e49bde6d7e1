import Unannotate.ClassFile.Reader

/-!
Readers as they stand in memory.

A reader in memory is a byte string and an offset in it, a word of 64 bits. It adds the length that is asked
for to the offset, where the sum may not fit into a word, compares the sum with the size of the data, and
only then takes the bytes and moves. It keeps its offset when a request fails, so that requests can follow
each other whatever comes of them. An access outside of the data would end the program. A session is what
becomes of a reader, and what it answers, under requests made one after the other.
-/
set_option autoImplicit false

namespace Unannotate

/-- Bytes in memory. There are not more of them than a word can count. -/
structure Slice where
  bytes : Bytes
  fits : bytes.length < UInt64.size
  deriving DecidableEq

namespace Slice

def size (data : Slice) : UInt64 := UInt64.ofNat data.bytes.length

/-- The bytes from one offset to another; none where these do not lie in the data. -/
def between? (data : Slice) (start stop : UInt64) : Option Bytes :=
  if start ≤ stop ∧ stop ≤ data.size then some ((data.bytes.take stop.toNat).drop start.toNat) else none

theorem toNat_size (data : Slice) : data.size.toNat = data.bytes.length :=
  UInt64.toNat_ofNat_of_lt data.fits

end Slice

structure OffsetReader where
  data : Slice
  offset : UInt64
  deriving DecidableEq

namespace OffsetReader

def start (data : Slice) : OffsetReader := ⟨data, 0⟩

/-- What comes of a request, and the reader behind it, also when the request fails. None where the program
ends: bytes outside of the data are looked at, or a difference is below zero. -/
abbrev Access := ExceptT Malformation (StateT OffsetReader Option)

namespace Access

/-- A step on which the program ends when there is no result. -/
def checked {α : Type} (result : Option α) : Access α := fun reader =>
  result.map fun value => (.ok value, reader)

end Access

open Access

/-- The sum of two words, where a word can hold it. -/
def sum? (first second : UInt64) : Option UInt64 :=
  if first.toNat + second.toNat < UInt64.size then some (first + second) else none

def difference? (first second : UInt64) : Option UInt64 :=
  if second ≤ first then some (first - second) else none

/-- The next `length` bytes. -/
def bytes (length : UInt64) : Access Bytes := do
  let reader ← get
  match (sum? reader.offset length).filter (· ≤ reader.data.size) with
  | none => throw (.truncated length.toNat reader.offset.toNat reader.data.size.toNat)
  | some stop =>
    let block ← checked (reader.data.between? reader.offset stop)
    set { reader with offset := stop }
    return block

def u8 : Access UInt8 := do
  let block ← bytes 1
  checked block[0]?

def u16 : Access UInt16 := do
  let block ← bytes 2
  let first ← checked block[0]?
  let second ← checked block[1]?
  return UInt16.ofNat (Bytes.ofBigEndian [first, second])

def u32 : Access UInt32 := do
  let block ← bytes 4
  let first ← checked block[0]?
  let second ← checked block[1]?
  let third ← checked block[2]?
  let fourth ← checked block[3]?
  return UInt32.ofNat (Bytes.ofBigEndian [first, second, third, fourth])

def skip (length : UInt64) : Access Unit := do
  let _ ← bytes length

/-- The bytes passed since the offset `start`. -/
def since (start : UInt64) : Access Bytes := do
  let reader ← get
  checked (reader.data.between? start reader.offset)

/-- Fails unless every byte was read. -/
def finish (part : String) : Access Unit := do
  let reader ← get
  if reader.offset = reader.data.size then
    return ()
  else
    let left ← checked (difference? reader.data.size reader.offset)
    throw (.trailing left.toNat part)

/-! Requests one after the other. -/

/-- What can be asked of a reader. -/
inductive Request
  | u8
  | u16
  | u32
  | bytes (length : UInt64)
  | skip (length : UInt64)
  /-- The bytes passed since the turn with this number began, or since now where there was no such turn. -/
  | since (turn : Nat)
  | finish (part : String)
  deriving DecidableEq, Repr

inductive Reply
  | byte (value : UInt8)
  | short (value : UInt16)
  | word (value : UInt32)
  | block (bytes : Bytes)
  | nothing
  deriving DecidableEq, Repr

/-- A request, the offset that it found the reader at, and what came of it. -/
structure Turn where
  offset : UInt64
  request : Request
  outcome : Except Malformation Reply

/-- A reader and the turns that it has taken, the first one first. -/
structure Session where
  reader : OffsetReader
  turns : List Turn

namespace Session

def start (data : Slice) : Session := ⟨.start data, []⟩

/-- The offset at which a turn began. -/
def startOf (session : Session) (turn : Nat) : UInt64 :=
  match session.turns[turn]? with
  | some turn => turn.offset
  | none => session.reader.offset

end Session

namespace Request

/-- A request to a reader in memory. -/
def access (startOf : Nat → UInt64) : Request → Access Reply
  | u8 => .byte <$> OffsetReader.u8
  | u16 => .short <$> OffsetReader.u16
  | u32 => .word <$> OffsetReader.u32
  | bytes length => .block <$> OffsetReader.bytes length
  | skip length => (fun _ => .nothing) <$> OffsetReader.skip length
  | since turn => .block <$> OffsetReader.since (startOf turn)
  | finish part => (fun _ => .nothing) <$> OffsetReader.finish part

/-- The same request to a cursor. -/
def read (startOf : Nat → UInt64) : Request → Reader Reply
  | u8 => .byte <$> Reader.u8
  | u16 => .short <$> Reader.u16
  | u32 => .word <$> Reader.u32
  | bytes length => .block <$> Reader.bytes length.toNat
  | skip length => (fun _ => .nothing) <$> Reader.bytes length.toNat
  | since turn => fun cursor => .ok (.block (cursor.since (startOf turn).toNat), cursor)
  | finish part => (fun _ => .nothing) <$> Reader.finish part

end Request

namespace Session

/-- One more turn. None where the program ends. -/
def next (session : Session) (request : Request) : Option Session := do
  let (outcome, reader) ← request.access session.startOf session.reader
  return ⟨reader, session.turns ++ [⟨session.reader.offset, request, outcome⟩]⟩

def follow (session : Session) (requests : List Request) : Option Session :=
  requests.foldlM next session

end Session

end OffsetReader

end Unannotate
