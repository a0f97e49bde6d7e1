import Unannotate.Archive.ExtraField
import Unannotate.Malformation

/-!
The directory of an archive.

A directory is a sequence of records, one for each entry, and behind it stands the end record, which says
how many there are and where they begin. `records` follows the records themselves, whatever the end record
says of their number. An archive can list a name twice; `firstEntriesOnly` lists each name once.
-/
set_option autoImplicit false

namespace Unannotate

/-- The number in `width` bytes of a block, least significant first. -/
def Bytes.field (block : Bytes) (position width : Nat) : Nat :=
  Bytes.ofLittleEndian ((block.drop position).take width)

/-- The next `count` bytes, when there are that many. -/
def Bytes.split? (count : Nat) (data : Bytes) : Option (Bytes × Bytes) :=
  let taken := data.take count
  if taken.length = count then some (taken, data.drop count) else none

theorem Bytes.split?_eq_some {count : Nat} {data taken rest : Bytes}
    (success : Bytes.split? count data = some (taken, rest)) :
    data = taken ++ rest ∧ taken.length = count := by
  unfold Bytes.split? at success
  dsimp only at success
  split at success
  · next enough =>
    simp only [Option.some.injEq, Prod.mk.injEq] at success
    obtain ⟨rfl, rfl⟩ := success
    exact ⟨(List.take_append_drop count data).symm, enough⟩
  · simp at success

/-! ## Records -/

structure DirectoryRecord where
  /-- The fields of fixed width. -/
  header : Bytes
  name : Bytes
  extra : Bytes
  comment : Bytes
  deriving DecidableEq, Repr

namespace DirectoryRecord

def signature : Bytes := [0x50, 0x4B, 0x01, 0x02]

def headerSize : Nat := 46

def encode (record : DirectoryRecord) : Bytes :=
  record.header ++ record.name ++ record.extra ++ record.comment

/-- Whether a record starts at the front. -/
def starts (data : Bytes) : Bool :=
  signature.isPrefixOf data && (data.take headerSize).length == headerSize

/-- The record at the front; none when it overruns the data. -/
def take? (data : Bytes) : Option (DirectoryRecord × Bytes) := do
  let (header, rest) ← Bytes.split? headerSize data
  let (name, rest) ← Bytes.split? (header.field 28 2) rest
  let (extra, rest) ← Bytes.split? (header.field 30 2) rest
  let (comment, rest) ← Bytes.split? (header.field 32 2) rest
  return (⟨header, name, extra, comment⟩, rest)

theorem take?_eq_some {data rest : Bytes} {record : DirectoryRecord}
    (taken : take? data = some (record, rest)) :
    data = record.encode ++ rest ∧ record.header.length = headerSize := by
  unfold take? at taken
  simp only [Option.bind_eq_bind, Option.bind_eq_some_iff, Option.pure_def, Option.some.injEq,
    Prod.mk.injEq, Prod.exists] at taken
  obtain ⟨header, afterHeader, first, name, afterName, second, extra, afterExtra, third, comment, last,
    fourth, rfl, rfl⟩ := taken
  obtain ⟨rfl, width⟩ := Bytes.split?_eq_some first
  obtain ⟨rfl, _⟩ := Bytes.split?_eq_some second
  obtain ⟨rfl, _⟩ := Bytes.split?_eq_some third
  obtain ⟨rfl, _⟩ := Bytes.split?_eq_some fourth
  exact ⟨by simp [encode], width⟩

theorem length_take? {data rest : Bytes} {record : DirectoryRecord}
    (taken : take? data = some (record, rest)) : rest.length < data.length := by
  obtain ⟨rfl, width⟩ := take?_eq_some taken
  simp only [encode, List.length_append, width, headerSize]
  omega

/-- The consecutive records at the front. -/
def sequence (data : Bytes) : Except Malformation (List DirectoryRecord) :=
  if starts data then
    match _taken : take? data with
    | none => .error .directoryRecordTruncated
    | some (record, rest) => do return record :: (← sequence rest)
  else .ok []
termination_by data.length
decreasing_by exact length_take? _taken

/-- The records whose name no earlier one has. -/
def firstOfEachName (seen : List Bytes) : List DirectoryRecord → List DirectoryRecord
  | [] => []
  | record :: rest =>
    if record.name ∈ seen then firstOfEachName seen rest
    else record :: firstOfEachName (record.name :: seen) rest

end DirectoryRecord

/-! ## The end record -/

structure EndRecord where
  disk : Nat
  directoryDisk : Nat
  entriesOnDisk : Nat
  entries : Nat
  directorySize : Nat
  directoryOffset : Nat
  comment : Bytes
  deriving DecidableEq, Repr

namespace EndRecord

def signature : Bytes := [0x50, 0x4B, 0x05, 0x06]

def headerSize : Nat := 22

def encode (record : EndRecord) : Bytes :=
  signature ++ Bytes.littleEndian 2 record.disk ++ Bytes.littleEndian 2 record.directoryDisk ++
    Bytes.littleEndian 2 record.entriesOnDisk ++ Bytes.littleEndian 2 record.entries ++
    Bytes.littleEndian 4 record.directorySize ++ Bytes.littleEndian 4 record.directoryOffset ++
    Bytes.littleEndian 2 record.comment.length ++ record.comment

/-- The end record of an archive on one disk. -/
def ofDirectory (entries directorySize directoryOffset : Nat) (comment : Bytes) : EndRecord :=
  { disk := 0, directoryDisk := 0, entriesOnDisk := entries, entries, directorySize, directoryOffset,
    comment }

/-- The end record at the front. Anything may follow it. -/
def take? (data : Bytes) : Option EndRecord := do
  let (header, rest) ← Bytes.split? headerSize data
  let (comment, _) ← Bytes.split? (header.field 20 2) rest
  return {
    disk := header.field 4 2
    directoryDisk := header.field 6 2
    entriesOnDisk := header.field 8 2
    entries := header.field 10 2
    directorySize := header.field 12 4
    directoryOffset := header.field 16 4
    comment }

end EndRecord

/-! ## Listing each name once -/

/-- The archive with only the first record of each name in its directory, and how many records were left
out; none when no name repeats. The directory starts at `start`, and offsets count from `offset`. -/
def firstEntriesOnly (data : Bytes) (start offset : Nat) : Except Malformation (Option (Bytes × Nat)) :=
  if data.length < start then .error .directoryStartsPastEnd
  else do
    let records ← DirectoryRecord.sequence (data.drop start)
    let kept := DirectoryRecord.firstOfEachName [] records
    if kept.length = records.length then return none
    else
      let directory := kept.flatMap DirectoryRecord.encode
      if kept.length < 0xFFFF ∧ directory.length < 0xFFFFFFFF ∧ offset ≤ start
          ∧ start - offset < 0xFFFFFFFF then
        let ending := EndRecord.ofDirectory kept.length directory.length (start - offset) []
        return some (data.take start ++ directory ++ ending.encode, records.length - kept.length)
      else throw .directoryTooLarge

end Unannotate
