import Unannotate.Archive.Entry

/-!
Archives: reading one from bytes, and writing one.

The end record is looked for from the back, and anything may stand in front of an archive or behind it.
Records are believed about where entries begin; how much stands in front is found from the first
directory record at or behind the place where the end record puts it. Of entries with one name, the last
takes the place of the first.
-/
set_option autoImplicit false

namespace Unannotate

structure Archive where
  data : Bytes
  entries : List Entry
  comment : Bytes
  /-- Where the directory starts in the data. -/
  directoryStart : Nat
  /-- Bytes in front of the archive that its offsets do not count. -/
  offset : Nat
  deriving DecidableEq, Repr

namespace Archive

/-! ## Reading -/

/-- The positions of a signature from `position` on, last one first. -/
def positionsOf (signature : Bytes) : (position : Nat) → List Nat → Bytes → List Nat
  | _, found, [] => found
  | position, found, byte :: rest =>
    let found := if signature.isPrefixOf (byte :: rest) then position :: found else found
    positionsOf signature (position + 1) found rest

/-- The first position of a signature in some bytes. -/
def firstPosition? (signature : Bytes) : (position : Nat) → Bytes → Option Nat
  | _, [] => none
  | position, byte :: rest =>
    if signature.isPrefixOf (byte :: rest) then some position
    else firstPosition? signature (position + 1) rest

/-- How far the offsets of an end record at `position` are shifted. -/
def shift? (data : Bytes) (position : Nat) (ending : EndRecord) : Option Nat :=
  let announced := ending.directoryOffset
  if ending.entries = 0 then some (position - announced)
  else if position ≤ announced then none
  else
    let between := (data.drop announced).take (position - announced)
    (firstPosition? DirectoryRecord.signature announced between).map (· - announced)

/-- An entry takes the place of an earlier one of its name, or the last place. -/
def insertEntry (entries : List Entry) (entry : Entry) : List Entry :=
  if entries.any (·.name = entry.name) then
    entries.map fun earlier => if earlier.name = entry.name then entry else earlier
  else entries ++ [entry]

/-- The entries of the first `count` directory records. -/
def readEntries (offset : Nat) : (count : Nat) → Bytes → Except ArchiveFault (List Entry)
  | 0, _ => .ok []
  | count + 1, data =>
    if DirectoryRecord.starts data then
      match DirectoryRecord.take? data with
      | none => .error .unreadable
      | some (record, rest) => do
        let entry ← Entry.ofRecord offset record
        let others ← readEntries offset count rest
        return entry :: others
    else .error .unreadable

/-- The archive of the end record at `position`; no answer where that cannot be an end record. -/
def ofEndRecord? (data : Bytes) (position : Nat) : Option (Except ArchiveFault Archive) := do
  let ending ← EndRecord.take? (data.drop position)
  let offset ← shift? data position ending
  let directoryStart := ending.directoryOffset + offset
  if ending.disk = ending.directoryDisk then
    return do
      let entries ← readEntries offset ending.entriesOnDisk (data.drop directoryStart)
      return { data, entries := entries.foldl insertEntry [], comment := ending.comment,
               directoryStart, offset }
  else return .error .unreadable

/-- The first archive that the candidates lead to, or the fault of the last one tried. -/
def ofPositions (data : Bytes) (fault : ArchiveFault) : List Nat → Except ArchiveFault Archive
  | [] => .error fault
  | position :: rest =>
    match ofEndRecord? data position with
    | none => ofPositions data fault rest
    | some (.error fault) => ofPositions data fault rest
    | some (.ok archive) => .ok archive

def ofBytes (data : Bytes) : Except ArchiveFault Archive :=
  ofPositions data .unreadable (positionsOf EndRecord.signature 0 [] data)

/-! ## Content of entries -/

def localSignature : Bytes := [0x50, 0x4B, 0x03, 0x04]

def localHeaderSize : Nat := 30

/-- The bytes of an entry as they are kept, and how; none when the entry cannot be opened. -/
def open? (archive : Archive) (entry : Entry) : Option (Compression × Bytes) := do
  let compression ← entry.compression
  let (header, rest) ← Bytes.split? localHeaderSize (archive.data.drop entry.headerOffset)
  if localSignature.isPrefixOf header ∧ entry.encrypted = false then
    return (compression,
      (rest.drop (header.field 26 2 + header.field 28 2)).take entry.compressedSize)
  else none

end Archive

/-- The content that the kept bytes of an entry stand for, when the checksum is right. -/
def Entry.content? (entry : Entry) (compression : Compression) (stored : Bytes) : Option Bytes := do
  let content ← compression.expand? stored
  if (crc32 content).toNat = entry.checksum then return content else none

/-! ## Writing -/

namespace NewEntry

def isAscii (text : String) : Bool := text.toList.all (·.toNat < 128)

/-- Names and comments are written as UTF-8, and the flag says so where that makes a difference. -/
def flags (entry : NewEntry) : Nat :=
  if isAscii entry.name && isAscii entry.comment then 0 else 0x800

def extra (entry : NewEntry) : Bytes := entry.fields.flatMap ExtraField.encode

/-- The version of the format that an entry asks for. -/
def version (entry : NewEntry) : Nat :=
  match entry.compression with
  | .stored => 10
  | .deflated => 20

/-- The fields that both headers of an entry share. -/
def sharedFields (entry : NewEntry) : Bytes :=
  Bytes.littleEndian 2 entry.version ++ Bytes.littleEndian 2 entry.flags ++
    Bytes.littleEndian 2 entry.compression.code ++ Bytes.littleEndian 2 entry.modified.time ++
    Bytes.littleEndian 2 entry.modified.date ++ Bytes.littleEndian 4 entry.checksum ++
    Bytes.littleEndian 4 entry.stored.length ++ Bytes.littleEndian 4 entry.size ++
    Bytes.littleEndian 2 (Utf8.encode entry.name).length ++
    Bytes.littleEndian 2 entry.extra.length

/-- The entry's own header and its bytes. -/
def localRecord (entry : NewEntry) : Bytes :=
  Archive.localSignature ++ entry.sharedFields ++ Utf8.encode entry.name ++ entry.extra ++ entry.stored

/-- The directory record of an entry at `offset`. -/
def directoryRecord (entry : NewEntry) (offset : Nat) : DirectoryRecord :=
  { header :=
      DirectoryRecord.signature ++ [UInt8.ofNat entry.version, 3] ++ entry.sharedFields ++
        Bytes.littleEndian 2 (Utf8.encode entry.comment).length ++ Bytes.littleEndian 2 0 ++
        Bytes.littleEndian 2 0 ++ Bytes.littleEndian 4 (entry.mode * 65536) ++
        Bytes.littleEndian 4 offset
    name := Utf8.encode entry.name
    extra := entry.extra
    comment := Utf8.encode entry.comment }

/-- Whether everything fits its field. -/
def fits (entry : NewEntry) : Bool :=
  (Utf8.encode entry.name).length < 0x10000 && (Utf8.encode entry.comment).length < 0x10000
    && entry.extra.length < 0x10000 && entry.stored.length < 0xFFFFFFFF && entry.size < 0xFFFFFFFF

end NewEntry

namespace Archive

/-- The directory records of entries that begin at `offset`. -/
def directoryOf (offset : Nat) : List NewEntry → List DirectoryRecord
  | [] => []
  | entry :: rest =>
    entry.directoryRecord offset :: directoryOf (offset + entry.localRecord.length) rest

/-- An archive of the given entries and comment; none when it is too large for its fields. -/
def encode? (entries : List NewEntry) (comment : Bytes) : Option Bytes :=
  let front := entries.flatMap NewEntry.localRecord
  let directory := (directoryOf 0 entries).flatMap DirectoryRecord.encode
  if entries.all NewEntry.fits ∧ entries.length < 0xFFFF ∧ directory.length < 0xFFFFFFFF
      ∧ front.length < 0xFFFFFFFF ∧ comment.length < 0x10000 then
    some (front ++ directory
      ++ (EndRecord.ofDirectory entries.length directory.length front.length comment).encode)
  else none

end Archive

end Unannotate
