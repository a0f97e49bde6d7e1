import Unannotate.Archive.Directory
import Unannotate.ArtifactKind
import Unannotate.Deflate.Compress
import Unannotate.Text.CodePage437

/-!
Entries of an archive, as they are read and as they are written.
-/
set_option autoImplicit false

namespace Unannotate

/-! ## Metadata -/

/-- A date and a time of day in the two words that archives keep them in. -/
structure Timestamp where
  date : Nat
  time : Nat
  deriving DecidableEq, Repr

namespace Timestamp

def year (stamp : Timestamp) : Nat := 1980 + stamp.date / 512

def month (stamp : Timestamp) : Nat := stamp.date / 32 % 16

def day (stamp : Timestamp) : Nat := stamp.date % 32

def hour (stamp : Timestamp) : Nat := stamp.time / 2048

def minute (stamp : Timestamp) : Nat := stamp.time / 32 % 64

def second (stamp : Timestamp) : Nat := stamp.time % 32 * 2

end Timestamp

/-- Ways in which the bytes of an entry are kept. -/
inductive Compression
  | stored
  | deflated
  deriving DecidableEq, Repr

namespace Compression

/-- Number in the records of an archive. -/
def code : Compression → Nat
  | stored => 0
  | deflated => 8

def ofCode? : Nat → Option Compression
  | 0 => some stored
  | 8 => some deflated
  | _ => none

def compress : Compression → Bytes → Bytes
  | stored, data => data
  | deflated, data => deflate data

def expand? : Compression → Bytes → Option Bytes
  | stored, data => some data
  | deflated, data => inflate? data

theorem ofCode?_code (compression : Compression) : ofCode? compression.code = some compression := by
  cases compression <;> rfl

end Compression

/-- Permissions and type of a file, from the attributes that the system `host` gave it. -/
def unixMode (host attributes : Nat) : Option Nat :=
  if attributes = 0 then none
  else if attributes / 65536 ≠ 0 then some (attributes / 65536)
  else if host = 3 then some 0
  else if host = 0 then
    let mode := if attributes.testBit 4 then 0o40775 else 0o100664
    some (if attributes.testBit 0 then mode - (mode &&& 0o222) else mode)
  else none

/-- The mode of an entry that is written. -/
def writtenMode (mode : Option Nat) : Nat := mode.getD 0o644 % 0o1000 + 0o100000

/-! ## Entries that are read -/

structure Entry where
  rawName : Bytes
  name : String
  rawComment : Bytes
  comment : String
  extra : Bytes
  encrypted : Bool
  /-- None for a way of keeping bytes that is not known. -/
  compression : Option Compression
  modified : Timestamp
  checksum : Nat
  compressedSize : Nat
  size : Nat
  mode : Option Nat
  /-- Where the entry's own header stands in the data. -/
  headerOffset : Nat
  deriving DecidableEq, Repr

namespace Entry

/-- A name or comment, which is UTF-8 only where the entry says so. -/
def decodeText (isUtf8 : Bool) (bytes : Bytes) : String :=
  if isUtf8 then Utf8.decodeLossy bytes else CodePage437.decode bytes

/-- The entry after one more of its extra fields. -/
def applyField (entry : Entry) (field : ExtraField) : Except ArchiveFault Entry :=
  if field.id = ExtraField.unixTimes then do
    ExtraField.checkUnixTimes field.body
    return entry
  else if field.id = ExtraField.ntfsTimes then do
    ExtraField.checkNtfsTimes field.body
    return entry
  else if field.id = ExtraField.encryption then do
    ExtraField.checkEncryption field.body
    return { entry with encrypted := true }
  else if field.id = ExtraField.unicodePath then do
    let rawName ← ExtraField.restated entry.rawName field.body
    return { entry with rawName, name := Utf8.decodeLossy rawName }
  else if field.id = ExtraField.unicodeComment then do
    let rawComment ← ExtraField.restated entry.rawComment field.body
    return { entry with rawComment, comment := Utf8.decodeLossy rawComment }
  else return entry

def applyExtra (entry : Entry) (extra : Bytes) : Except ArchiveFault Entry := do
  let (fields, tail) := ExtraField.parse extra
  let entry ← fields.foldlM applyField entry
  ExtraField.checkTail tail
  return entry

/-- The entry that a directory record describes; its offset counts from `offset`. -/
def ofRecord (offset : Nat) (record : DirectoryRecord) : Except ArchiveFault Entry :=
  let header := record.header
  let flags := header.field 8 2
  let isUtf8 := flags.testBit 11
  applyExtra
    { rawName := record.name
      name := decodeText isUtf8 record.name
      rawComment := record.comment
      comment := decodeText isUtf8 record.comment
      extra := record.extra
      encrypted := flags.testBit 0
      compression := Compression.ofCode? (header.field 10 2)
      modified := ⟨header.field 14 2, header.field 12 2⟩
      checksum := header.field 16 4
      compressedSize := header.field 20 4
      size := header.field 24 4
      mode := unixMode (header.field 5 1) (header.field 38 4)
      headerOffset := offset + header.field 42 4 }
    record.extra

def isDirectory (entry : Entry) : Bool :=
  match entry.name.toList.getLast? with
  | some last => last == '/' || last == '\\'
  | none => false

/-- None for an entry that is kept as it is, whatever it holds. -/
def artifact? (entry : Entry) : Option ArtifactKind :=
  if entry.isDirectory then none else ArtifactKind.ofName? entry.name

end Entry

/-! ## Entries that are written -/

structure NewEntry where
  name : String
  comment : String
  fields : List ExtraField
  compression : Compression
  modified : Timestamp
  checksum : Nat
  size : Nat
  mode : Nat
  /-- The bytes as they are kept. -/
  stored : Bytes
  deriving DecidableEq, Repr

namespace Entry

/-- The same bytes under the same name. Extra fields are not carried along. -/
def copied (entry : Entry) (compression : Compression) (stored : Bytes) : NewEntry :=
  { name := entry.name
    comment := entry.comment
    fields := []
    compression
    modified := entry.modified
    checksum := entry.checksum
    size := entry.size
    mode := writtenMode entry.mode
    stored }

/-- New content under the same name and with the same metadata. -/
def withContent (entry : Entry) (compression : Compression) (fields : List ExtraField)
    (content : Bytes) : NewEntry :=
  { name := entry.name
    comment := entry.comment
    fields
    compression
    modified := entry.modified
    checksum := (crc32 content).toNat
    size := content.length
    mode := writtenMode entry.mode
    stored := compression.compress content }

/-- Whether a field can be given to a new entry, which has neither name nor comment yet. -/
def acceptsField (field : ExtraField) : Bool :=
  if field.id = ExtraField.unicodePath ∨ field.id = ExtraField.unicodeComment then
    (ExtraField.restated [] field.body).toOption.isSome
  else true

/-- The fields of a new entry with one more, when it can be given. -/
def giveField (given : List ExtraField) (field : ExtraField) : Option (List ExtraField) :=
  if acceptsField field then some (given ++ [field]) else none

/-- The extra fields that new content keeps, and the identifiers of those that it drops with a notice. -/
def keptFields (entry : Entry) : List ExtraField × List Nat :=
  ExtraField.carry giveField [] entry.extra

end Entry

end Unannotate
