import Unannotate.Cursor
import Unannotate.Malformation

/-!
Reading class file data.

A reader takes values from the front of what a cursor has ahead of it. A read that asks for more bytes
than there are fails and says where; the cursor it started from is still the caller's, so a failed read
moves nothing.
-/
set_option autoImplicit false

namespace Unannotate

abbrev Reader := StateT Cursor (Except Malformation)

namespace Reader

/-- The next `count` bytes. -/
def bytes (count : Nat) : Reader Bytes := fun cursor =>
  match cursor.take? count with
  | some result => .ok result
  | none => .error (.truncated count cursor.offset cursor.size)

def fail {α : Type} (fault : Malformation) : Reader α := fun _ => .error fault

def u8 : Reader UInt8 := do return UInt8.ofNat (Bytes.ofBigEndian (← bytes 1))

def u16 : Reader UInt16 := do return UInt16.ofNat (Bytes.ofBigEndian (← bytes 2))

def u32 : Reader UInt32 := do return UInt32.ofNat (Bytes.ofBigEndian (← bytes 4))

def u64 : Reader UInt64 := do return UInt64.ofNat (Bytes.ofBigEndian (← bytes 8))

/-- Fails unless every byte was read. -/
def finish (part : String) : Reader Unit := fun cursor =>
  if cursor.rest.isEmpty then .ok ((), cursor)
  else .error (.trailing cursor.rest.length part)

/-- The same item `count` times. -/
def times {α : Type} (item : Reader α) : Nat → Reader (List α)
  | 0 => pure []
  | count + 1 => do
    let first ← item
    let others ← times item count
    return first :: others

/-- A 16-bit count and that many items. -/
def counted {α : Type} (item : Reader α) : Reader (List α) := do
  let count ← u16
  times item count.toNat

/-- The value that a reader finds in a byte string that it reads to the end. -/
def all {α : Type} (reader : Reader α) (part : String) (data : Bytes) : Except Malformation α :=
  match (do let value ← reader; finish part; return value : Reader α) (.ofBytes data) with
  | .ok (value, _) => .ok value
  | .error fault => .error fault

end Reader

/-- A list's length as the 16-bit count in front of it. -/
def encodeCount (part : String) (count : Nat) : Except Malformation Bytes :=
  if count < 65536 then .ok (Bytes.bigEndian 2 count) else .error (.tooMany part count)

end Unannotate
