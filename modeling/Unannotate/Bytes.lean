/-!
Bytes and the integers they spell.

A byte string is a list, so that a proof can take it apart. Integers of a fixed width are written most
significant byte first (class files) or least significant byte first (archives); reading back what was
written gives the integer, `ofBigEndian_bigEndian`.
-/
set_option autoImplicit false

namespace Unannotate

abbrev Bytes := List UInt8

namespace Bytes

/-- The low `width` bytes of a number, most significant first. -/
def bigEndian : Nat → Nat → Bytes
  | 0, _ => []
  | width + 1, value => bigEndian width (value / 256) ++ [UInt8.ofNat (value % 256)]

/-- The low `width` bytes of a number, least significant first. -/
def littleEndian : Nat → Nat → Bytes
  | 0, _ => []
  | width + 1, value => UInt8.ofNat (value % 256) :: littleEndian width (value / 256)

/-- The number that bytes spell, most significant first. -/
def ofBigEndian (bytes : Bytes) : Nat :=
  bytes.foldl (fun total byte => total * 256 + byte.toNat) 0

/-- The number that bytes spell, least significant first. -/
def ofLittleEndian : Bytes → Nat
  | [] => 0
  | byte :: rest => byte.toNat + 256 * ofLittleEndian rest

theorem length_bigEndian (width value : Nat) : (bigEndian width value).length = width := by
  induction width generalizing value with
  | zero => rfl
  | succ width ih => simp [bigEndian, ih]

theorem length_littleEndian (width value : Nat) : (littleEndian width value).length = width := by
  induction width generalizing value with
  | zero => rfl
  | succ width ih => simp [littleEndian, ih]

/-- How many numbers fit in so many bytes. -/
def capacity : (width : Nat) → Nat
  | 0 => 1
  | width + 1 => 256 * capacity width

theorem ofBigEndian_bigEndian (width value : Nat) :
    ofBigEndian (bigEndian width value) = value % capacity width := by
  induction width generalizing value with
  | zero => simp [bigEndian, ofBigEndian, capacity, Nat.mod_one]
  | succ width ih =>
    have front := ih (value / 256)
    rw [ofBigEndian] at front
    rw [bigEndian, ofBigEndian, List.foldl_append, front, capacity, Nat.mod_mul]
    simp
    omega

theorem ofLittleEndian_littleEndian (width value : Nat) :
    ofLittleEndian (littleEndian width value) = value % capacity width := by
  induction width generalizing value with
  | zero => simp [littleEndian, ofLittleEndian, capacity, Nat.mod_one]
  | succ width ih =>
    rw [littleEndian, ofLittleEndian, ih, capacity, Nat.mod_mul]
    simp

def ofUInt8 (value : UInt8) : Bytes := [value]

def ofUInt16 (value : UInt16) : Bytes := bigEndian 2 value.toNat

def ofUInt32 (value : UInt32) : Bytes := bigEndian 4 value.toNat

def ofUInt64 (value : UInt64) : Bytes := bigEndian 8 value.toNat

end Bytes

end Unannotate
