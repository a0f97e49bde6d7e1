import Mathlib.Data.List.Induction
import Unannotate.Archive.Directory

/-!
# Numbers in the records of archives

A number that is written into a block, least significant byte first, is read off the block at the place
where it was written, when it fits its field. Nothing else in the block matters.
-/
set_option autoImplicit false

namespace Unannotate.Bytes

theorem ofLittleEndian_lt (bytes : Bytes) : ofLittleEndian bytes < capacity bytes.length := by
  induction bytes with
  | nil => decide
  | cons byte rest ih =>
    have small := byte.toNat_lt
    rw [ofLittleEndian, List.length_cons, capacity]
    omega

theorem capacity_mono {first second : Nat} (le : first ≤ second) : capacity first ≤ capacity second := by
  induction le with
  | refl => exact Nat.le_refl _
  | step _ ih =>
    rw [capacity]
    omega

theorem field_lt (block : Bytes) (position width : Nat) : block.field position width < capacity width :=
  Nat.lt_of_lt_of_le (ofLittleEndian_lt _) (capacity_mono (List.length_take_le _ _))

theorem ofLittleEndian_littleEndian_of_lt {width value : Nat} (small : value < capacity width) :
    ofLittleEndian (littleEndian width value) = value := by
  rw [ofLittleEndian_littleEndian, Nat.mod_eq_of_lt small]

theorem littleEndian_ofLittleEndian (bytes : Bytes) :
    littleEndian bytes.length (ofLittleEndian bytes) = bytes := by
  induction bytes with
  | nil => rfl
  | cons byte rest ih =>
    have small := byte.toNat_lt
    have lower : (byte.toNat + 256 * ofLittleEndian rest) % 256 = byte.toNat := by omega
    have upper : (byte.toNat + 256 * ofLittleEndian rest) / 256 = ofLittleEndian rest := by omega
    rw [ofLittleEndian, List.length_cons, littleEndian, lower, upper, ih]
    simp

/-- A number is read where it was written. -/
theorem field_littleEndian {width value : Nat} (rest : Bytes) (small : value < capacity width) :
    Bytes.field (littleEndian width value ++ rest) 0 width = value := by
  have taken : (littleEndian width value ++ rest).take width = littleEndian width value :=
    List.take_left' (length_littleEndian width value)
  rw [field, List.drop_zero, taken, ofLittleEndian_littleEndian_of_lt small]

theorem field_littleEndian_self {width value : Nat} (small : value < capacity width) :
    Bytes.field (littleEndian width value) 0 width = value := by
  simpa using field_littleEndian [] small

/-- What stands in front of a field is skipped. -/
theorem field_append_right {front : Bytes} (rest : Bytes) {position width : Nat}
    (behind : front.length ≤ position) :
    Bytes.field (front ++ rest) position width = rest.field (position - front.length) width := by
  rw [field, List.drop_append, List.drop_of_length_le behind, List.nil_append, field]

/-- What stands behind a field is not read with it. -/
theorem field_append {block : Bytes} (rest : Bytes) {position width : Nat}
    (inside : position + width ≤ block.length) :
    Bytes.field (block ++ rest) position width = block.field position width := by
  rw [field, List.drop_append_of_le_length (by omega),
    List.take_append_of_le_length (by rw [List.length_drop]; omega), field]

theorem field_drop (data : Bytes) (skipped position width : Nat) :
    Bytes.field (data.drop skipped) position width = data.field (skipped + position) width := by
  rw [field, List.drop_drop, field]

/-- Bytes start with a number when the field at their front has it. -/
theorem littleEndian_prefix_iff {block : Bytes} {width value : Nat} (small : value < capacity width)
    (enough : width ≤ block.length) :
    littleEndian width value <+: block ↔ block.field 0 width = value := by
  have taken : (block.take width).length = width := List.length_take_of_le enough
  rw [List.prefix_iff_eq_take, length_littleEndian, field, List.drop_zero]
  constructor
  · intro same
    rw [← same, ofLittleEndian_littleEndian_of_lt small]
  · rintro rfl
    have back := littleEndian_ofLittleEndian (block.take width)
    rwa [taken] at back

end Unannotate.Bytes
