import Mathlib.Data.List.Induction
import Unannotate.Bytes

/-!
# Big-endian integers lose nothing

`Bytes.bigEndian` and `Bytes.ofBigEndian` are inverse to each other on byte strings of one width, and
a wide integer is its upper part followed by its lower part. The fixed-width integers of class files
inherit both.
-/
set_option autoImplicit false

namespace Unannotate.Bytes

/-! ## Bytes of a number -/

theorem ofBigEndian_concat (front : Bytes) (last : UInt8) :
    ofBigEndian (front ++ [last]) = ofBigEndian front * 256 + last.toNat := by
  simp [ofBigEndian]

theorem ofBigEndian_lt (bytes : Bytes) : ofBigEndian bytes < capacity bytes.length := by
  induction bytes using List.reverseRecOn with
  | nil => decide
  | append_singleton front last ih =>
    have lastBound := last.toNat_lt
    rw [ofBigEndian_concat, List.length_append, List.length_singleton, capacity]
    omega

theorem bigEndian_ofBigEndian (bytes : Bytes) :
    bigEndian bytes.length (ofBigEndian bytes) = bytes := by
  induction bytes using List.reverseRecOn with
  | nil => rfl
  | append_singleton front last ih =>
    have lastBound := last.toNat_lt
    have upper : (ofBigEndian front * 256 + last.toNat) / 256 = ofBigEndian front := by omega
    have lower : (ofBigEndian front * 256 + last.toNat) % 256 = last.toNat := by omega
    rw [ofBigEndian_concat, List.length_append, List.length_singleton, bigEndian, upper, lower, ih]
    simp

theorem ofBigEndian_bigEndian_of_lt {width value : Nat} (small : value < capacity width) :
    ofBigEndian (bigEndian width value) = value := by
  rw [ofBigEndian_bigEndian, Nat.mod_eq_of_lt small]

theorem bigEndian_mod (width value : Nat) :
    bigEndian width (value % capacity width) = bigEndian width value := by
  induction width generalizing value with
  | zero => rfl
  | succ width ih =>
    have upper : value % capacity (width + 1) / 256 = value / 256 % capacity width := by
      rw [capacity, Nat.mod_mul_right_div_self]
    have lower : value % capacity (width + 1) % 256 = value % 256 := by
      rw [capacity, Nat.mod_mul_right_mod]
    rw [bigEndian, upper, lower, ih, bigEndian]

theorem bigEndian_add (upper lower value : Nat) :
    bigEndian (upper + lower) value
      = bigEndian upper (value / capacity lower) ++ bigEndian lower value := by
  induction lower generalizing value with
  | zero => simp [bigEndian, capacity]
  | succ lower ih =>
    rw [← Nat.add_assoc, bigEndian, ih, bigEndian, capacity, Nat.div_div_eq_div_mul,
      List.append_assoc]

/-! ## Integers of a fixed width -/

theorem ofUInt8_eq (value : UInt8) : ofUInt8 value = bigEndian 1 value.toNat := by
  have bound := value.toNat_lt
  simp [ofUInt8, bigEndian]

theorem length_ofUInt16 (value : UInt16) : (ofUInt16 value).length = 2 := length_bigEndian ..

theorem ofUInt8_ofNat (value : Nat) : ofUInt8 (UInt8.ofNat value) = bigEndian 1 value := by
  rw [ofUInt8_eq, UInt8.toNat_ofNat']
  exact bigEndian_mod 1 value

theorem ofUInt16_ofNat (value : Nat) : ofUInt16 (UInt16.ofNat value) = bigEndian 2 value := by
  rw [ofUInt16, UInt16.toNat_ofNat']
  exact bigEndian_mod 2 value

theorem ofUInt16_inj {value other : UInt16} (same : ofUInt16 value = ofUInt16 other) :
    value = other := by
  have number (item : UInt16) : ofBigEndian (ofUInt16 item) = item.toNat :=
    ofBigEndian_bigEndian_of_lt item.toNat_lt
  rw [← UInt16.toNat_inj, ← number value, ← number other, same]

/-- Two 16-bit numbers read as one block of 32 bits come apart again. -/
theorem ofUInt32_eq_append (pair : UInt32) :
    ofUInt32 pair = ofUInt16 (pair >>> 16).toUInt16 ++ ofUInt16 pair.toUInt16 := by
  have upper : (pair >>> 16).toUInt16.toNat = pair.toNat / capacity 2 % capacity 2 := by
    simp [capacity, Nat.shiftRight_eq_div_pow]
  have lower : pair.toUInt16.toNat = pair.toNat % capacity 2 := by simp [capacity]
  rw [ofUInt16, ofUInt16, upper, lower, bigEndian_mod, bigEndian_mod, ofUInt32]
  exact bigEndian_add 2 2 pair.toNat

theorem exists_pair (upper lower : UInt16) :
    ∃ pair : UInt32, (pair >>> 16).toUInt16 = upper ∧ pair.toUInt16 = lower := by
  have upperBound := upper.toNat_lt
  have lowerBound := lower.toNat_lt
  have number : (UInt32.ofNat (upper.toNat * 65536 + lower.toNat)).toNat
      = upper.toNat * 65536 + lower.toNat :=
    UInt32.toNat_ofNat_of_lt (by rw [UInt32.size]; omega)
  refine ⟨UInt32.ofNat (upper.toNat * 65536 + lower.toNat), ?_, ?_⟩
  · apply UInt16.toNat_inj.mp
    rw [UInt32.toNat_toUInt16, UInt32.toNat_shiftRight, number]
    simp [Nat.shiftRight_eq_div_pow]
    omega
  · apply UInt16.toNat_inj.mp
    rw [UInt32.toNat_toUInt16, number]
    omega

end Unannotate.Bytes
