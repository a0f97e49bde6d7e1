import Mathlib.Algebra.Group.Nat.Defs
import Unannotate.Archive.Entry
import Unannotate.Proofs.LittleEndian

/-!
# Deflated data are read back

Bytes are read back from their bits, so a stored block gives the bytes it was made of, wherever it stands
in the data. Stored blocks give all of the data back; and deflated data that would not are replaced by
stored blocks.
-/
set_option autoImplicit false

namespace Unannotate

namespace Deflate

/-! ## Bits -/

theorem numberOf_testBits (width value : Nat) :
    numberOf ((List.range width).map value.testBit) = value % 2 ^ width := by
  induction width generalizing value with
  | zero => simp [numberOf, Nat.mod_one]
  | succ width ih =>
    have shifted : (List.range width).map (value.testBit ∘ Nat.succ)
        = (List.range width).map (value / 2).testBit := by
      refine List.map_congr_left fun position _ => ?_
      rw [Function.comp_apply, Nat.testBit_succ]
    have first : (value.testBit 0).toNat = value % 2 := by
      rw [Nat.testBit_zero]
      rcases Nat.mod_two_eq_zero_or_one value with even | odd
      · simp [even]
      · simp [odd]
    rw [List.range_succ_eq_map, List.map_cons, List.map_map, numberOf, shifted, ih, first,
      Nat.pow_succ', Nat.mod_mul]

theorem length_bitsOfByte (byte : UInt8) : (bitsOfByte byte).length = 8 := by
  simp [bitsOfByte]

theorem bitsOf_cons (byte : UInt8) (rest : Bytes) :
    bitsOf (byte :: rest) = bitsOfByte byte ++ bitsOf rest := List.flatMap_cons

theorem length_bitsOf (data : Bytes) : (bitsOf data).length = 8 * data.length := by
  induction data with
  | nil => rfl
  | cons byte rest ih =>
    rw [bitsOf_cons, List.length_append, length_bitsOfByte, ih, List.length_cons]
    omega

theorem bitsOf_append (first second : Bytes) : bitsOf (first ++ second) = bitsOf first ++ bitsOf second :=
  List.flatMap_append

theorem numberOf_append (first second : List Bool) :
    numberOf (first ++ second) = numberOf first + 2 ^ first.length * numberOf second := by
  induction first with
  | nil => simp [numberOf]
  | cons bit rest ih =>
    rw [List.cons_append, numberOf, ih, numberOf, List.length_cons, Nat.pow_succ', Nat.mul_add,
      Nat.mul_assoc, Nat.add_assoc]

theorem numberOf_bitsOf (data : Bytes) : numberOf (bitsOf data) = Bytes.ofLittleEndian data := by
  induction data with
  | nil => rfl
  | cons byte rest ih =>
    have small := byte.toNat_lt
    have first : numberOf (bitsOfByte byte) = byte.toNat := by
      rw [bitsOfByte, numberOf_testBits]
      omega
    have width : 2 ^ 8 = 256 := rfl
    rw [bitsOf_cons, numberOf_append, first, length_bitsOfByte, ih, width, Bytes.ofLittleEndian]

/-! ## Reading -/

namespace BitReader

theorem pure_ok {α : Type} (value : α) (bits : List Bool) :
    (pure value : BitReader α) bits = .ok (value, bits) := rfl

theorem bind_ok {α β : Type} {first : BitReader α} {next : α → BitReader β} {bits rest : List Bool}
    {value : α} (found : first bits = .ok (value, rest)) : (first >>= next) bits = next value rest := by
  simp only [bind, StateT.bind, found, Except.bind]

theorem number_append {width : Nat} {front : List Bool} (rest : List Bool)
    (size : front.length = width) : number width (front ++ rest) = .ok (numberOf front, rest) := by
  simp only [number]
  rw [List.take_left' size, if_pos size, List.drop_left' size]

end BitReader

theorem storedBytes_bitsOf (data : Bytes) (rest : List Bool) (output : Array UInt8) :
    storedBytes data.length (bitsOf data ++ rest) output = .running rest (output ++ data.toArray) := by
  induction data generalizing output with
  | nil => simp [storedBytes, bitsOf]
  | cons byte others ih =>
    have first : BitReader.number 8 (bitsOfByte byte ++ (bitsOf others ++ rest))
        = .ok (byte.toNat, bitsOf others ++ rest) := by
      rw [BitReader.number_append _ (length_bitsOfByte byte)]
      have whole := numberOf_bitsOf [byte]
      simp only [bitsOf, List.flatMap_singleton, Bytes.ofLittleEndian] at whole
      rw [whole]
      rfl
    rw [List.length_cons, storedBytes, bitsOf_cons, List.append_assoc, first]
    simp only [UInt8.ofNat_toNat, ih]
    simp

theorem number_bitsOf (data : Bytes) (rest : List Bool) :
    BitReader.number (8 * data.length) (bitsOf data ++ rest) = .ok (Bytes.ofLittleEndian data, rest) := by
  rw [BitReader.number_append rest (length_bitsOf data), numberOf_bitsOf]

theorem number_littleEndian {value : Nat} (rest : List Bool) (small : value ≤ maxStored) :
    BitReader.number 16 (bitsOf (Bytes.littleEndian 2 value) ++ rest) = .ok (value, rest) := by
  have width : (Bytes.littleEndian 2 value).length = 2 := Bytes.length_littleEndian 2 value
  have found := number_bitsOf (Bytes.littleEndian 2 value) rest
  have below : value < Bytes.capacity 2 := Nat.lt_succ_of_le small
  rw [width, Bytes.ofLittleEndian_littleEndian_of_lt below] at found
  exact found

/-- The padding in front of the lengths of a block ends at a byte. -/
theorem storedBlock_bitsOf (padding : List Bool) (data rest : Bytes) (output : Array UInt8)
    (unaligned : padding.length < 8) (short : data.length ≤ maxStored) :
    storedBlock (padding ++ bitsOf (storedSizes data.length ++ (data ++ rest))) output
      = .running (bitsOf rest) (output ++ data.toArray) := by
  have aligned : (padding ++ bitsOf (storedSizes data.length ++ (data ++ rest))).length % 8
      = padding.length := by
    rw [List.length_append, length_bitsOf]
    omega
  have sizes : bitsOf (storedSizes data.length ++ (data ++ rest))
      = bitsOf (Bytes.littleEndian 2 data.length)
        ++ (bitsOf (Bytes.littleEndian 2 (maxStored - data.length)) ++ (bitsOf data ++ bitsOf rest)) := by
    simp only [storedSizes, bitsOf_append, List.append_assoc]
  have sum : data.length + (maxStored - data.length) = 0xFFFF := Nat.add_sub_cancel' short
  simp only [storedBlock, aligned, List.drop_left]
  rw [sizes, BitReader.bind_ok (number_littleEndian _ short),
    BitReader.bind_ok (number_littleEndian _ (Nat.sub_le _ _))]
  simp only [BitReader.pure_ok, if_pos sum]
  exact storedBytes_bitsOf data _ output

/-- One stored block, and whether it is the last one. -/
theorem blocks_storedBlock (last : Bool) (steps : Nat) (data rest : Bytes) (output : Array UInt8)
    (short : data.length ≤ maxStored) :
    blocks (steps + 1) (bitsOf ((if last then 1 else 0) :: (storedSizes data.length ++ (data ++ rest))))
        output
      = if last then some (output ++ data.toArray)
        else blocks steps (bitsOf rest) (output ++ data.toArray) := by
  have header : bitsOfByte (if last then 1 else 0) = last :: false :: false :: List.replicate 5 false := by
    cases last <;> decide
  have block := storedBlock_bitsOf (List.replicate 5 false) data rest output (by decide) short
  have kind (behind : List Bool) :
      BitReader.number 2 (false :: false :: behind) = .ok (0, behind) :=
    BitReader.number_append behind (rfl : [false, false].length = 2)
  have first (behind : List Bool) : BitReader.bit (last :: behind) = .ok (last, behind) := rfl
  rw [bitsOf_cons, header, List.cons_append, List.cons_append, List.cons_append, blocks]
  simp only [BitReader.bind_ok (first _), BitReader.bind_ok (kind _), BitReader.pure_ok, Deflate.block,
    block]

theorem inflate?_storeAll (data : Bytes) : inflate? (storeAll data) = some data := by
  -- Every block takes more than one bit, so there are steps left for the blocks behind it.
  have enough (steps : Nat) (output : Array UInt8) (many : (bitsOf (storeAll data)).length < steps) :
      blocks steps (bitsOf (storeAll data)) output = some (output ++ data.toArray) := by
    fun_induction storeAll data generalizing steps output with
    | case1 data short =>
      cases steps with
      | zero => omega
      | succ steps =>
        have last := blocks_storedBlock true steps data [] output short
        simpa using last
    | case2 data long ih =>
      cases steps with
      | zero => omega
      | succ steps =>
        have whole : (data.take maxStored).length = maxStored :=
          List.length_take_of_le (Nat.le_of_not_le long)
        have first := blocks_storedBlock false steps (data.take maxStored)
          (storeAll (data.drop maxStored)) output (Nat.le_of_eq whole)
        have shape : 0 :: storedSizes maxStored ++ data.take maxStored ++ storeAll (data.drop maxStored)
            = 0 :: (storedSizes maxStored ++ (data.take maxStored ++ storeAll (data.drop maxStored))) := by
          simp
        rw [shape, length_bitsOf, List.length_cons, List.length_append, List.length_append] at many
        have behind := ih steps (output ++ (data.take maxStored).toArray)
          (by rw [length_bitsOf]; omega)
        have joined : (data.take maxStored).toArray ++ (data.drop maxStored).toArray = data.toArray := by
          rw [List.append_toArray, List.take_append_drop]
        rw [whole] at first
        rw [shape]
        simpa [behind, Array.append_assoc, joined] using first
  rw [inflate?, enough _ _ (Nat.lt_succ_self _)]
  simp

end Deflate

theorem inflate?_deflate (data : Bytes) : inflate? (deflate data) = some data := by
  unfold deflate
  dsimp only
  split
  · next same => exact same
  · exact Deflate.inflate?_storeAll data

theorem Compression.expand?_compress (compression : Compression) (content : Bytes) :
    compression.expand? (compression.compress content) = some content := by
  cases compression with
  | stored => rfl
  | deflated => exact inflate?_deflate content

end Unannotate
