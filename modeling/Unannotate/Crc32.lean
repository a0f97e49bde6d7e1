import Unannotate.Bytes

/-!
The 32-bit cyclic redundancy check of archive entries: remainders of polynomials over two elements, with
bits in reflected order, started and ended with all bits inverted.
-/
set_option autoImplicit false

namespace Unannotate

namespace Crc32

/-- The divisor without its leading term, in reflected order. -/
def polynomial : UInt32 := 0xEDB88320

/-- Division by one more bit. -/
def bitStep (remainder : UInt32) : UInt32 :=
  if remainder % 2 = 1 then (remainder >>> 1) ^^^ polynomial else remainder >>> 1

def byteStep (remainder : UInt32) (byte : UInt8) : UInt32 :=
  Nat.repeat bitStep 8 (remainder ^^^ byte.toUInt32)

end Crc32

def crc32 (data : Bytes) : UInt32 := (data.foldl Crc32.byteStep 0xFFFFFFFF) ^^^ 0xFFFFFFFF

end Unannotate
