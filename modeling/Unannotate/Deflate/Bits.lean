import Unannotate.Bytes

/-!
Bits of deflated data, taken from each byte lowest first.
-/
set_option autoImplicit false

namespace Unannotate

namespace Deflate

/-- Why reading stops before its end. -/
inductive Stop
  /-- The data end too early. -/
  | cut
  /-- The bits mean nothing. -/
  | corrupt
  deriving DecidableEq, Repr

abbrev BitReader := StateT (List Bool) (Except Stop)

def bitsOfByte (byte : UInt8) : List Bool := (List.range 8).map byte.toNat.testBit

def bitsOf (data : Bytes) : List Bool := data.flatMap bitsOfByte

/-- The number that bits spell, lowest first. -/
def numberOf : List Bool → Nat
  | [] => 0
  | bit :: rest => bit.toNat + 2 * numberOf rest

namespace BitReader

def corrupt {α : Type} : BitReader α := fun _ => .error .corrupt

def bit : BitReader Bool
  | [] => .error .cut
  | bit :: rest => .ok (bit, rest)

/-- A number of `width` bits, lowest first. -/
def number (width : Nat) : BitReader Nat := fun bits =>
  let taken := bits.take width
  if taken.length = width then .ok (numberOf taken, bits.drop width) else .error .cut

def times {α : Type} (item : BitReader α) : Nat → BitReader (List α)
  | 0 => pure []
  | count + 1 => do
    let first ← item
    let others ← times item count
    return first :: others

end BitReader

end Deflate

end Unannotate
