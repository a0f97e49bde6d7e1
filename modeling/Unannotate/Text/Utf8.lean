import Unannotate.Bytes

/-!
UTF-8, read leniently: every longest run of bytes that begins a character but does not complete it, and
every byte that begins none, becomes one replacement character.
-/
set_option autoImplicit false

namespace Unannotate.Utf8

def replacement : Char := '\uFFFD'

def encode (text : String) : Bytes := text.toUTF8.data.toList

/-- The text of well-formed bytes. -/
def decode? (bytes : Bytes) : Option String := String.fromUTF8? (ByteArray.mk bytes.toArray)

/-- Number of bytes behind a lead byte, and the range that the first of them lies in. -/
def following (lead : UInt8) : Option (Nat × UInt8 × UInt8) :=
  if lead < 0x80 then some (0, 0x80, 0xBF)
  else if lead < 0xC2 then none
  else if lead < 0xE0 then some (1, 0x80, 0xBF)
  else if lead = 0xE0 then some (2, 0xA0, 0xBF)
  else if lead = 0xED then some (2, 0x80, 0x9F)
  else if lead < 0xF0 then some (2, 0x80, 0xBF)
  else if lead = 0xF0 then some (3, 0x90, 0xBF)
  else if lead < 0xF4 then some (3, 0x80, 0xBF)
  else if lead = 0xF4 then some (3, 0x80, 0x8F)
  else none

/-- The bits that a lead byte gives to its character. -/
def leadBits (lead : UInt8) (count : Nat) : Nat :=
  if count = 0 then lead.toNat else lead.toNat % (1 <<< (6 - count))

/-- An unfinished character: its bits so far, the bytes still to come and the range of the next one. -/
structure Pending where
  bits : Nat
  missing : Nat
  low : UInt8
  high : UInt8

/-- What a byte at the start of a character leads to. -/
def start (lead : UInt8) (done : List Char) : List Char × Option Pending :=
  match following lead with
  | none => (replacement :: done, none)
  | some (0, _, _) => (Char.ofNat lead.toNat :: done, none)
  | some (count, low, high) => (done, some ⟨leadBits lead count, count, low, high⟩)

/-- The characters so far, last one first, and what is unfinished, after one more byte. -/
def step : List Char × Option Pending → UInt8 → List Char × Option Pending
  | (done, none), byte => start byte done
  | (done, some pending), byte =>
    if pending.low ≤ byte ∧ byte ≤ pending.high then
      let bits := pending.bits * 64 + byte.toNat % 64
      if pending.missing ≤ 1 then (Char.ofNat bits :: done, none)
      else (done, some ⟨bits, pending.missing - 1, 0x80, 0xBF⟩)
    else start byte (replacement :: done)

def decodeLossy (bytes : Bytes) : String :=
  let (done, pending) := bytes.foldl step ([], none)
  let done := match pending with
    | some _ => replacement :: done
    | none => done
  String.ofList done.reverse

end Unannotate.Utf8
