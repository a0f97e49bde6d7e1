import Unannotate.Bytes
import Unannotate.Malformation

/-!
Modified UTF-8, the text encoding of class files.

Text is a sequence of 16-bit units, each written on its own in one, two or three bytes; the unit zero
takes two bytes and a supplementary character is a pair of surrogate units. Unpaired surrogates are
legal but are no characters, and read as the replacement character.
-/
set_option autoImplicit false

namespace Unannotate.ModifiedUtf8

def isContinuation (byte : UInt8) : Bool := byte &&& 0xC0 = 0x80

/-- The six payload bits of a continuation byte. -/
def payload (byte : UInt8) : Nat := (byte &&& 0x3F).toNat

/-- The 16-bit units that bytes encode. -/
def units : Bytes → Except Malformation (List Nat)
  | [] => .ok []
  | first :: rest =>
    if 0x01 ≤ first ∧ first ≤ 0x7F then
      (units rest).map (first.toNat :: ·)
    else if 0xC0 ≤ first ∧ first ≤ 0xDF then
      match rest with
      | second :: rest =>
        if isContinuation second then
          (units rest).map fun after => ((first &&& 0x1F).toNat * 64 + payload second) :: after
        else .error .textTruncated
      | [] => .error .textTruncated
    else if 0xE0 ≤ first ∧ first ≤ 0xEF then
      match rest with
      | second :: third :: rest =>
        if isContinuation second ∧ isContinuation third then
          (units rest).map fun after =>
            ((first &&& 0x0F).toNat * 4096 + payload second * 64 + payload third) :: after
        else .error .textTruncated
      | _ => .error .textTruncated
    else .error (.textByte first.toNat)

def isHighSurrogate (unit : Nat) : Bool := 0xD800 ≤ unit ∧ unit ≤ 0xDBFF

def isLowSurrogate (unit : Nat) : Bool := 0xDC00 ≤ unit ∧ unit ≤ 0xDFFF

def replacement : Char := '\ufffd'

/-- Characters of 16-bit units; a surrogate without its partner becomes the replacement character. -/
def characters : List Nat → List Char
  | [] => []
  | [unit] =>
    if isHighSurrogate unit ∨ isLowSurrogate unit then [replacement] else [Char.ofNat unit]
  | unit :: next :: rest =>
    if isHighSurrogate unit ∧ isLowSurrogate next then
      Char.ofNat (0x10000 + (unit - 0xD800) * 0x400 + (next - 0xDC00)) :: characters rest
    else if isHighSurrogate unit ∨ isLowSurrogate unit then
      replacement :: characters (next :: rest)
    else Char.ofNat unit :: characters (next :: rest)

def decodeUnits (bytes : Bytes) : Except Malformation String :=
  (units bytes).map fun list => String.ofList (characters list)

/-- Whether a byte is a character by itself, in ASCII as well as here. -/
def isPlain (byte : UInt8) : Bool := 0x01 ≤ byte ∧ byte < 0x80

def decodePlain (bytes : Bytes) : String :=
  String.ofList (bytes.map fun byte => Char.ofNat byte.toNat)

/-- Names are ASCII most of the time, and need no units then. -/
def decode (bytes : Bytes) : Except Malformation String :=
  if bytes.all isPlain then .ok (decodePlain bytes) else decodeUnits bytes

/-- The bytes of one 16-bit unit. -/
def encodeUnit (unit : Nat) : Bytes :=
  if unit ≠ 0 ∧ unit < 0x80 then [UInt8.ofNat unit]
  else if unit < 0x800 then [UInt8.ofNat (0xC0 + unit / 64), UInt8.ofNat (0x80 + unit % 64)]
  else
    [UInt8.ofNat (0xE0 + unit / 4096), UInt8.ofNat (0x80 + unit / 64 % 64),
      UInt8.ofNat (0x80 + unit % 64)]

/-- The 16-bit units of a character. -/
def unitsOfChar (character : Char) : List Nat :=
  let point := character.toNat
  if point < 0x10000 then [point]
  else [0xD800 + (point - 0x10000) / 0x400, 0xDC00 + (point - 0x10000) % 0x400]

def encode (text : String) : Bytes :=
  (text.toList.flatMap unitsOfChar).flatMap encodeUnit

end Unannotate.ModifiedUtf8
