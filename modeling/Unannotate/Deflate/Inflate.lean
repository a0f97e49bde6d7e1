import Unannotate.Deflate.Huffman
import Unannotate.Deflate.Symbol

/-!
Reading deflated data.

Data are a sequence of blocks: stored bytes, or symbols of a fixed or of an announced pair of codes. Data
that end too early stand for what was read until then; the checksum of an entry decides whether that is
enough.
-/
set_option autoImplicit false

namespace Unannotate

namespace Deflate

/-! ## Symbols -/

/-- A value of the class at a position. -/
def classValue (classes : List (Nat × Nat)) (position : Nat) : BitReader Nat :=
  match classes[position]? with
  | none => BitReader.corrupt
  | some (least, extra) => do return least + (← BitReader.number extra)

structure Codes where
  literals : HuffmanCode
  distances : HuffmanCode

def Codes.symbol (codes : Codes) : BitReader Symbol := do
  let value ← codes.literals.decode
  if value < 256 then return .literal (UInt8.ofNat value)
  else if value = 256 then return .endOfBlock
  else do
    let length ← classValue lengthClasses (value - 257)
    let distance ← classValue distanceClasses (← codes.distances.decode)
    return .copy length distance

/-! ## Codes of a block -/

def codesOfLengths (literals distances : List Nat) : BitReader Codes :=
  match HuffmanCode.ofLengths? literals, HuffmanCode.ofLengths? distances with
  | some literals, some distances => pure ⟨literals, distances⟩
  | _, _ => BitReader.corrupt

def fixedCodes : BitReader Codes := codesOfLengths fixedLiteralLengths fixedDistanceLengths

/-- Lengths of code words, last one first, until `total` are known. Every step gives at least one, so
`steps` never runs out before `total` does. -/
def readLengths (code : HuffmanCode) (total : Nat) : (steps : Nat) → List Nat → BitReader (List Nat)
  | 0, _ => BitReader.corrupt
  | steps + 1, known =>
    if known.length = total then pure known.reverse
    else if total < known.length then BitReader.corrupt
    else do
      let symbol ← code.decode
      if symbol < 16 then readLengths code total steps (symbol :: known)
      else if symbol = 16 then
        match known with
        | [] => BitReader.corrupt
        | last :: _ =>
          let count ← BitReader.number 2
          readLengths code total steps (List.replicate (3 + count) last ++ known)
      else do
        let count ← if symbol = 17 then (3 + ·) <$> BitReader.number 3
          else (11 + ·) <$> BitReader.number 7
        readLengths code total steps (List.replicate count 0 ++ known)

def announcedCodes : BitReader Codes := do
  let literals := 257 + (← BitReader.number 5)
  let distances := 1 + (← BitReader.number 5)
  let count := 4 + (← BitReader.number 4)
  let written ← BitReader.times (BitReader.number 3) count
  let lengthOf (symbol : Nat) : Nat := ((lengthOrder.zip written).lookup symbol).getD 0
  match HuffmanCode.ofLengths? ((List.range 19).map lengthOf) with
  | none => BitReader.corrupt
  | some code => do
    let lengths ← readLengths code (literals + distances) (literals + distances + 1) []
    codesOfLengths (lengths.take literals) (lengths.drop literals)

/-! ## Blocks -/

/-- Where reading stands after some output. -/
inductive Progress
  | running (bits : List Bool) (output : Array UInt8)
  | cut (output : Array UInt8)
  | corrupt

def Progress.stopped (output : Array UInt8) : Stop → Progress
  | .cut => .cut output
  | .corrupt => .corrupt

/-- Repeats `length` bytes that begin `distance` bytes back; they may overlap what they give. -/
def copyBack (distance : Nat) : (length : Nat) → Array UInt8 → Array UInt8
  | 0, output => output
  | length + 1, output =>
    copyBack distance length (output.push (output.getD (output.size - distance) 0))

/-- The symbols of a block. Every symbol takes at least one bit, so as many steps as bits are enough. -/
def symbols (codes : Codes) : (steps : Nat) → List Bool → Array UInt8 → Progress
  | 0, _, output => .cut output
  | steps + 1, bits, output =>
    match codes.symbol bits with
    | .error stop => .stopped output stop
    | .ok (.endOfBlock, rest) => .running rest output
    | .ok (.literal byte, rest) => symbols codes steps rest (output.push byte)
    | .ok (.copy length distance, rest) =>
      if distance ≤ output.size then symbols codes steps rest (copyBack distance length output)
      else .corrupt

/-- Bytes of a block that are there as they are, up to the end of the data. -/
def storedBytes : (count : Nat) → List Bool → Array UInt8 → Progress
  | 0, bits, output => .running bits output
  | count + 1, bits, output =>
    match BitReader.number 8 bits with
    | .error stop => .stopped output stop
    | .ok (byte, rest) => storedBytes count rest (output.push (UInt8.ofNat byte))

/-- A stored block starts at a byte and says its length twice, the second time inverted. -/
def storedBlock (bits : List Bool) (output : Array UInt8) : Progress :=
  let lengths : BitReader (Nat × Nat) := do return (← BitReader.number 16, ← BitReader.number 16)
  match lengths (bits.drop (bits.length % 8)) with
  | .error stop => .stopped output stop
  | .ok ((length, inverted), rest) =>
    if length + inverted = 0xFFFF then storedBytes length rest output else .corrupt

def codedBlock (codes : BitReader Codes) (bits : List Bool) (output : Array UInt8) : Progress :=
  match codes bits with
  | .error stop => .stopped output stop
  | .ok (codes, rest) => symbols codes (rest.length + 1) rest output

def block (kind : Nat) (bits : List Bool) (output : Array UInt8) : Progress :=
  match kind with
  | 0 => storedBlock bits output
  | 1 => codedBlock fixedCodes bits output
  | 2 => codedBlock announcedCodes bits output
  | _ => .corrupt

/-- Blocks up to the one that is marked as the last. Every block takes at least three bits. -/
def blocks : (steps : Nat) → List Bool → Array UInt8 → Option (Array UInt8)
  | 0, _, output => some output
  | steps + 1, bits, output =>
    let header : BitReader (Bool × Nat) := do return (← BitReader.bit, ← BitReader.number 2)
    match header bits with
    | .error _ => some output
    | .ok ((last, kind), rest) =>
      match block kind rest output with
      | .running rest output => if last then some output else blocks steps rest output
      | .cut output => some output
      | .corrupt => none

end Deflate

/-- The bytes that deflated data stand for; none when the data are corrupt. -/
def inflate? (data : Bytes) : Option Bytes :=
  let bits := Deflate.bitsOf data
  (Deflate.blocks (bits.length + 1) bits #[]).map Array.toList

end Unannotate
