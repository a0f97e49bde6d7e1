import Unannotate.Deflate.CodeLengths
import Unannotate.Deflate.Inflate
import Unannotate.Deflate.Matching

/-!
Writing deflated data.

The symbols for the data are cut into blocks. Each block is written in the shortest of three ways: as
stored bytes, with the fixed codes, or with codes made for its symbols. What comes out is read back; only
if that failed to give the data would they be written in stored blocks.
-/
set_option autoImplicit false

namespace Unannotate

namespace Deflate

/-! ## Bits -/

/-- The low `width` bits of a number, lowest first. -/
def lowBits (width value : Nat) : List Bool := (List.range width).map value.testBit

/-- The bits of a code word, highest first. -/
def wordBits (width word : Nat) : List Bool := (lowBits width word).reverse

/-- The byte that at most eight bits spell, lowest first. -/
def byteOfBits (bits : List Bool) : UInt8 := UInt8.ofNat (numberOf bits)

/-- Bytes of eight bits each; missing bits at the end are zero. -/
def packBits (bits : List Bool) : Bytes :=
  if bits.isEmpty then [] else byteOfBits (bits.take 8) :: packBits (bits.drop 8)
termination_by bits.length
decreasing_by
  rename_i nonempty
  have positive : 0 < bits.length := List.length_pos_iff.mpr (by simpa using nonempty)
  simp only [List.length_drop]
  omega

/-! ## Codes -/

/-- The first word of each length, from the number of words of each length. -/
def firstWords : (first : Nat) → List Nat → List Nat
  | _, [] => []
  | first, count :: rest => first :: firstWords (2 * (first + count)) rest

/-- The word of each symbol, from the lengths of all words; no bits where a symbol has none. -/
def wordsOf (lengths : List Nat) : Array (List Bool) :=
  let counts := (List.range' 1 HuffmanCode.maxLength).map fun length =>
    (lengths.filter (· = length)).length
  let nextWords := (0 :: firstWords 0 counts).toArray
  let assign (state : Array Nat × Array (List Bool)) (length : Nat) :=
    if length = 0 then (state.1, state.2.push [])
    else (state.1.modify length (· + 1), state.2.push (wordBits length (state.1.getD length 0)))
  (lengths.foldl assign (nextWords, #[])).2

/-! ## Code lengths as symbols -/

/-- A symbol of the code for code lengths, with its extra bits. -/
structure LengthSymbol where
  symbol : Nat
  extraWidth : Nat := 0
  extra : Nat := 0

/-- A run of `count` zeros, written in pieces of at most 138. -/
def zeroRun (count : Nat) : List LengthSymbol :=
  if _long : 138 < count then ⟨18, 7, 127⟩ :: zeroRun (count - 138)
  else if count < 3 then List.replicate count ⟨0, 0, 0⟩
  else if count ≤ 10 then [⟨17, 3, count - 3⟩]
  else [⟨18, 7, count - 11⟩]
termination_by count
decreasing_by omega

/-- `count` repetitions of the length before, written in pieces of at most six. -/
def repeatRun (length count : Nat) : List LengthSymbol :=
  if _long : 6 < count then ⟨16, 2, 3⟩ :: repeatRun length (count - 6)
  else if count < 3 then List.replicate count ⟨length, 0, 0⟩
  else [⟨16, 2, count - 3⟩]
termination_by count
decreasing_by omega

/-- A run of `count` equal lengths. The first piece holds the length itself and at most six more. -/
def lengthRun (length count : Nat) : List LengthSymbol :=
  if length = 0 then zeroRun count
  else if count < 4 then List.replicate count ⟨length, 0, 0⟩
  else ⟨length, 0, 0⟩ :: ⟨16, 2, min count 7 - 4⟩ :: repeatRun length (count - 7)

/-- Lengths as runs of equal ones. -/
def runsOf (lengths : List Nat) : List (Nat × Nat) :=
  lengths.foldr (fun length runs =>
    match runs with
    | (other, count) :: rest =>
      if other = length then (other, count + 1) :: rest else (length, 1) :: runs
    | [] => [(length, 1)]) []

def lengthSymbols (lengths : List Nat) : List LengthSymbol :=
  (runsOf lengths).flatMap fun run => lengthRun run.1 run.2

/-! ## Blocks -/

/-- Positions and extra bits of a symbol in the two codes. -/
def Symbol.place : Symbol → Nat
  | .literal byte => byte.toNat
  | .endOfBlock => 256
  | .copy length _ => 257 + classOf lengthClasses length

/-- How often each position below `size` occurs. -/
def frequenciesOf (size : Nat) (positions : List Nat) : List Nat :=
  (positions.foldl (fun counts position => counts.modify position (· + 1))
    (Array.replicate size 0)).toList

def distancePlaces (symbols : List Symbol) : List Nat :=
  symbols.filterMap fun symbol =>
    match symbol with
    | .copy _ distance => some (classOf distanceClasses distance)
    | _ => none

/-- The extra bits of a value in its class. -/
def extraBits (classes : List (Nat × Nat)) (value : Nat) : List Bool :=
  let (least, width) := classes.getD (classOf classes value) (0, 0)
  lowBits width (value - least)

def symbolBits (literals distances : Array (List Bool)) (symbol : Symbol) : List Bool :=
  literals.getD symbol.place [] ++
    match symbol with
    | .copy length distance =>
      extraBits lengthClasses length ++ distances.getD (classOf distanceClasses distance) []
        ++ extraBits distanceClasses distance
    | _ => []

/-- The bits of symbols and of the end of their block. -/
def contentBits (literals distances : List Nat) (symbols : List Symbol) : List Bool :=
  let literals := wordsOf literals
  let distances := wordsOf distances
  (symbols ++ [Symbol.endOfBlock]).flatMap (symbolBits literals distances)

/-- Codes made for some symbols: a description of them, and the symbols. -/
def ownCodeBits (symbols : List Symbol) : List Bool :=
  let literals := codeLengths 15
    (frequenciesOf 286 ((symbols ++ [Symbol.endOfBlock]).map Symbol.place))
  let distances := codeLengths 15 (frequenciesOf 30 (distancePlaces symbols))
  let described := lengthSymbols literals ++ lengthSymbols distances
  let lengths := codeLengths 7 (frequenciesOf 19 (described.map (·.symbol)))
  let written := (lengthOrder.map (lengths.getD · 0)).reverse.dropWhile (· == 0) |>.reverse
  let words := wordsOf lengths
  lowBits 5 (literals.length - 257) ++ lowBits 5 (distances.length - 1)
    ++ lowBits 4 (written.length - 4) ++ written.flatMap (lowBits 3)
    ++ described.flatMap (fun item => words.getD item.symbol [] ++ lowBits item.extraWidth item.extra)
    ++ contentBits literals distances symbols

/-- Bytes as they are, from a byte boundary on; `written` bits stand in front of the block. -/
def storedBits (written : Nat) (last : Bool) (bytes : Bytes) : List Bool :=
  let header := [last, false, false]
  let padding := List.replicate ((8 - (written + 3) % 8) % 8) false
  header ++ padding ++ bitsOf (Bytes.littleEndian 2 bytes.length)
    ++ bitsOf (Bytes.littleEndian 2 (65535 - bytes.length)) ++ bitsOf bytes

/-- Bytes that a block of so many bits takes. -/
def bytesFor (bits : Nat) : Nat := (bits + 10) / 8

/-- A block in the shortest way; of two equally short ways the simpler one. -/
def blockBits (written : Nat) (last : Bool) (bytes : Bytes) (symbols : List Symbol) : List Bool :=
  let fixed := contentBits fixedLiteralLengths fixedDistanceLengths symbols
  if symbols.isEmpty then last :: true :: false :: fixed
  else
    let own := ownCodeBits symbols
    if bytes.length + 4 ≤ min (bytesFor fixed.length) (bytesFor own.length) then
      storedBits written last bytes
    else if bytesFor fixed.length ≤ bytesFor own.length then last :: true :: false :: fixed
    else last :: false :: true :: own

/-- Number of bytes that a symbol stands for. -/
def Symbol.size : Symbol → Nat
  | .literal _ => 1
  | .copy length _ => length
  | .endOfBlock => 0

/-- Symbols of one block at most. -/
def blockSize : Nat := 16383

/-- Blocks for symbols and the bytes that they stand for, behind `written` bits. -/
def blocksBits (written : Nat) (bytes : Bytes) (symbols : List Symbol) : List Bool :=
  if _full : blockSize ≤ symbols.length then
    let front := symbols.take blockSize
    let size := front.foldl (fun total symbol => total + symbol.size) 0
    let block := blockBits written false (bytes.take size) front
    block ++ blocksBits (written + block.length) (bytes.drop size) (symbols.drop blockSize)
  else blockBits written true bytes symbols
termination_by symbols.length
decreasing_by
  simp only [List.length_drop]
  simp only [blockSize] at *
  omega

def compress (data : Bytes) : Bytes := packBits (blocksBits 0 data (symbolsOf data))

/-! ## Stored blocks alone -/

/-- Greatest length of a stored block. -/
def maxStored : Nat := 65535

/-- The lengths in front of a stored block of so many bytes. -/
def storedSizes (length : Nat) : Bytes :=
  Bytes.littleEndian 2 length ++ Bytes.littleEndian 2 (maxStored - length)

def storeAll (data : Bytes) : Bytes :=
  if _short : data.length ≤ maxStored then 1 :: storedSizes data.length ++ data
  else 0 :: storedSizes maxStored ++ data.take maxStored ++ storeAll (data.drop maxStored)
termination_by data.length
decreasing_by
  simp only [List.length_drop]
  simp only [maxStored] at *
  omega

end Deflate

/-- Deflated data that stand for the given bytes. -/
def deflate (data : Bytes) : Bytes :=
  let compressed := Deflate.compress data
  if inflate? compressed = some data then compressed else Deflate.storeAll data

end Unannotate
