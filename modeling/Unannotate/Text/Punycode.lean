/-!
Punycode: characters beyond ASCII written with letters and digits.

The ASCII characters come first, behind them a hyphen when there are any, and then the other characters in
ascending order. Each of them is given by how many insertions it skips, counting first through the places of
the text built so far and then through the characters. These numbers are written in base 36 with thresholds
that adapt to the numbers before.
-/
set_option autoImplicit false

namespace Unannotate.Text.Punycode

def base : Nat := 36

/-- The digit at one place that ends a number. -/
def threshold (place bias : Nat) : Nat := min 26 (max 1 (place - bias))

theorem threshold_pos (place bias : Nat) : 1 ≤ threshold place bias := by
  unfold threshold
  omega

theorem threshold_le (place bias : Nat) : threshold place bias ≤ 26 := by
  unfold threshold
  omega

/-- Divides down to the range of one digit, and adds the base for each division. -/
def settle (delta bias : Nat) : Nat :=
  if 455 < delta then settle (delta / 35) (bias + base) else bias + base * delta / (delta + 38)
termination_by delta
decreasing_by omega

/-- The bias after a number, for a text that holds `count` characters by then. -/
def adapt (delta count : Nat) (first : Bool) : Nat :=
  let scaled := if first then delta / 700 else delta / 2
  settle (scaled + scaled / count) 0

def digitChar (digit : Nat) : Char :=
  if digit < 26 then Char.ofNat ('a'.toNat + digit) else Char.ofNat ('0'.toNat + (digit - 26))

def digitOf? (character : Char) : Option Nat :=
  if 'a' ≤ character ∧ character ≤ 'z' then some (character.toNat - 'a'.toNat)
  else if 'A' ≤ character ∧ character ≤ 'Z' then some (character.toNat - 'A'.toNat)
  else if '0' ≤ character ∧ character ≤ '9' then some (character.toNat - '0'.toNat + 26)
  else none

theorem digitOf?_digitChar {digit : Nat} (small : digit < base) :
    digitOf? (digitChar digit) = some digit := by
  have all : ∀ value ∈ List.range 36, digitOf? (digitChar value) = some value := by decide
  exact all digit (List.mem_range.mpr small)

/-! ## Encoding -/

/-- The digits of a number, the least one first. -/
def digits (bias place number : Nat) : List Char :=
  let limit := threshold place bias
  if number < limit then [digitChar number]
  else
    digitChar (limit + (number - limit) % (base - limit))
      :: digits bias (place + base) ((number - limit) / (base - limit))
termination_by number
decreasing_by
  have positive := threshold_pos place bias
  have small := Nat.div_le_self (number - threshold place bias) (base - threshold place bias)
  omega

structure Encoder where
  written : List Char
  delta : Nat
  bias : Nat
  /-- How many characters are in the text so far. -/
  count : Nat
  first : Bool

/-- Passes one character of the text while the insertions of `point` are written. -/
def Encoder.pass (point : Nat) (encoder : Encoder) (character : Char) : Encoder :=
  if character.toNat < point then { encoder with delta := encoder.delta + 1 }
  else if character.toNat = point then
    { written := encoder.written ++ digits encoder.bias base encoder.delta
      delta := 0
      bias := adapt encoder.delta (encoder.count + 1) encoder.first
      count := encoder.count + 1
      first := false }
  else encoder

/-- Writes the insertions of all `points`, in ascending order, of which `next` is a lower bound. -/
def Encoder.insertAll (text : List Char) (encoder : Encoder) (next : Nat) : List Nat → Encoder
  | [] => encoder
  | point :: rest =>
    let waiting := { encoder with delta := encoder.delta + (point - next) * (encoder.count + 1) }
    let passed := text.foldl (Encoder.pass point) waiting
    Encoder.insertAll text { passed with delta := passed.delta + 1 } (point + 1) rest

def isBasic (character : Char) : Bool := character.toNat < 0x80

/-- The code points beyond ASCII, each once, in ascending order. -/
def insertionPoints (text : List Char) : List Nat :=
  ((text.filter (!isBasic ·)).map Char.toNat).eraseDups.mergeSort (· ≤ ·)

def encode (text : List Char) : List Char :=
  let basic := text.filter isBasic
  let encoder := Encoder.insertAll text ⟨[], 0, 72, basic.length, true⟩ 0x80 (insertionPoints text)
  basic ++ (if basic.isEmpty then [] else ['-']) ++ encoder.written

/-! ## Decoding -/

structure Decoder where
  text : List Char
  /-- The code point that is inserted next. -/
  point : Nat := 0x80
  /-- The position up to which insertions were passed. -/
  position : Nat := 0
  bias : Nat := 72
  first : Bool := true
  /-- The number that is being read, the weight of its next digit, and the place of this digit. -/
  number : Nat := 0
  weight : Nat := 1
  place : Nat := base

/-- Inserts the character that a complete number stands for. -/
def Decoder.insert? (decoder : Decoder) : Option Decoder :=
  let count := decoder.text.length + 1
  let skipped := decoder.position + decoder.number
  let point := decoder.point + skipped / count
  let position := skipped % count
  if point.isValidChar then
    some {
      text := decoder.text.take position ++ Char.ofNat point :: decoder.text.drop position
      point
      position := position + 1
      bias := adapt decoder.number count decoder.first
      first := false }
  else none

def Decoder.take? (decoder : Decoder) (character : Char) : Option Decoder := do
  let digit ← digitOf? character
  let limit := threshold decoder.place decoder.bias
  let read := { decoder with
    number := decoder.number + digit * decoder.weight
    weight := decoder.weight * (base - limit)
    place := decoder.place + base }
  if digit < limit then read.insert? else some read

/-- The last hyphen separates the ASCII characters from the digits. -/
def split (code : List Char) : List Char × List Char :=
  let tail := (code.reverse.takeWhile (· ≠ '-')).reverse
  (code.take (code.length - tail.length - 1), tail)

def decode? (code : List Char) : Option (List Char) := do
  let (basic, tail) := split code
  if !basic.all isBasic then none
  else
    let decoder ← tail.foldlM Decoder.take? ({ text := basic } : Decoder)
    if decoder.weight = 1 then some decoder.text else none

end Unannotate.Text.Punycode
