import Unannotate.Deflate.Bits

/-!
Canonical Huffman codes.

A code is given by the length of each symbol's code word. Words of one length are consecutive numbers in
the order of their symbols, and the first word of a length follows the last shorter one.
-/
set_option autoImplicit false

namespace Unannotate

namespace Deflate

structure HuffmanCode where
  /-- For the lengths 1, 2, … the symbols whose words have that length. -/
  symbols : List (Array Nat)

namespace HuffmanCode

def maxLength : Nat := 15

/-- Words of the next length that are still free, if every length takes what it announces. -/
def freeWords : (free : Nat) → List Nat → Option Nat
  | free, [] => some free
  | free, count :: rest => if 2 * free < count then none else freeWords (2 * free - count) rest

/-- The code with a word of the given length for each symbol; length 0 stands for no word. No code has
more words than there is room for, and only one with a single word leaves room. -/
def ofLengths? (lengths : List Nat) : Option HuffmanCode :=
  let symbols := (List.range' 1 maxLength).map fun length =>
    ((lengths.zipIdx.filter fun item => item.1 = length).map Prod.snd).toArray
  match freeWords 1 (symbols.map Array.size) with
  | none => none
  | some free =>
    if free = 0 ∨ (symbols.map Array.size).foldl (· + ·) 0 ≤ 1 then some ⟨symbols⟩ else none

/-- Follows the bits of a word: `first` is the first word of the current length. -/
def walk : List (Array Nat) → (word first : Nat) → BitReader Nat
  | [], _, _ => BitReader.corrupt
  | symbols :: longer, word, first => do
    let bit ← BitReader.bit
    let word := 2 * word + bit.toNat
    let first := 2 * first
    match symbols[word - first]? with
    | some symbol => return symbol
    | none => walk longer word (first + symbols.size)

/-- The symbol of the next word. -/
def decode (code : HuffmanCode) : BitReader Nat := walk code.symbols 0 0

end HuffmanCode

end Deflate

end Unannotate
