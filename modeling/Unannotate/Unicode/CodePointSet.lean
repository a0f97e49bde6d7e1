/-!
Sets of Unicode code points as ascending ranges.

A property of characters that a standard lists is written as text: hexadecimal code points, and ranges
with a dash, in ascending order. `ofLines` reads such a list; membership stops at the first range that
begins after the code point.
-/
set_option autoImplicit false

namespace Unannotate

structure CodePointSet where
  /-- First and last code point of each range, ascending. -/
  ranges : List (Nat × Nat)

namespace CodePointSet

def empty : CodePointSet := ⟨[]⟩

def hexDigit (digit : Char) : Nat :=
  if digit.isDigit then digit.toNat - 48 else digit.toNat - 55

def hexNumber (digits : List Char) : Nat :=
  digits.foldl (fun total digit => total * 16 + hexDigit digit) 0

def rangeOfText (text : String) : Nat × Nat :=
  let low := text.toList.takeWhile (· ≠ '-')
  match text.toList.drop (low.length + 1) with
  | [] => (hexNumber low, hexNumber low)
  | high => (hexNumber low, hexNumber high)

def ofLines (lines : List String) : CodePointSet :=
  ⟨(lines.flatMap (·.splitOn " ")).map rangeOfText⟩

def containsNat : List (Nat × Nat) → Nat → Bool
  | [], _ => false
  | (low, high) :: rest, point =>
    if point < low then false else if point ≤ high then true else containsNat rest point

def contains (set : CodePointSet) (character : Char) : Bool :=
  containsNat set.ranges character.toNat

/-- Ranges of two ascending lists, in ascending order of their first code points. -/
def mergeRanges : List (Nat × Nat) → List (Nat × Nat) → List (Nat × Nat)
  | [], second => second
  | first, [] => first
  | (low, high) :: first, (low', high') :: second =>
    if low ≤ low' then (low, high) :: mergeRanges first ((low', high') :: second)
    else (low', high') :: mergeRanges ((low, high) :: first) second

/-- Joins ascending ranges that overlap or touch, the range from `low` to `high` being in front. -/
def joinFrom (low high : Nat) : List (Nat × Nat) → List (Nat × Nat)
  | [] => [(low, high)]
  | (low', high') :: rest =>
    if low' ≤ high + 1 then joinFrom low (max high high') rest
    else (low, high) :: joinFrom low' high' rest

def joinRanges : List (Nat × Nat) → List (Nat × Nat)
  | [] => []
  | (low, high) :: rest => joinFrom low high rest

def union (first second : CodePointSet) : CodePointSet :=
  ⟨joinRanges (mergeRanges first.ranges second.ranges)⟩

/-- Gaps between ascending ranges, from code point `next` on. -/
def gaps (next : Nat) : List (Nat × Nat) → List (Nat × Nat)
  | [] => if next ≤ 0x10FFFF then [(next, 0x10FFFF)] else []
  | (low, high) :: rest =>
    if next < low then (next, low - 1) :: gaps (high + 1) rest else gaps (high + 1) rest

def complement (set : CodePointSet) : CodePointSet := ⟨gaps 0 set.ranges⟩

/-- What is in the first set and not in the second. -/
def difference (first second : CodePointSet) : CodePointSet :=
  (first.complement.union second).complement

def unionAll (sets : List CodePointSet) : CodePointSet := sets.foldr union empty

end CodePointSet

end Unannotate
