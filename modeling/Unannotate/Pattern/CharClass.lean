import Unannotate.Unicode.CaseFolding
import Unannotate.Unicode.Property

/-!
Sets of characters as patterns write them.
-/
set_option autoImplicit false

namespace Unannotate

inductive CharClass
  | empty
  | range (low high : Nat)
  | table (set : CodePointSet)
  | union (first second : CharClass)
  | intersection (first second : CharClass)
  | difference (first second : CharClass)
  | symmetricDifference (first second : CharClass)
  | complement (item : CharClass)
  /-- Every character that equals a member up to case. -/
  | folded (item : CharClass)

namespace CharClass

def contains : CharClass → Char → Bool
  | empty, _ => false
  | range low high, character => low ≤ character.toNat && character.toNat ≤ high
  | table set, character => set.contains character
  | union first second, character => first.contains character || second.contains character
  | intersection first second, character => first.contains character && second.contains character
  | difference first second, character => first.contains character && !second.contains character
  | symmetricDifference first second, character =>
    first.contains character ^^ second.contains character
  | complement item, character => !item.contains character
  | folded item, character => (Unicode.caseVariants character).any fun variant => item.contains variant

def single (character : Char) : CharClass := range character.toNat character.toNat

def ofRanges : List (Char × Char) → CharClass
  | [] => empty
  | (low, high) :: rest => union (range low.toNat high.toNat) (ofRanges rest)

def any : CharClass := range 0 0x10FFFF

/-- About how many ranges the set is made of. -/
def size : CharClass → Nat
  | empty => 1
  | range _ _ => 1
  | table set => set.ranges.length + 1
  | union first second | intersection first second | difference first second
  | symmetricDifference first second => first.size + second.size
  | complement item | folded item => item.size + 1

theorem contains_single (character other : Char) :
    (single character).contains other = decide (other = character) := by
  simp only [single, contains]
  by_cases same : other = character
  · simp [same]
  · have apart : other.toNat ≠ character.toNat := fun equal => same (Char.toNat_inj.mp equal)
    simp only [same, decide_false, Bool.and_eq_false_iff, decide_eq_false_iff_not]
    omega

end CharClass

end Unannotate
