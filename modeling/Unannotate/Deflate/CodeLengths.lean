/-!
Lengths of code words from the frequencies of symbols.

The two lightest trees are joined until one is left; of two trees of one weight the lower one counts as
lighter. They are kept in a heap, whose order among equals decides which symbols get the longer words. A
symbol's depth in the last tree is the length of its word. Where that exceeds what is allowed, leaves are
moved: every time one leaf is lengthened, it makes room beside it for one that is too deep.
-/
set_option autoImplicit false

namespace Unannotate

namespace Deflate

inductive WeightedTree
  | leaf (symbol weight : Nat)
  | node (weight height : Nat) (left right : WeightedTree)

namespace WeightedTree

def weight : WeightedTree → Nat
  | leaf _ weight => weight
  | node weight _ _ _ => weight

def height : WeightedTree → Nat
  | leaf _ _ => 0
  | node _ height _ _ => height

def join (left right : WeightedTree) : WeightedTree :=
  node (left.weight + right.weight) (max left.height right.height + 1) left right

/-- Whether a tree comes before another one or with it. -/
def isLighter (first second : WeightedTree) : Bool :=
  first.weight < second.weight || (first.weight == second.weight && first.height ≤ second.height)

def symbol? : WeightedTree → Option Nat
  | leaf symbol _ => some symbol
  | node _ _ _ _ => none

/-- Each symbol with its depth. -/
def depths (depth : Nat) : WeightedTree → List (Nat × Nat)
  | leaf symbol _ => [(symbol, depth)]
  | node _ _ left right => depths (depth + 1) left ++ depths (depth + 1) right

/-- Number of nodes, leaves included, below a depth. -/
def countBelow (limit depth : Nat) : WeightedTree → Nat
  | leaf _ _ => if limit < depth then 1 else 0
  | node _ _ left right =>
    (if limit < depth then 1 else 0) + countBelow limit (depth + 1) left
      + countBelow limit (depth + 1) right

end WeightedTree

/-! ## The heap

Places are counted from one, and the children of a place are twice its number and the next. -/

abbrev Heap := Array WeightedTree

namespace Heap

def isLighterAt (heap : Heap) (first second : Nat) : Bool :=
  match heap[first - 1]?, heap[second - 1]? with
  | some first, some second => first.isLighter second
  | _, _ => false

/-- Moves the tree at a place down until no child is lighter. -/
def sink : (steps : Nat) → Heap → (place : Nat) → Heap
  | 0, heap, _ => heap
  | steps + 1, heap, place =>
    let left := 2 * place
    let child := if left < heap.size ∧ isLighterAt heap (left + 1) left then left + 1 else left
    if heap.size < left ∨ isLighterAt heap place child then heap
    else sink steps (heap.swapIfInBounds (place - 1) (child - 1)) child

/-- Orders the places from `place` down to the first. -/
def order (heap : Heap) : (place : Nat) → Heap
  | 0 => heap
  | place + 1 => order (sink heap.size heap (place + 1)) place

/-- Takes out the lightest tree. -/
def takeLightest? (heap : Heap) : Option (WeightedTree × Heap) :=
  match heap[0]?, heap.back? with
  | some first, some last =>
    let rest := heap.pop.setIfInBounds 0 last
    some (first, sink rest.size rest 1)
  | _, _ => none

/-- Joins trees until one is left; also gives the symbols in the order in which they were taken out. -/
def joinAll : (steps : Nat) → Heap → (taken : List Nat) → Option (WeightedTree × List Nat)
  | 0, heap, taken => heap[0]?.map fun tree => (tree, taken.reverse)
  | steps + 1, heap, taken => do
    if heap.size < 2 then joinAll steps heap taken
    else
      let (first, heap) ← takeLightest? heap
      let second ← heap[0]?
      let taken := second.symbol?.toList ++ first.symbol?.toList ++ taken
      joinAll steps (sink heap.size (heap.setIfInBounds 0 (first.join second)) 1) taken

end Heap

/-! ## Lengths -/

/-- Frequencies of which at least two are not zero. -/
def withTwoSymbols (frequencies : List Nat) : List Nat :=
  let used := (frequencies.zipIdx.filter fun item => item.1 ≠ 0).map Prod.snd
  match used with
  | [] => (frequencies.set 0 1).set 1 1
  | [0] => frequencies.set 1 1
  | [1] => frequencies.set 2 1
  | [_] => frequencies.set 0 1
  | _ => frequencies

/-- Lengthens the deepest leaf above `length`, which makes room for a leaf at `maxLength`. -/
def makeRoom (maxLength : Nat) (counts : Array Nat) : (length : Nat) → Array Nat
  | 0 => counts
  | length + 1 =>
    if counts.getD (length + 1) 0 = 0 then makeRoom maxLength counts length
    else
      let counts := counts.modify (length + 1) (· - 1)
      let counts := counts.modify (length + 2) (· + 2)
      counts.modify maxLength (· - 1)

/-- Each symbol with the length of its word, at most `maxLength`. -/
def lengthsOfTree (maxLength : Nat) (tree : WeightedTree) (taken : List Nat) : List (Nat × Nat) :=
  let depths := tree.depths 0
  let tooDeep := tree.countBelow maxLength 0
  if tooDeep = 0 then depths
  else
    let counts := depths.foldl (fun counts item => counts.modify (min maxLength item.2) (· + 1))
      (Array.replicate (maxLength + 1) 0)
    let counts := Nat.repeat (fun counts => makeRoom maxLength counts (maxLength - 1))
      ((tooDeep + 1) / 2) counts
    let lengths := (List.range maxLength).reverse.flatMap fun length =>
      List.replicate (counts.getD (length + 1) 0) (length + 1)
    taken.zip lengths

/-- The length of each symbol's word, up to the last symbol that has one; 0 stands for no word. -/
def codeLengths (maxLength : Nat) (frequencies : List Nat) : List Nat :=
  let frequencies := withTwoSymbols frequencies
  let leaves := (frequencies.zipIdx.filter fun item => item.1 ≠ 0).map fun item =>
    WeightedTree.leaf item.2 item.1
  let heap := Heap.order leaves.toArray (leaves.length / 2)
  match Heap.joinAll leaves.length heap [] with
  | none => []
  | some (tree, taken) =>
    let assigned := (lengthsOfTree maxLength tree taken).foldl
      (fun lengths item => lengths.setIfInBounds item.1 item.2)
      (Array.replicate frequencies.length 0)
    (assigned.toList.reverse.dropWhile (· == 0)).reverse

end Deflate

end Unannotate
