import Unannotate.Deflate.Symbol

/-!
Choosing the symbols for some data.

The data are walked through from the front. At every place the dictionary of earlier places offers those
where the same four bytes may begin, latest first, and the longest repetition among them is taken when it
has at least four bytes. A repetition is compared with the one behind it: where the second can be
extended to the front until nothing or one byte of the first remains, the second one is taken whole.
-/
set_option autoImplicit false

namespace Unannotate

namespace Deflate

/-! ## Limits -/

def minMatch : Nat := 4

def maxMatch : Nat := 258

/-- Bytes that have to be ahead for a look at the match behind the current one. -/
def lookAhead : Nat := 262

/-- Greatest distance of a match. -/
def maxDistance : Nat := 32768 - lookAhead

/-- Places that are tried for one match. -/
def maxCandidates : Nat := 128

/-- A match of this length is taken without trying further places. -/
def goodLength : Nat := 128

/-- A match longer than this is not entered into the dictionary place by place. -/
def maxEntered : Nat := 256

/-! ## The dictionary of earlier places -/

structure Dictionary where
  data : Array UInt8
  /-- The latest place of each key; 0 where there is none. -/
  heads : Array Nat
  /-- For each entered place, the place of its key before it. -/
  earlier : Array Nat

namespace Dictionary

def keyCount : Nat := 65536

def ofData (data : Array UInt8) : Dictionary :=
  ⟨data, Array.replicate keyCount 0, Array.replicate data.size 0⟩

def byteAt (dictionary : Dictionary) (place : Nat) : UInt8 := dictionary.data.getD place 0

/-- The key of the four bytes at a place: the upper half of their product with a constant. -/
def keyAt (dictionary : Dictionary) (place : Nat) : Nat :=
  let word := (dictionary.byteAt place).toNat + (dictionary.byteAt (place + 1)).toNat * 256
    + (dictionary.byteAt (place + 2)).toNat * 65536 + (dictionary.byteAt (place + 3)).toNat * 16777216
  word * 2654435761 % 4294967296 / keyCount

/-- Enters a place, and gives the latest place of its key before that. -/
def enter (dictionary : Dictionary) (place : Nat) : Nat × Dictionary :=
  let key := dictionary.keyAt place
  let head := dictionary.heads.getD key 0
  if head = place then (head, dictionary)
  else
    (head, { dictionary with
      heads := dictionary.heads.setIfInBounds key place
      earlier := dictionary.earlier.setIfInBounds place head })

/-- Enters `count` places from `place` on. -/
def enterAll (dictionary : Dictionary) (place : Nat) : (count : Nat) → Dictionary
  | 0 => dictionary
  | count + 1 => ((dictionary.enter place).2).enterAll (place + 1) count

/-- How many bytes agree at two places, up to `limit`. Bytes behind the data count as zero. -/
def agreement (dictionary : Dictionary) (first second : Nat) : (limit : Nat) → Nat
  | 0 => 0
  | limit + 1 =>
    if dictionary.byteAt first = dictionary.byteAt second then
      dictionary.agreement (first + 1) (second + 1) limit + 1
    else 0

/-- The longest agreement with `place` among at most `tries` places from `candidate` on, beyond a `best`
length and its place. An agreement with all of the `ahead` bytes ends the search. -/
def longest (dictionary : Dictionary) (place ahead : Nat) :
    (tries candidate : Nat) → (best : Nat × Nat) → Nat × Nat
  | 0, _, best => best
  | tries + 1, candidate, best =>
    if place ≤ candidate then best
    else
      let length := dictionary.agreement place candidate maxMatch
      if best.1 < length ∧ ahead ≤ length then (ahead, candidate)
      else
        let best := if best.1 < length then (length, candidate) else best
        let next := dictionary.earlier.getD candidate 0
        if goodLength ≤ best.1 ∨ next ≤ place - maxDistance then best
        else dictionary.longest place ahead tries next best

end Dictionary

/-! ## Matches -/

/-- `length` bytes at a place; from `minMatch` bytes on they repeat those at `source`. -/
structure Match where
  place : Nat
  length : Nat
  source : Nat
  /-- The first place that is not in the dictionary on account of this match. -/
  entered : Nat

namespace Match

/-- One byte as it is. -/
def single (place : Nat) : Match := ⟨place, 1, 0, place⟩

/-- The match at a place with `ahead` bytes from there on, given the latest place of its key. -/
def find (dictionary : Dictionary) (place ahead head : Nat) : Match :=
  if head = 0 ∨ place ≤ head ∨ maxDistance < place - head then single place
  else
    let (length, source) := dictionary.longest place ahead maxCandidates head (minMatch - 2, 0)
    if length < minMatch ∨ place ≤ source then single place else ⟨place, length, source, place⟩

/-- Enters the places that a match covers, while enough bytes are ahead. -/
def enter (found : Match) (dictionary : Dictionary) (ahead : Nat) : Dictionary :=
  let stop := found.place + found.length
  if ahead ≤ found.length + minMatch ∨ found.length < minMatch then dictionary
  else if found.length ≤ maxEntered then
    let start := max (found.place + 1) found.entered
    dictionary.enterAll start (stop - start)
  else (dictionary.enter (stop - 1)).2

/-- Moves the start of a match to the front, at most over `count` bytes of the match before it; what is
left of those comes first. -/
def extendBack (dictionary : Dictionary) (limit : Nat) : (count : Nat) → Match → Nat × Match
  | 0, next => (0, next)
  | count + 1, next =>
    if dictionary.byteAt (next.source - 1) = dictionary.byteAt (next.place - 1)
        ∧ limit < next.place ∧ next.length < maxEntered ∧ 1 < next.source then
      extendBack dictionary limit count
        { next with place := next.place - 1, source := next.source - 1, length := next.length + 1 }
    else (count + 1, next)

/-- Two matches, one behind the other, with the second one extended when that leaves at most one byte of
the first. -/
def settle (dictionary : Dictionary) (current next : Match) : Match × Match :=
  if next.length < minMatch ∨ current.length ≤ 1 ∨ next.source + 1 < current.length
      ∨ dictionary.byteAt (next.source + 1 - current.length)
        ≠ dictionary.byteAt (next.place + 1 - current.length) then
    (current, next)
  else
    let (left, extended) :=
      extendBack dictionary (next.place - maxDistance) current.length next
    if left ≤ 1 then
      ({ current with length := left }, { extended with entered := next.entered + 1 })
    else (current, next)

def symbols (found : Match) (dictionary : Dictionary) : List Symbol :=
  if found.length < minMatch then
    (List.range found.length).map fun offset => .literal (dictionary.byteAt (found.place + offset))
  else [.copy found.length (found.place - found.source)]

end Match

/-! ## The walk -/

/-- The symbols from `place` on, behind those already chosen, which stand last one first. A match for
`place` may be known. Every second step at least moves on, so twice as many steps as bytes are enough. -/
def walkSymbols : (steps : Nat) → Dictionary → (place : Nat) → Option Match → List Symbol → List Symbol
  | 0, _, _, _, chosen => chosen
  | steps + 1, dictionary, place, known, chosen =>
    let ahead := dictionary.data.size - place
    if ahead = 0 then chosen
    else
      let (current, dictionary) := match known with
        | some found => if ahead < lookAhead then findHere dictionary ahead else (found, dictionary)
        | none => findHere dictionary ahead
      let dictionary := current.enter dictionary ahead
      if lookAhead < ahead then
        let behind := current.place + current.length
        let (head, dictionary) := dictionary.enter behind
        let (current, next) :=
          Match.settle dictionary current (Match.find dictionary behind ahead head)
        walkSymbols steps dictionary (place + current.length) (some next)
          ((current.symbols dictionary).reverseAux chosen)
      else
        walkSymbols steps dictionary (place + current.length) none
          ((current.symbols dictionary).reverseAux chosen)
where
  /-- The match at `place` itself. -/
  findHere (dictionary : Dictionary) (ahead : Nat) : Match × Dictionary :=
    let place := dictionary.data.size - ahead
    if minMatch ≤ ahead then
      let (head, dictionary) := dictionary.enter place
      (Match.find dictionary place ahead head, dictionary)
    else (Match.single place, dictionary)

def symbolsOf (data : Bytes) : List Symbol :=
  let data := data.toArray
  (walkSymbols (2 * data.size + 1) (Dictionary.ofData data) 0 none []).reverse

end Deflate

end Unannotate
