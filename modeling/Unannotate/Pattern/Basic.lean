import Unannotate.Pattern.CharClass

/-!
Patterns and how they match.

A pattern is matched against a whole text at once. A mark for each boundary between characters says
whether a match may have got there; matching a pattern turns the marks of possible starts into the marks
of possible ends. The work is bounded by the sizes of pattern and text, whatever the pattern repeats.
`Pattern.Matches` says the same one boundary at a time.
-/
set_option autoImplicit false

namespace Unannotate

/-- A condition on the characters next to a boundary. -/
inductive Assertion
  | textStart
  | textEnd
  | lineStart (carriageReturns : Bool)
  | lineEnd (carriageReturns : Bool)
  | wordBoundary (unicode : Bool)
  | noWordBoundary (unicode : Bool)
  | wordStart (unicode : Bool)
  | wordEnd (unicode : Bool)
  | wordStartHalf (unicode : Bool)
  | wordEndHalf (unicode : Bool)
  deriving DecidableEq, Repr

namespace Assertion

def isWordCharacter (unicode : Bool) (character : Char) : Bool :=
  if unicode then Unicode.wordCharacter.contains character
  else character.isAlphanum || character = '_'

def isWord (unicode : Bool) : Option Char → Bool
  | none => false
  | some character => isWordCharacter unicode character

/-- Whether the condition holds between the character before and the character after. -/
def holds (before after : Option Char) : Assertion → Bool
  | textStart => before.isNone
  | textEnd => after.isNone
  | lineStart false => before.isNone || before = some '\n'
  | lineStart true =>
    before.isNone || before = some '\n' || (before = some '\r' && after ≠ some '\n')
  | lineEnd false => after.isNone || after = some '\n'
  | lineEnd true =>
    after.isNone || after = some '\r' || (after = some '\n' && before ≠ some '\r')
  | wordBoundary unicode => isWord unicode before != isWord unicode after
  | noWordBoundary unicode => isWord unicode before == isWord unicode after
  | wordStart unicode => !isWord unicode before && isWord unicode after
  | wordEnd unicode => isWord unicode before && !isWord unicode after
  | wordStartHalf unicode => !isWord unicode before
  | wordEndHalf unicode => !isWord unicode after

end Assertion

inductive Pattern
  | empty
  | oneOf (set : CharClass)
  | look (condition : Assertion)
  | append (first second : Pattern)
  | either (first second : Pattern)
  /-- At least `least` times and, if there is a limit, at most `most` times. -/
  | repeated (item : Pattern) (least : Nat) (most : Option Nat)

/-- One mark for each boundary of a text, from the one before the first character on. -/
abbrev Marks := List Bool

namespace Marks

def all (text : List Char) : Marks := List.replicate (text.length + 1) true

def union (first second : Marks) : Marks := List.zipWith (· || ·) first second

/-- Marks behind the marked characters that are in a set. -/
def advance (set : CharClass) (text : List Char) (marks : Marks) : Marks :=
  false :: List.zipWith (fun mark character => mark && set.contains character) marks text

/-- The characters before and after each boundary. -/
def neighbours (before : Option Char) : List Char → List (Option Char × Option Char)
  | [] => [(before, none)]
  | character :: rest => (before, some character) :: neighbours (some character) rest

def restrict (condition : Assertion) (text : List Char) (marks : Marks) : Marks :=
  List.zipWith (fun mark sides => mark && condition.holds sides.1 sides.2) marks
    (neighbours none text)

def times (step : Marks → Marks) : Nat → Marks → Marks
  | 0, marks => marks
  | count + 1, marks => times step count (step marks)

/-- Everything that at most `count` steps reach. -/
def upTo (step : Marks → Marks) : (count : Nat) → Marks → Marks
  | 0, marks => marks
  | count + 1, marks =>
    let next := union marks (step marks)
    if next = marks then marks else upTo step count next

end Marks

namespace Pattern

/-- Marks of the ends of matches that begin at the marks. A step of a closure that reaches nothing new is
the last, and there are no more new marks than boundaries. -/
def ends (text : List Char) : Pattern → Marks → Marks
  | empty, marks => marks
  | oneOf set, marks => Marks.advance set text marks
  | look condition, marks => Marks.restrict condition text marks
  | append first second, marks => second.ends text (first.ends text marks)
  | either first second, marks => Marks.union (first.ends text marks) (second.ends text marks)
  | repeated item least most, marks =>
    let begun := Marks.times (item.ends text) least marks
    match most with
    | none => Marks.upTo (item.ends text) (text.length + 1) begun
    | some limit => Marks.upTo (item.ends text) (limit - least) begun

/-- Whether the pattern matches anywhere in the text. -/
def occursIn (pattern : Pattern) (text : List Char) : Bool :=
  (pattern.ends text (Marks.all text)).any id

/-- A match of the pattern in a text, from one boundary to another. -/
inductive Matches (text : List Char) : Pattern → Nat → Nat → Prop
  | empty (start : Nat) : Matches text .empty start start
  | oneOf (set : CharClass) (start : Nat) (character : Char)
      (here : text[start]? = some character) (member : set.contains character = true) :
      Matches text (.oneOf set) start (start + 1)
  | look (condition : Assertion) (start : Nat)
      (holds : condition.holds (if start = 0 then none else text[start - 1]?) text[start]? = true) :
      Matches text (.look condition) start start
  | append {first second : Pattern} {start middle stop : Nat}
      (left : Matches text first start middle) (right : Matches text second middle stop) :
      Matches text (.append first second) start stop
  | left {first second : Pattern} {start stop : Nat} (left : Matches text first start stop) :
      Matches text (.either first second) start stop
  | right {first second : Pattern} {start stop : Nat} (right : Matches text second start stop) :
      Matches text (.either first second) start stop
  | done {item : Pattern} {most : Option Nat} (start : Nat) :
      Matches text (.repeated item 0 most) start start
  | again {item : Pattern} {least : Nat} {most : Option Nat} {start middle stop : Nat}
      (room : most ≠ some 0) (once : Matches text item start middle)
      (others : Matches text (.repeated item (least - 1) (most.map (· - 1))) middle stop) :
      Matches text (.repeated item least most) start stop

/-- About how large a compiled form of the pattern is. -/
def size : Pattern → Nat
  | empty => 1
  | oneOf set => 2 * set.size - 1
  | look _ => 1
  | append first second => first.size + second.size
  | either first second => first.size + second.size + 1
  | repeated item least most => (item.size + 1) * max 1 (max least (most.getD 1))

end Pattern

end Unannotate
