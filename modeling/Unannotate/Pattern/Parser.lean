import Unannotate.Pattern.Reader

/-!
The pattern that a text describes.

Texts are read from left to right: branches of items, an item being a character, a class in brackets, an
assertion, a group or flags, and repetition signs behind it. Flags hold from where they stand to the end
of their group, across branches. A text is refused when it breaks a rule of the language, when items
nest too deeply, or when the pattern would be too large to be compiled.
-/
set_option autoImplicit false

namespace Unannotate

namespace PatternReader

/-! ## Classes in brackets -/

/-- A class with the depth to which its parts nest. -/
structure ClassPiece where
  set : CharClass
  depth : Nat := 0

namespace ClassPiece

/-- The union of items in the order in which they were read, last first. -/
def unionOf : List ClassPiece → ClassPiece
  | [] => ⟨.empty, 0⟩
  | [item] => item
  | first :: rest =>
    ⟨rest.foldl (fun total item => .union item.set total) first.set,
      1 + (first :: rest).foldl (fun deepest item => max deepest item.depth) 0⟩

end ClassPiece

inductive ClassOperator
  | intersection
  | difference
  | symmetricDifference

def ClassOperator.apply : ClassOperator → CharClass → CharClass → CharClass
  | intersection => .intersection
  | difference => .difference
  | symmetricDifference => .symmetricDifference

def ClassOperator.sign : ClassOperator → Char
  | intersection => '&'
  | difference => '-'
  | symmetricDifference => '~'

/-- The operator that is written with a doubled sign. -/
def operatorAt? : List Char → Option ClassOperator
  | '&' :: '&' :: _ => some .intersection
  | '-' :: '-' :: _ => some .difference
  | '~' :: '~' :: _ => some .symmetricDifference
  | _ => none

/-- What an operator and its left side make of a right side; both sides are folded first where case does
not count. -/
def combine (flags : PatternFlags) (pending : Option (ClassOperator × ClassPiece))
    (right : ClassPiece) : ClassPiece :=
  match pending with
  | none => right
  | some (operator, left) =>
    let fold (set : CharClass) := if flags.ignoreCase then CharClass.folded set else set
    ⟨operator.apply (fold left.set) (fold right.set), 1 + max left.depth right.depth⟩

def classItem : PatternReader Primitive := do
  match ← next with
  | '\\' => escape
  | letter => return .character letter

/-- Without Unicode a class holds ASCII characters only. -/
def classCharacter (letter : Char) : PatternReader Char := do
  if (← flags).unicode ∨ letter.toNat < 128 then return letter else refuse

def primitiveClass : Primitive → PatternReader CharClass
  | .character letter => do return .single (← classCharacter letter)
  | .set found => return found
  | .look _ => refuse

/-- One character, one named class, or a range of characters. -/
def classRange : PatternReader CharClass := do
  let first ← classItem
  space
  match ← peek with
  | none => refuse
  | some sign =>
    let behind ← peekBehindBlanks
    if sign ≠ '-' ∨ behind = some ']' ∨ behind = some '-' then primitiveClass first
    else
      pass
      let last ← classItem
      match first, last with
      | .character low, .character high =>
        let low ← classCharacter low
        let high ← classCharacter high
        if low ≤ high then return .range low.toNat high.toNat else refuse
      | _, _ => refuse

/-- A class with a name between `[:` and `:]`, whether it is negated, and the text behind it. -/
def asciiClassAt? : List Char → Option (CharClass × Bool × List Char)
  | '[' :: ':' :: text =>
    let (negated, text) := match text with
      | '^' :: text => (true, text)
      | text => (false, text)
    let name := text.takeWhile (· ≠ ':')
    match text.drop name.length, asciiClass? (String.ofList name) with
    | ':' :: ']' :: behind, some set => some (set, negated, behind)
    | _, _ => none
  | _ => none

/-- Dashes in front of a class, which stand for themselves. -/
def leadingDashes : (fuel : Nat) → PatternReader (List ClassPiece)
  | 0 => return []
  | fuel + 1 => do
    if (← peek) = some '-' then
      pass
      return ⟨.single '-', 0⟩ :: (← leadingDashes fuel)
    else return []

/-- The start of a class, after its bracket: whether it is negated, and items that stand for themselves
only there. -/
def classStart : PatternReader (Bool × List ClassPiece) := do
  space
  let negated := (← peek) = some '^'
  if negated then pass
  let dashes ← leadingDashes (← get).rest.length
  if dashes.isEmpty ∧ (← peek) = some ']' then
    pass
    return (negated, [⟨.single ']', 0⟩])
  else return (negated, dashes)

/-- A class up to its closing bracket. `items` are read, last first, since the last operator; `pending`
is that operator and all before it. -/
def classBody : (fuel : Nat) → (negated : Bool) → (items : List ClassPiece) →
    (pending : Option (ClassOperator × ClassPiece)) → PatternReader ClassPiece
  | 0, _, _, _ => refuse
  | fuel + 1, negated, items, pending => do
    space
    let flags ← flags
    match ← peek with
    | none => refuse
    | some '[' =>
      match asciiClassAt? (← get).rest with
      | some (set, inner, behind) =>
        modify fun state => { state with rest := behind }
        let set ← finishClass flags inner set
        classBody fuel negated (⟨set, 0⟩ :: items) pending
      | none =>
        drop 1
        let (inner, started) ← classStart
        let nested ← classBody fuel inner started none
        classBody fuel negated (nested :: items) pending
    | some ']' =>
      drop 1
      let whole := combine flags pending (.unionOf items)
      let set ← finishClass flags negated whole.set
      return ⟨set, whole.depth + 1⟩
    | some _ =>
      match operatorAt? (← get).rest with
      | some operator =>
        drop 2
        classBody fuel negated [] (some (operator, combine flags pending (.unionOf items)))
      | none =>
        let set ← classRange
        classBody fuel negated (⟨set, 0⟩ :: items) pending

/-! ## Groups and flags -/

inductive GroupStart
  /-- Flags that hold from here on. -/
  | flags (flags : PatternFlags)
  /-- A group in which these flags hold. -/
  | group (flags : PatternFlags)

def setFlag (flags : PatternFlags) (letter : Char) (on : Bool) : Option PatternFlags :=
  match letter with
  | 'i' => some { flags with ignoreCase := on }
  | 'm' => some { flags with multiLine := on }
  | 's' => some { flags with dotMatchesNewline := on }
  | 'R' => some { flags with carriageReturns := on }
  | 'u' => some { flags with unicode := on }
  | 'x' => some { flags with ignoreBlanks := on }
  -- which of several matches is found first makes no difference here
  | 'U' => some flags
  | _ => none

/-- Flags up to `:` or `)`, each letter and the dash at most once, with a letter behind the dash. -/
def readFlags : List Char → (seen : List Char) → PatternFlags → Option (PatternFlags × List Char × List Char)
  | [], _, _ => none
  | letter :: rest, seen, flags =>
    if letter = ':' ∨ letter = ')' then
      if seen.head? = some '-' then none else some (flags, seen, letter :: rest)
    else if letter ∈ seen then none
    else if letter = '-' then readFlags rest ('-' :: seen) flags
    else
      match setFlag flags letter ('-' ∉ seen) with
      | some flags => readFlags rest (letter :: seen) flags
      | none => none

def isNameStart (letter : Char) : Bool := letter = '_' || Unicode.alphabetic.contains letter

def isNamePart (letter : Char) : Bool :=
  isNameStart letter || letter ∈ ['.', '[', ']'] || Unicode.number.contains letter

/-- The name of a group up to `>`, which no group before may have. -/
def groupName : PatternReader Unit := do
  let state ← get
  let name := state.rest.takeWhile (· ≠ '>')
  match name, state.rest.drop name.length with
  | first :: others, '>' :: behind =>
    if isNameStart first ∧ others.all isNamePart ∧ name ∉ state.names then
      set { state with rest := behind, names := name :: state.names }
    else refuse
  | _, _ => refuse

/-- What follows an opening parenthesis. -/
def groupStart : PatternReader GroupStart := do
  space
  let state ← get
  let starts (text : String) := text.toList.isPrefixOf state.rest
  if ["?=", "?!", "?<=", "?<!"].any starts then refuse
  else if (← skipText "?P<".toList) then
    groupName
    return .group state.flags
  else if (← skipText "?<".toList) then
    groupName
    return .group state.flags
  else if (← skipText "?".toList) then
    match readFlags (← get).rest [] state.flags with
    | some (flags, _, ':' :: behind) =>
      modify fun state => { state with rest := behind }
      return .group flags
    | some (flags, seen, ')' :: behind) =>
      modify fun state => { state with rest := behind }
      if seen.isEmpty then refuse else return .flags flags
    | _ => refuse
  else return .group state.flags

/-! ## Patterns -/

/-- A pattern with the depth to which its parts nest. -/
structure Piece where
  pattern : Pattern
  depth : Nat := 0

namespace Piece

def deepest (pieces : List Piece) : Nat := pieces.foldl (fun deepest piece => max deepest piece.depth) 0

/-- Items one after another, given last first; flags among them are items that match nothing. -/
def appendAll (items : List (Option Piece)) : Piece :=
  let pieces := items.map fun item => item.getD ⟨.empty, 0⟩
  match pieces with
  | [] => ⟨.empty, 0⟩
  | [piece] => piece
  | last :: others =>
    ⟨others.foldl (fun rest piece => .append piece.pattern rest) last.pattern, 1 + deepest pieces⟩

/-- Branches, given last first. -/
def eitherOf (branches : List Piece) : Piece :=
  match branches with
  | [] => ⟨.empty, 0⟩
  | [piece] => piece
  | last :: others =>
    ⟨others.foldl (fun rest piece => .either piece.pattern rest) last.pattern, 1 + deepest branches⟩

def repeated (piece : Piece) (least : Nat) (most : Option Nat) : Piece :=
  ⟨.repeated piece.pattern least most, piece.depth + 1⟩

end Piece

/-- A lone character. -/
def characterPattern (flags : PatternFlags) (letter : Char) : Option Pattern :=
  if flags.ignoreCase then
    if flags.unicode then some (.oneOf (.folded (.single letter)))
    else if letter.toNat < 128 then
      some (.oneOf (.intersection (.folded (.single letter)) (.range 0 0x7F)))
    else none
  else some (.oneOf (.single letter))

def anyCharacter (flags : PatternFlags) : CharClass :=
  if flags.dotMatchesNewline then .any
  else if flags.carriageReturns then .complement (.ofRanges [('\n', '\n'), ('\r', '\r')])
  else .complement (.single '\n')

def orRefuse {α : Type} : Option α → PatternReader α
  | some value => return value
  | none => refuse

/-- An item that is neither a group nor a class in brackets. -/
def primitive : PatternReader Pattern := do
  let flags ← flags
  match ← next with
  | '\\' =>
    match ← escape with
    | .character letter =>
      if flags.unicode ∨ letter.toNat < 128 then orRefuse (characterPattern flags letter) else refuse
    | .set found => return .oneOf found
    | .look condition => return .look condition
  | '.' => if flags.unicode then return .oneOf (anyCharacter flags) else refuse
  | '^' =>
    return .look (if flags.multiLine then .lineStart flags.carriageReturns else .textStart)
  | '$' =>
    return .look (if flags.multiLine then .lineEnd flags.carriageReturns else .textEnd)
  | letter => orRefuse (characterPattern flags letter)

/-- The sign for as few repetitions as possible, which changes nothing about whether there is a match. -/
def skipLazySign : PatternReader Unit := do
  if (← peek) = some '?' then drop 1

/-- Bounds of a repetition, after the opening brace and up to the closing one. -/
def repetitionBounds : PatternReader (Nat × Option Nat) := do
  let least ← decimal
  match ← peek with
  | some ',' =>
    pass
    match ← peek with
    | some '\x7d' => return (← orRefuse least, none)
    | _ =>
      let least ← orRefuse least
      let most ← orRefuse (← decimal)
      if least ≤ most then return (least, some most) else refuse
  | _ =>
    let count ← orRefuse least
    return (count, some count)

/-- Bounds of a repetition that begins with this sign; the sign is still next. -/
def repetition (sign : Char) : PatternReader (Nat × Option Nat) := do
  match sign with
  | '?' =>
    drop 1
    skipLazySign
    return (0, some 1)
  | '*' =>
    drop 1
    skipLazySign
    return (0, none)
  | '+' =>
    drop 1
    skipLazySign
    return (1, none)
  | _ =>
    pass
    let bounds ← repetitionBounds
    if (← peek) ≠ some '\x7d' then refuse
    else
      pass
      skipLazySign
      return bounds

/-- Branches up to the end of the group or of the text. `items` are those of the current branch and
`branches` the finished ones, both last first. -/
def body : (fuel : Nat) → (items : List (Option Piece)) → (branches : List Piece) → PatternReader Piece
  | 0, _, _ => refuse
  | fuel + 1, items, branches => do
    space
    let flags ← flags
    match ← peek with
    | none | some ')' => return .eitherOf (.appendAll items :: branches)
    | some '|' =>
      drop 1
      body fuel [] (.appendAll items :: branches)
    | some '(' =>
      drop 1
      match ← groupStart with
      | .flags inner =>
        setFlags inner
        body fuel (none :: items) branches
      | .group inner =>
        setFlags inner
        let piece ← body fuel [] []
        setFlags flags
        expect ')'
        body fuel (some ⟨piece.pattern, piece.depth + 1⟩ :: items) branches
    | some '[' =>
      drop 1
      let (negated, started) ← classStart
      let piece ← classBody ((← get).rest.length + 1) negated started none
      body fuel (some ⟨.oneOf piece.set, piece.depth⟩ :: items) branches
    | some sign =>
      if sign ∈ ['?', '*', '+', '\x7b'] then
        match items with
        | some piece :: before =>
          let (least, most) ← repetition sign
          body fuel (some (piece.repeated least most) :: before) branches
        | _ => refuse
      else
        let pattern ← primitive
        body fuel (some ⟨pattern, 0⟩ :: items) branches

end PatternReader

namespace Pattern

/-- How deep the parts of a pattern may nest. -/
def maxDepth : Nat := 250

/-- How large a compiled pattern may be. -/
def maxSize : Nat := 327680

/-- The pattern that a whole text describes. -/
def parse? (text : List Char) : Option Pattern :=
  match (PatternReader.body (text.length + 1) [] []) { rest := text } with
  | some (piece, state) =>
    if state.rest.isEmpty ∧ piece.depth ≤ maxDepth ∧ piece.pattern.size ≤ maxSize then
      some piece.pattern
    else none
  | none => none

end Pattern

end Unannotate
