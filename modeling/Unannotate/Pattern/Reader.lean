import Unannotate.Pattern.Basic
import Unannotate.Unicode.Script

/-!
State and single items of the pattern language.

A reader of pattern text keeps the rest of the text, the flags in force and the group names used so far.
It either finds an item or refuses the pattern; no reason is given.
-/
set_option autoImplicit false

namespace Unannotate

structure PatternFlags where
  ignoreCase : Bool := false
  multiLine : Bool := false
  dotMatchesNewline : Bool := false
  carriageReturns : Bool := false
  unicode : Bool := true
  /-- Blanks and comments between items are skipped. -/
  ignoreBlanks : Bool := false
  deriving DecidableEq, Repr

structure PatternState where
  rest : List Char
  flags : PatternFlags := {}
  names : List (List Char) := []

abbrev PatternReader := StateT PatternState Option

namespace PatternReader

def refuse {α : Type} : PatternReader α := fun _ => none

def isBlank (character : Char) : Bool := Unicode.whiteSpace.contains character

/-- Without blanks and comments in front; a comment runs from `#` to the end of the line. -/
def skipBlanks (inComment : Bool) : List Char → List Char
  | [] => []
  | character :: rest =>
    if inComment then skipBlanks (character ≠ '\n') rest
    else if isBlank character then skipBlanks false rest
    else if character = '#' then skipBlanks true rest
    else character :: rest

def flags : PatternReader PatternFlags := do return (← get).flags

def setFlags (flags : PatternFlags) : PatternReader Unit := modify fun state => { state with flags }

/-- Skips blanks and comments where the flags say so. -/
def space : PatternReader Unit := modify fun state =>
  if state.flags.ignoreBlanks then { state with rest := skipBlanks false state.rest } else state

def peek : PatternReader (Option Char) := do return (← get).rest.head?

/-- The character after the next one. -/
def peekSecond : PatternReader (Option Char) := do return (← get).rest.tail.head?

def drop (count : Nat) : PatternReader Unit := modify fun state =>
  { state with rest := state.rest.drop count }

/-- Passes one character and the blanks behind it. -/
def pass : PatternReader Unit := do
  drop 1
  space

/-- The next character, which is passed with nothing behind it. -/
def next : PatternReader Char := do
  match (← get).rest with
  | [] => refuse
  | character :: rest =>
    modify fun state => { state with rest }
    return character

def expect (wanted : Char) : PatternReader Unit := do
  if (← next) = wanted then return () else refuse

/-- Passes a text that is next, and says whether it was. -/
def skipText (text : List Char) : PatternReader Bool := do
  if text.isPrefixOf (← get).rest then
    drop text.length
    return true
  else
    return false

/-- The character after the next one and any blanks and comment signs between them. -/
def peekBehindBlanks : PatternReader (Option Char) := do
  let state ← get
  let behind := state.rest.tail
  if !state.flags.ignoreBlanks then return behind.head?
  match behind.dropWhile isBlank with
  | '#' :: comment =>
    return match comment.dropWhile isBlank with
      | [] => behind.head?
      | found :: _ => some found
  | [] => return behind.head?
  | found :: _ => return some found

/-! ## Numbers and escapes -/

/-- Digits for as long as there are any, with blanks behind each. -/
def digits : (fuel : Nat) → PatternReader (List Char)
  | 0 => return []
  | fuel + 1 => do
    match ← peek with
    | some digit =>
      if digit.isDigit then
        pass
        return digit :: (← digits fuel)
      else return []
    | none => return []

def decimalValue (digits : List Char) : Nat :=
  digits.foldl (fun total digit => total * 10 + (digit.toNat - 48)) 0

/-- Counts and code points fit 32 bits. -/
def limit : Nat := 4294967296

/-- A decimal number with blanks around it; none where there are no digits. -/
def decimal : PatternReader (Option Nat) := do
  modify fun state => { state with rest := state.rest.dropWhile isBlank }
  let found ← digits (← get).rest.length
  modify fun state => { state with rest := state.rest.dropWhile isBlank }
  if found.isEmpty then return none
  else if decimalValue found < limit then return some (decimalValue found)
  else refuse

def isHexDigit (character : Char) : Bool :=
  character.isDigit || ('a' ≤ character && character ≤ 'f') || ('A' ≤ character && character ≤ 'F')

def characterOf (hexDigits : List Char) : PatternReader Char :=
  let value := CodePointSet.hexNumber (hexDigits.map Char.toUpper)
  if value.isValidChar then return Char.ofNat value else refuse

def hexDigit : PatternReader Char := do
  match ← peek with
  | some digit => if isHexDigit digit then return digit else refuse
  | none => refuse

/-- Exactly `count` hexadecimal digits. -/
def hexFixed : (count : Nat) → PatternReader (List Char)
  | 0 => return []
  | count + 1 => do
    let digit ← hexDigit
    pass
    return digit :: (← hexFixed count)

/-- Hexadecimal digits up to a closing brace. -/
def hexBraced : (fuel : Nat) → PatternReader (List Char)
  | 0 => refuse
  | fuel + 1 => do
    match ← peek with
    | some '\x7d' =>
      pass
      return []
    | _ =>
      let digit ← hexDigit
      pass
      return digit :: (← hexBraced fuel)

/-- The code point of an escape, after the letter that says how many digits it has. -/
def hexEscape (count : Nat) : PatternReader Char := do
  pass
  match ← peek with
  | some '\x7b' =>
    pass
    let found ← hexBraced ((← get).rest.length + 1)
    if found.isEmpty then refuse else characterOf found
  | _ => do
    let found ← hexFixed count
    characterOf found

/-! ## Character classes by name -/

/-- A property name in lower case, without separators and without `is` in front; `isc` stays. -/
def normalizeName (name : List Char) : List Char :=
  let lowered := name.map Char.toLower
  let stripped := if ['i', 's'].isPrefixOf lowered then lowered.drop 2 else lowered
  let kept := stripped.filter fun letter => letter.toNat < 128 ∧ letter ∉ [' ', '_', '-']
  if stripped.length < lowered.length ∧ kept = ['c'] then ['i', 's', 'c'] else kept

def lookUp (tables : List (List String × CodePointSet)) (name : List Char) : Option CharClass :=
  (tables.find? fun entry => entry.1.contains (String.ofList name)).map fun entry => .table entry.2

def categoryClass? (name : List Char) : Option CharClass :=
  match String.ofList name with
  | "any" => some .any
  | "ascii" => some (.range 0 0x7F)
  | "assigned" => some (.table Unicode.assigned)
  | _ => lookUp Unicode.generalCategories name

/-- Abbreviations that name a category before a property. -/
def categoryFirst : List String := ["cf", "sc", "lc"]

/-- A property given by one name: a binary property, a general category or a script. -/
def namedClass? (name : List Char) : Option CharClass :=
  let name := normalizeName name
  let binary := if categoryFirst.contains (String.ofList name) then none
    else lookUp Unicode.binaryProperties name
  binary <|> categoryClass? name <|> lookUp Unicode.scripts name

/-- A property given by its name and a value. -/
def valuedClass? (name value : List Char) : Option CharClass :=
  match String.ofList (normalizeName name) with
  | "gc" | "generalcategory" => categoryClass? (normalizeName value)
  | "sc" | "script" => lookUp Unicode.scripts (normalizeName value)
  | _ => none

/-- What stands between the braces of a property. -/
def propertyClass? (text : List Char) : Option CharClass :=
  let before (mark : Char) := text.takeWhile (· ≠ mark)
  let bang := (text.zip text.tail).findIdx? (· = ('!', '='))
  match bang with
  | some at' => (valuedClass? (text.take at') (text.drop (at' + 2))).map .complement
  | none =>
    if ':' ∈ text then valuedClass? (before ':') (text.drop ((before ':').length + 1))
    else if '=' ∈ text then valuedClass? (before '=') (text.drop ((before '=').length + 1))
    else namedClass? text

/-- Characters up to a closing brace, with blanks skipped where the flags say so. -/
def bracedName : (fuel : Nat) → PatternReader (List Char)
  | 0 => refuse
  | fuel + 1 => do
    match ← peek with
    | none => refuse
    | some '\x7d' =>
      drop 1
      return []
    | some letter =>
      pass
      return letter :: (← bracedName fuel)

/-- Folds a class where case does not count; then negates it. Without Unicode a class holds ASCII
characters only, so a negated class is refused. -/
def finishClass (flags : PatternFlags) (negated : Bool) (found : CharClass) : PatternReader CharClass :=
  let cased := if flags.ignoreCase then
      if flags.unicode then CharClass.folded found
      else .intersection (.folded found) (.range 0 0x7F)
    else found
  if negated then
    if flags.unicode then return .complement cased else refuse
  else return cased

/-- A property class, after its letter. -/
def unicodeClass (negated : Bool) : PatternReader CharClass := do
  pass
  let flags ← flags
  let found ← match ← peek with
    | none => refuse
    | some '\x7b' => do
      pass
      let name ← bracedName ((← get).rest.length + 1)
      pure (propertyClass? name)
    | some '\\' => refuse
    | some letter => do
      pass
      pure (namedClass? [letter])
  match found with
  | some set => if flags.unicode then finishClass flags negated set else refuse
  | none => refuse

def asciiWord : CharClass := .ofRanges [('0', '9'), ('A', 'Z'), ('_', '_'), ('a', 'z')]

/-- The class that an escaped letter stands for. -/
def letterClass (letter : Char) (unicode : Bool) : CharClass :=
  match letter.toLower with
  | 'd' => if unicode then .table Unicode.decimalNumber else .ofRanges [('0', '9')]
  | 's' =>
    if unicode then .table Unicode.whiteSpace else .ofRanges [('\t', '\r'), (' ', ' ')]
  | _ => if unicode then .table Unicode.wordCharacter else asciiWord

/-- Classes with a name between `[:` and `:]`. -/
def asciiClass? (name : String) : Option CharClass :=
  match name with
  | "alnum" => some (.ofRanges [('0', '9'), ('A', 'Z'), ('a', 'z')])
  | "alpha" => some (.ofRanges [('A', 'Z'), ('a', 'z')])
  | "ascii" => some (.range 0 0x7F)
  | "blank" => some (.ofRanges [('\t', '\t'), (' ', ' ')])
  | "cntrl" => some (.ofRanges [('\x00', '\x1f'), ('\x7f', '\x7f')])
  | "digit" => some (.ofRanges [('0', '9')])
  | "graph" => some (.ofRanges [('!', '~')])
  | "lower" => some (.ofRanges [('a', 'z')])
  | "print" => some (.ofRanges [(' ', '~')])
  | "punct" => some (.ofRanges [('!', '/'), (':', '@'), ('[', '\x60'), ('\x7b', '~')])
  | "space" => some (.ofRanges [('\t', '\r'), (' ', ' ')])
  | "upper" => some (.ofRanges [('A', 'Z')])
  | "word" => some asciiWord
  | "xdigit" => some (.ofRanges [('0', '9'), ('A', 'F'), ('a', 'f')])
  | _ => none

/-! ## Escapes -/

/-- What one escape or one plain character stands for. -/
inductive Primitive
  | character (value : Char)
  | set (value : CharClass)
  | look (condition : Assertion)

def isNameLetter (letter : Char) : Bool := letter.isAlpha || letter = '-'

/-- Letters of the name of a boundary, with blanks behind each. -/
def boundaryName : (fuel : Nat) → PatternReader (List Char)
  | 0 => return []
  | fuel + 1 => do
    match ← peek with
    | some letter =>
      if isNameLetter letter then
        pass
        return letter :: (← boundaryName fuel)
      else return []
    | none => return []

/-- A word boundary, after `\b`. A brace behind it holds the name of a kind of boundary, or is the start
of a repetition and left alone. -/
def boundary (unicode : Bool) : PatternReader Assertion := do
  if (← peek) ≠ some '\x7b' then return .wordBoundary unicode
  let before ← get
  pass
  match ← peek with
  | none => refuse
  | some first =>
    if isNameLetter first then
      let name ← boundaryName (← get).rest.length
      expect '\x7d'
      match String.ofList name with
      | "start" => return .wordStart unicode
      | "end" => return .wordEnd unicode
      | "start-half" => return .wordStartHalf unicode
      | "end-half" => return .wordEndHalf unicode
      | _ => refuse
    else
      set before
      return .wordBoundary unicode

/-- An escape, after its backslash. -/
def escape : PatternReader Primitive := do
  let unicode := (← flags).unicode
  match ← peek with
  | none => refuse
  | some letter =>
    match letter with
    | 'x' => .character <$> hexEscape 2
    | 'u' => .character <$> hexEscape 4
    | 'U' => .character <$> hexEscape 8
    | 'p' => .set <$> unicodeClass false
    | 'P' => .set <$> unicodeClass true
    | 'd' | 's' | 'w' => do
      drop 1
      return .set (letterClass letter unicode)
    | 'D' | 'S' | 'W' => do
      drop 1
      if unicode then return .set (.complement (letterClass letter unicode)) else refuse
    | _ => do
      drop 1
      match letter with
      | 'a' => return .character '\x07'
      | 'f' => return .character '\x0c'
      | 't' => return .character '\t'
      | 'n' => return .character '\n'
      | 'r' => return .character '\r'
      | 'v' => return .character '\x0b'
      | 'A' => return .look .textStart
      | 'z' => return .look .textEnd
      | 'b' => .look <$> boundary unicode
      | 'B' => return .look (.noWordBoundary unicode)
      | '<' => return .look (.wordStart unicode)
      | '>' => return .look (.wordEnd unicode)
      | _ => if letter.toNat < 128 ∧ !letter.isAlphanum then return .character letter else refuse

end PatternReader

end Unannotate
