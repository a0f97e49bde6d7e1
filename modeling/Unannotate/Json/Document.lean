import Unannotate.Json.Number

/-!
JSON texts as far as they can be read.

Reading never fails as a whole: where the text breaks a rule, the value at that place is `broken`, or an
array or object is not `closed`. What comes before the fault is there to be looked at, so whoever takes a
document apart in order meets the fault, or a value it does not want, whichever comes first. Members of
an object keep their order and repeats.
-/
set_option autoImplicit false

namespace Unannotate

inductive Json
  | null
  | bool (value : Bool)
  | number (text : NumberText)
  /-- None for an escape that stands for no character. -/
  | string (value : Option String)
  | array (items : List Json) (closed : Bool)
  | object (members : List (Option String × Json)) (closed : Bool)
  | broken
  deriving Repr

namespace Json

/-! ## Reading -/

def isSpace (character : Char) : Bool := character ∈ [' ', '\n', '\t', '\r']

def skipSpace (text : List Char) : List Char := text.dropWhile isSpace

def hexDigit? (digit : Char) : Option Nat :=
  if digit.isDigit then some (digit.toNat - 48)
  else if 'a' ≤ digit ∧ digit ≤ 'f' then some (digit.toNat - 87)
  else if 'A' ≤ digit ∧ digit ≤ 'F' then some (digit.toNat - 55)
  else none

def hexUnit? (first second third fourth : Char) : Option Nat := do
  return (((← hexDigit? first) * 16 + (← hexDigit? second)) * 16 + (← hexDigit? third)) * 16
    + (← hexDigit? fourth)

/-- A character as it stands, or a 16-bit unit given by its number. -/
inductive StringPart
  | character (value : Char)
  | unit (value : Nat)

def simpleEscape? (letter : Char) : Option Char :=
  match letter with
  | '"' => some '"'
  | '\\' => some '\\'
  | '/' => some '/'
  | 'b' => some '\x08'
  | 'f' => some '\x0c'
  | 'n' => some '\n'
  | 'r' => some '\r'
  | 't' => some '\t'
  | _ => none

/-- Parts of a string after its opening quote, and the text behind its closing one. -/
def stringParts : List Char → Option (List StringPart × List Char)
  | [] => none
  | '"' :: rest => some ([], rest)
  | '\\' :: 'u' :: first :: second :: third :: fourth :: rest =>
    match hexUnit? first second third fourth, stringParts rest with
    | some value, some (parts, behind) => some (.unit value :: parts, behind)
    | _, _ => none
  | '\\' :: letter :: rest =>
    match simpleEscape? letter, stringParts rest with
    | some value, some (parts, behind) => some (.character value :: parts, behind)
    | _, _ => none
  | letter :: rest =>
    if letter = '\\' ∨ letter.toNat < 32 then none
    else (stringParts rest).map fun (parts, behind) => (.character letter :: parts, behind)

/-- Surrogate units have to come in pairs. -/
def stringCharacters : List StringPart → Option (List Char)
  | [] => some []
  | .character value :: rest => (stringCharacters rest).map (value :: ·)
  | [.unit value] =>
    if 0xD800 ≤ value ∧ value ≤ 0xDFFF then none else some [Char.ofNat value]
  | .unit value :: next :: rest =>
    if 0xDC00 ≤ value ∧ value ≤ 0xDFFF then none
    else if 0xD800 ≤ value ∧ value ≤ 0xDBFF then
      match next with
      | .unit low =>
        if 0xDC00 ≤ low ∧ low ≤ 0xDFFF then
          (stringCharacters rest).map fun others =>
            Char.ofNat (0x10000 + (value - 0xD800) * 0x400 + (low - 0xDC00)) :: others
        else none
      | .character _ => none
    else (stringCharacters (next :: rest)).map fun others => Char.ofNat value :: others

/-- A string after its opening quote. -/
def readString (text : List Char) : Option (Option String × List Char) :=
  (stringParts text).map fun (parts, behind) => ((stringCharacters parts).map String.ofList, behind)

def digitsOf (text : List Char) : List Char × List Char :=
  (text.takeWhile Char.isDigit, text.dropWhile Char.isDigit)

/-- A fraction with at least one digit, if there is a point. -/
def readFraction (text : List Char) : Option (Option (List Char) × List Char) :=
  match text with
  | '.' :: rest =>
    let (digits, behind) := digitsOf rest
    if digits.isEmpty then none else some (some digits, behind)
  | _ => some (none, text)

def readExponentDigits (down : Bool) (text : List Char) :
    Option (Option (Bool × List Char) × List Char) :=
  let (digits, behind) := digitsOf text
  if digits.isEmpty then none else some (some (down, digits), behind)

def readExponent (text : List Char) : Option (Option (Bool × List Char) × List Char) :=
  match text with
  | letter :: rest =>
    if letter = 'e' ∨ letter = 'E' then
      match rest with
      | '+' :: rest => readExponentDigits false rest
      | '-' :: rest => readExponentDigits true rest
      | rest => readExponentDigits false rest
    else some (none, text)
  | [] => some (none, [])

/-- A number after its sign. Zeros in front are refused. -/
def readNumber (negative : Bool) (text : List Char) : Option (Json × List Char) := do
  let (whole, behind) := digitsOf text
  if whole.isEmpty ∨ (whole.head? = some '0' ∧ 1 < whole.length) then none
  else
    let (fraction, behind) ← readFraction behind
    let (exponent, behind) ← readExponent behind
    return (.number { negative, whole, fraction, exponent }, behind)

def readWord (word : String) (value : Json) (text : List Char) : Option (Json × List Char) :=
  if word.toList.isPrefixOf text then some (value, text.drop word.length) else none

/-- A value that is neither array nor object. -/
def readPlain (text : List Char) : Option (Json × List Char) :=
  match text with
  | '"' :: rest => (readString rest).map fun (value, behind) => (.string value, behind)
  | '-' :: rest => readNumber true rest
  | 'n' :: _ => readWord "null" .null text
  | 't' :: _ => readWord "true" (.bool true) text
  | 'f' :: _ => readWord "false" (.bool false) text
  | _ => readNumber false text

/-- A member's name with the colon behind it; the text is none when the colon is missing. -/
def readKey (text : List Char) : Option (Option String × Option (List Char)) :=
  match text with
  | '"' :: rest =>
    (readString rest).map fun (key, behind) =>
      match skipSpace behind with
      | ':' :: value => (key, some value)
      | _ => (key, none)
  | _ => none

mutual

/-- A value and the text behind it; no text is left where reading stopped at a fault. -/
def read : (fuel : Nat) → List Char → Json × Option (List Char)
  | 0, _ => (broken, none)
  | fuel + 1, text =>
    match skipSpace text with
    | '[' :: rest =>
      match skipSpace rest with
      | ']' :: behind => (array [] true, some behind)
      | _ =>
        let (items, behind) := readItems fuel rest
        (array items behind.isSome, behind)
    | '\x7b' :: rest =>
      match skipSpace rest with
      | '\x7d' :: behind => (object [] true, some behind)
      | _ =>
        let (members, behind) := readMembers fuel rest
        (object members behind.isSome, behind)
    | text =>
      match readPlain text with
      | some (value, behind) => (value, some behind)
      | none => (broken, none)

/-- Items up to the closing bracket. -/
def readItems : (fuel : Nat) → List Char → List Json × Option (List Char)
  | 0, _ => ([], none)
  | fuel + 1, text =>
    match read fuel text with
    | (item, none) => ([item], none)
    | (item, some behind) =>
      match skipSpace behind with
      | ']' :: behind => ([item], some behind)
      | ',' :: rest =>
        if (skipSpace rest).head? = some ']' then ([item], none)
        else
          let (items, behind) := readItems fuel rest
          (item :: items, behind)
      | _ => ([item], none)

/-- Members up to the closing brace. -/
def readMembers : (fuel : Nat) → List Char → List (Option String × Json) × Option (List Char)
  | 0, _ => ([], none)
  | fuel + 1, text =>
    match readKey (skipSpace text) with
    | none => ([], none)
    | some (key, none) => ([(key, broken)], none)
    | some (key, some text) =>
      match read fuel text with
      | (value, none) => ([(key, value)], none)
      | (value, some behind) =>
        match skipSpace behind with
        | '\x7d' :: behind => ([(key, value)], some behind)
        | ',' :: rest =>
          let (members, behind) := readMembers fuel rest
          ((key, value) :: members, behind)
        | _ => ([(key, value)], none)

end

/-- The first value of a text; what follows it is ignored. -/
def ofText (text : String) : Json := (read (2 * text.length + 2) text.toList).1

end Json

end Unannotate
