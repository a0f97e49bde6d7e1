import Unannotate.Json.Document
import Unannotate.Text.Quoted

/-!
Taking a JSON document apart in order.

A decoder either finds what it wants, or reports a mismatch, or meets a place where the text could not be
read; either way the fault has the path to the value that was taken apart. Mismatches are causes; their
wording is in `Mismatch.message`. The parameter `ε` is for rules that the decoded values themselves break.
-/
set_option autoImplicit false

namespace Unannotate

inductive PathSegment
  | key (name : String)
  | index (position : Nat)
  deriving DecidableEq, Repr

/-- Keys joined by dots, positions in brackets; a lone dot for the whole document. -/
def pathText (path : List PathSegment) : String :=
  match path with
  | [] => "."
  | _ =>
    let segment (first : Bool) : PathSegment → String
      | .key name => if first then name else "." ++ name
      | .index position => s!"[{position}]"
    String.join ((path.zipIdx).map fun item => segment (item.2 = 0) item.1)

inductive Mismatch (ε : Type)
  | type (found expected : String)
  | length (found : Nat) (expected : String)
  | unknownField (name : String) (known : List String)
  | unknownVariant (name : String) (known : List String)
  | missingField (name : String)
  | duplicateField (name : String)
  /-- None of the shapes that a value may have. -/
  | noShape (name : String)
  | rule (fault : ε)
  deriving DecidableEq, Repr

namespace Mismatch

def ticked (name : String) : String := "\x60" ++ name ++ "\x60"

def expectation (known : List String) : String :=
  match known with
  | [first, second] => ticked first ++ " or " ++ ticked second
  | _ => "one of " ++ ", ".intercalate (known.map ticked)

def message {ε : Type} (ruleMessage : ε → String) : Mismatch ε → String
  | type found expected => s!"invalid type: {found}, expected {expected}"
  | length found expected => s!"invalid length {found}, expected {expected}"
  | unknownField name known => s!"unknown field {ticked name}, expected {expectation known}"
  | unknownVariant name known => s!"unknown variant {ticked name}, expected {expectation known}"
  | missingField name => "missing field " ++ ticked name
  | duplicateField name => "duplicate field " ++ ticked name
  | noShape name => "data did not match any variant of untagged enum " ++ name
  | rule fault => ruleMessage fault

end Mismatch

inductive DecodingFault (ε : Type)
  /-- The text is not what JSON allows, or not what a value of this shape allows. -/
  | unreadable (path : List PathSegment)
  | mismatch (path : List PathSegment) (reason : Mismatch ε)
  deriving DecidableEq, Repr

namespace DecodingFault

variable {ε : Type}

def path : DecodingFault ε → List PathSegment
  | unreadable path | mismatch path _ => path

/-- The fault of a value inside of another one. -/
def within (segment : PathSegment) : DecodingFault ε → DecodingFault ε
  | unreadable path => unreadable (segment :: path)
  | mismatch path reason => mismatch (segment :: path) reason

theorem path_within (segment : PathSegment) (fault : DecodingFault ε) :
    (fault.within segment).path = segment :: fault.path := by
  cases fault <;> rfl

end DecodingFault

namespace Json

variable {ε α : Type}

def mismatch (reason : Mismatch ε) : Except (DecodingFault ε) α := .error (.mismatch [] reason)

def unreadable : Except (DecodingFault ε) α := .error (.unreadable [])

/-- Puts a segment in front of the path of a fault. -/
def within (segment : PathSegment) (result : Except (DecodingFault ε) α) :
    Except (DecodingFault ε) α :=
  result.mapError (·.within segment)

/-- How a value of a wrong type is called; none when it cannot be read. -/
def shape? : Json → Option String
  | null => some "null"
  | bool value => some ("boolean " ++ Mismatch.ticked (toString value))
  | number text =>
    match text.value? with
    | some (.integer value) => some ("integer " ++ Mismatch.ticked (toString value))
    | some (.double value) => some ("floating point " ++ Mismatch.ticked (NumberValue.doubleText value))
    | none => none
  | string (some value) => some ("string " ++ Text.quoted value)
  | string none => none
  | array _ _ => some "sequence"
  | object _ _ => some "map"
  | broken => none

def wrongType (expected : String) (value : Json) : Except (DecodingFault ε) α :=
  match value.shape? with
  | some found => mismatch (.type found expected)
  | none => unreadable

def decodeString (expected : String) : Json → Except (DecodingFault ε) String
  | string (some value) => .ok value
  | value => wrongType expected value

def decodeBool : Json → Except (DecodingFault ε) Bool
  | bool value => .ok value
  | value => wrongType "a boolean" value

/-- Null stands for nothing. -/
def decodeOption (decode : Json → Except (DecodingFault ε) α) :
    Json → Except (DecodingFault ε) (Option α)
  | null => .ok none
  | value => (decode value).map some

def decodeItems (decode : Json → Except (DecodingFault ε) α) (position : Nat) :
    List Json → Except (DecodingFault ε) (List α)
  | [] => .ok []
  | item :: rest => do
    let first ← within (.index position) (decode item)
    let others ← decodeItems decode (position + 1) rest
    return first :: others

/-- A list, its items in order and then its end. -/
def decodeList (decode : Json → Except (DecodingFault ε) α) :
    Json → Except (DecodingFault ε) (List α)
  | array items closed => do
    let values ← decodeItems decode 0 items
    if closed then .ok values else unreadable
  | value => wrongType "a sequence" value

mutual

/-- Whether a value was read to its end. -/
def isWhole : Json → Bool
  | array items closed => closed && areWhole items
  | object members closed => closed && membersAreWhole members
  | broken => false
  | _ => true

def areWhole : List Json → Bool
  | [] => true
  | item :: rest => item.isWhole && areWhole rest

def membersAreWhole : List (Option String × Json) → Bool
  | [] => true
  | (_, value) :: rest => value.isWhole && membersAreWhole rest

end

/-- A value that nobody looks at, but that has to be there. -/
def skipValue (value : Json) : Except (DecodingFault ε) Unit :=
  if value.isWhole then .ok () else unreadable

/-- One of a few words, written as a string or as the only key of an object with a null. -/
def decodeWord (known : List (String × α)) : Json → Except (DecodingFault ε) α
  | string (some word) => choose word
  | object ((some word, value) :: others) closed => do
    let chosen ← choose word
    within (.key word) <|
      match value with
      | null => .ok ()
      | value => wrongType "unit" value
    if closed ∧ others.isEmpty then .ok chosen else unreadable
  | _ => unreadable
where
  choose (word : String) : Except (DecodingFault ε) α :=
    match known.find? (·.1 = word) with
    | some found => .ok found.2
    | none => mismatch (.unknownVariant word (known.map (·.1)))

end Json

end Unannotate
