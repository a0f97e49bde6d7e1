import Unannotate.Configuration.Basic
import Unannotate.Json.Decoding
import Unannotate.Text.Utf8

/-!
Configuration files.

A file is a JSON object of rules, strip flags and an overwrite switch, all of them optional. An object
may also be written as the array of its fields in order. Unknown fields are mistakes, except in a matcher,
where they are passed over.
-/
set_option autoImplicit false

namespace Unannotate

structure ConfigurationFile where
  rules : List RuleSpec := []
  flags : List StripFlag := []
  overwrite : Bool := false
  deriving DecidableEq, Repr

abbrev FileDecoder (α : Type) := Except (DecodingFault TargetsFault) α

namespace Json

/-! ## Objects written as arrays -/

/-- The item at a position, or what stands for a missing one. -/
def item {α : Type} (items : List Json) (closed : Bool) (position : Nat)
    (decode : Json → FileDecoder α) (missing : FileDecoder α) : FileDecoder α :=
  match items[position]? with
  | some value => within (.index position) (decode value)
  | none => if closed then missing else unreadable

/-- Nothing follows the first `count` items. -/
def endItems (items : List Json) (closed : Bool) (count : Nat) : FileDecoder Unit :=
  if items.length ≤ count ∧ closed then .ok () else unreadable

/-! ## Fields -/

/-- A field that has not been given before. -/
def freshField {α : Type} (field key : String) (before : Option α) (decode : Json → FileDecoder α)
    (value : Json) : FileDecoder (Option α) :=
  match before with
  | some _ => mismatch (.duplicateField field)
  | none => (within (.key key) (decode value)).map some

end Json

namespace MatcherKind

def words : List (String × MatcherKind) := [("literal", .literal), ("regex", .regex)]

def decode : Json → FileDecoder MatcherKind := Json.decodeWord words

end MatcherKind

namespace MatcherSpec

structure Fields where
  kind : Option MatcherKind := none
  value : Option String := none

def expected : String := "struct MatcherSpec"

def decodeValue : Json → FileDecoder String := Json.decodeString "a string"

def decodeMembers (fields : Fields) : List (Option String × Json) → FileDecoder Fields
  | [] => .ok fields
  | (none, _) :: _ => Json.unreadable
  | (some key, value) :: rest => do
    let fields ← match key with
      | "kind" => do
        pure { fields with kind := ← Json.freshField "kind" key fields.kind MatcherKind.decode value }
      | "value" => do
        pure { fields with value := ← Json.freshField "value" key fields.value decodeValue value }
      | _ => do
        Json.skipValue value
        pure fields
    decodeMembers fields rest

def ofFields (fields : Fields) : FileDecoder MatcherSpec :=
  match fields.kind, fields.value with
  | none, _ => Json.mismatch (.missingField "kind")
  | some _, none => Json.mismatch (.missingField "value")
  | some kind, some value => .ok ⟨kind, value⟩

def decode : Json → FileDecoder MatcherSpec
  | .object members closed => do
    let fields ← decodeMembers {} members
    if closed then ofFields fields else Json.unreadable
  | .array items closed => do
    let tooShort (count : Nat) {α : Type} : FileDecoder α :=
      Json.mismatch (.length count (expected ++ " with 2 elements"))
    let kind ← Json.item items closed 0 MatcherKind.decode (tooShort 0)
    let value ← Json.item items closed 1 decodeValue (tooShort 1)
    Json.endItems items closed 2
    return ⟨kind, value⟩
  | value => Json.wrongType expected value

end MatcherSpec

namespace Targets

mutual

/-- Whether a value can be read in full with at most `levels` arrays and objects nested in it. -/
def isReadable (levels : Nat) : Json → Bool
  | .null | .bool _ => true
  | .number text => text.value?.isSome
  | .string value => value.isSome
  | .array items closed =>
    match levels with
    | 0 => false
    | levels + 1 => closed && areReadable levels items
  | .object members closed =>
    match levels with
    | 0 => false
    | levels + 1 => closed && membersAreReadable levels members
  | .broken => false

def areReadable (levels : Nat) : List Json → Bool
  | [] => true
  | value :: rest => isReadable levels value && areReadable levels rest

def membersAreReadable (levels : Nat) : List (Option String × Json) → Bool
  | [] => true
  | (key, value) :: rest =>
    key.isSome && isReadable levels value && membersAreReadable levels rest

end

/-- A document nests at most 127 levels deep, and a rule's kinds stand at the third. -/
def maxLevels : Nat := 124

/-- The texts of a list that holds nothing else. -/
def names? : List Json → Option (List String)
  | [] => some []
  | .string (some name) :: rest => (names? rest).map (name :: ·)
  | _ :: _ => none

def ofNamesChecked (names : List String) : FileDecoder Targets :=
  match ofNames names with
  | .ok targets => .ok targets
  | .error fault => Json.mismatch (.rule fault)

/-- One name or a list of names. -/
def decode (value : Json) : FileDecoder Targets :=
  if isReadable maxLevels value then
    match value with
    | .string (some name) => ofNamesChecked [name]
    | .array items _ =>
      match names? items with
      | some names => ofNamesChecked names
      | none => Json.mismatch (.noShape "TargetsRepr")
    | _ => Json.mismatch (.noShape "TargetsRepr")
  else Json.unreadable

end Targets

namespace RuleSpec

structure Fields where
  matcher : Option (Option MatcherSpec) := none
  name : Option (Option String) := none
  regexp : Option (Option String) := none
  targets : Option Targets := none

def expected : String := "struct RuleSpec"

def known : List String := ["matcher", "name", "regexp", "elementKinds", "from"]

def decodeMatcher : Json → FileDecoder (Option MatcherSpec) := Json.decodeOption MatcherSpec.decode

def decodeText : Json → FileDecoder (Option String) :=
  Json.decodeOption (Json.decodeString "a string")

def decodeMembers (fields : Fields) : List (Option String × Json) → FileDecoder Fields
  | [] => .ok fields
  | (none, _) :: _ => Json.unreadable
  | (some key, value) :: rest => do
    let fields ← match key with
      | "matcher" => do
        pure { fields with
          matcher := ← Json.freshField "matcher" key fields.matcher decodeMatcher value }
      | "name" => do
        pure { fields with name := ← Json.freshField "name" key fields.name decodeText value }
      | "regexp" => do
        pure { fields with regexp := ← Json.freshField "regexp" key fields.regexp decodeText value }
      | "elementKinds" | "from" => do
        pure { fields with
          targets := ← Json.freshField "elementKinds" key fields.targets Targets.decode value }
      | _ => Json.within (.key key) (Json.mismatch (.unknownField key known))
    decodeMembers fields rest

def ofFields (fields : Fields) : RuleSpec :=
  { matcher := fields.matcher.join
    name := fields.name.join
    regexp := fields.regexp.join
    targets := fields.targets.getD .all }

def decode : Json → FileDecoder RuleSpec
  | .object members closed => do
    let fields ← decodeMembers {} members
    if closed then return ofFields fields else Json.unreadable
  | .array items closed => do
    let matcher ← Json.item items closed 0 decodeMatcher (.ok none)
    let name ← Json.item items closed 1 decodeText (.ok none)
    let regexp ← Json.item items closed 2 decodeText (.ok none)
    let targets ← Json.item items closed 3 Targets.decode (.ok .all)
    Json.endItems items closed 4
    return { matcher, name, regexp, targets }
  | value => Json.wrongType expected value

end RuleSpec

namespace StripFlag

def words : List (String × StripFlag) := all.map fun flag => (flag.spelling, flag)

def decode : Json → FileDecoder StripFlag := Json.decodeWord words

end StripFlag

namespace ConfigurationFile

structure Fields where
  rules : Option (List RuleSpec) := none
  flags : Option (List StripFlag) := none
  overwrite : Option Bool := none

def expected : String := "struct ConfigFile"

def known : List String := ["rules", "rewriteFlags", "overwrite"]

def decodeRules : Json → FileDecoder (List RuleSpec) := Json.decodeList RuleSpec.decode

def decodeFlags : Json → FileDecoder (List StripFlag) := Json.decodeList StripFlag.decode

def decodeMembers (fields : Fields) : List (Option String × Json) → FileDecoder Fields
  | [] => .ok fields
  | (none, _) :: _ => Json.unreadable
  | (some key, value) :: rest => do
    let fields ← match key with
      | "rules" => do
        pure { fields with rules := ← Json.freshField "rules" key fields.rules decodeRules value }
      | "rewriteFlags" => do
        pure { fields with
          flags := ← Json.freshField "rewriteFlags" key fields.flags decodeFlags value }
      | "overwrite" => do
        pure { fields with
          overwrite := ← Json.freshField "overwrite" key fields.overwrite Json.decodeBool value }
      | _ => Json.within (.key key) (Json.mismatch (.unknownField key known))
    decodeMembers fields rest

def ofFields (fields : Fields) : ConfigurationFile :=
  { rules := fields.rules.getD []
    flags := fields.flags.getD []
    overwrite := fields.overwrite.getD false }

def decode : Json → FileDecoder ConfigurationFile
  | .object members closed => do
    let fields ← decodeMembers {} members
    if closed then return ofFields fields else Json.unreadable
  | .array items closed => do
    let rules ← Json.item items closed 0 decodeRules (.ok [])
    let flags ← Json.item items closed 1 decodeFlags (.ok [])
    let overwrite ← Json.item items closed 2 Json.decodeBool (.ok false)
    Json.endItems items closed 3
    return { rules, flags, overwrite }
  | value => Json.wrongType expected value

/-- The configuration that a text holds. -/
def parse (text : String) : Except Failure ConfigurationFile :=
  match decode (Json.ofText text) with
  | .ok file => .ok file
  | .error fault => .error (.ofCause (.configuration (.text fault)))

/-- The configuration in a file's bytes, which have to be UTF-8. -/
def load (path : String) (data : Bytes) : Except Failure ConfigurationFile :=
  match Utf8.decode? data with
  | some text => whileDoing (.loading path) (parse text)
  | none => .error (Failure.ofCause .io |>.addContext (.reading path))

/-- The rules of a file, all of them valid. -/
def toRules (file : ConfigurationFile) : Except Failure (List Rule) := file.rules.mapM RuleSpec.toRule

def toFlags (file : ConfigurationFile) : StripFlags := .ofList file.flags

/-- The configuration of a file on its own. -/
def build (file : ConfigurationFile) : Except Failure Configuration := do
  let rules ← file.toRules
  Configuration.build rules file.toFlags

end ConfigurationFile

end Unannotate
