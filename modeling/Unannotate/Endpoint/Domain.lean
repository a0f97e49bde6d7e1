import Unannotate.Endpoint.Percent
import Unannotate.Text.Punycode
import Unannotate.Unicode.CaseFolding
import Unannotate.Unicode.Property

/-!
Domain names in ASCII form.

Letters are folded to lower case, the full stops of other scripts separate labels too, and characters that
are ignored in names are left out. A label with characters beyond ASCII is written in Punycode behind
`xn--`. A label that is written so, given or made, has to decode to characters that a name may hold.
-/
set_option autoImplicit false

namespace Unannotate.Domain

/-- ASCII characters that no host name holds. -/
def isForbidden (character : Char) : Bool :=
  character ≤ ' ' || character = '\x7F' || "#%/:<>?@[\\]^|".toList.contains character

def fullStops : List Char := ['\u3002', '\uFF0E', '\uFF61']

/-- Whether a character beyond ASCII is left out of names. -/
def isIgnored (character : Char) : Bool :=
  character = '\u00AD' || character = '\u200B' || character = '\u2060' || character = '\uFEFF'
    || Unicode.variationSelector.contains character

/-- What a character becomes in a name. -/
def mapChar (character : Char) : List Char :=
  if character.toNat < 0x80 then [character.toLower]
  else if fullStops.contains character then ['.']
  else if isIgnored character then []
  else if '\uFF01' ≤ character ∧ character ≤ '\uFF5E' then
    [(Char.ofNat (character.toNat - 0xFEE0)).toLower]
  else if character = 'ς' then ['ς']
  else [Char.ofNat (Unicode.foldPoint character.toNat)]

/-- Whether a mapped character may be in a name. -/
def isAllowed (character : Char) : Bool :=
  if character.toNat < 0x80 then !isForbidden character
  else !Unicode.other.contains character && !Unicode.separator.contains character

def aceMark : List Char := "xn--".toList

/-- Whether the code behind `xn--` stands for a label that needs it. -/
def isValidCode (code : List Char) : Bool :=
  match Text.Punycode.decode? code with
  | none => false
  | some label =>
    !label.all Text.Punycode.isBasic
      && label.all (fun character => isAllowed character && mapChar character == [character])
      && (label.head?.map (Unicode.mark.contains ·)) == some false

/-- The ASCII form of a label. -/
def asciiLabel? (label : List Char) : Option (List Char) :=
  let form :=
    if label.all Text.Punycode.isBasic then label else aceMark ++ Text.Punycode.encode label
  if aceMark.isPrefixOf form && !isValidCode (form.drop aceMark.length) then none else some form

/-- The ASCII form of a name; none when it is no name. -/
def ascii? (name : List Char) : Option (List Char) :=
  let mapped := name.flatMap mapChar
  if mapped.all isAllowed then
    ((mapped.splitOn '.').mapM asciiLabel?).map ['.'].intercalate
  else none

end Unannotate.Domain
