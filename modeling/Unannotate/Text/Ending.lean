import Unannotate.ArtifactKind
import Unannotate.Text.Utf8

/-!
Ends of names as they are looked up in memory.

A name in memory is its UTF-8. Whether it ends in a suffix is found from as many of its last bytes as the
suffix has: when they begin between two characters the name is cut there, and what is cut off is compared
with the suffix byte by byte, up to the case of ASCII letters. Cutting a name anywhere else would end the
program.
-/
set_option autoImplicit false

namespace Unannotate

namespace Utf8

/-- Whether a place is the front or the end of the bytes, or in front of a byte that begins a character. -/
def isBoundary (bytes : Bytes) (place : Nat) : Bool :=
  if place = 0 then true
  else
    match bytes[place]? with
    | some byte => ¬ (0x80 ≤ byte ∧ byte < 0xC0)
    | none => place = bytes.length

/-- The characters from a place in their bytes on; none where it is inside of one or behind all of them. -/
def cut? : List Char → Nat → Option (List Char)
  | chars, 0 => some chars
  | [], _ + 1 => none
  | char :: rest, place =>
    if char.utf8Size ≤ place then cut? rest (place - char.utf8Size) else none

/-- A capital of the ASCII alphabet made small. -/
def lowerByte (byte : UInt8) : UInt8 := if 0x41 ≤ byte ∧ byte ≤ 0x5A then byte + 0x20 else byte

end Utf8

/-- Whether a name in memory ends in a suffix. None where the program ends. -/
def hasEnding? (suffix name : String) : Option Bool :=
  let bytes := Utf8.encode name
  let wanted := Utf8.encode suffix
  if wanted.length ≤ bytes.length ∧ Utf8.isBoundary bytes (bytes.length - wanted.length) then do
    let back ← Utf8.cut? name.toList (bytes.length - wanted.length)
    return (Utf8.encode (String.ofList back)).map Utf8.lowerByte == wanted.map Utf8.lowerByte
  else some false

def hasClassEnding? (name : String) : Option Bool := hasEnding? ".class" name

/-- The suffixes are tried in turn, until the name ends in one. -/
def hasArchiveEnding? (name : String) : Option Bool :=
  [".jar", ".war", ".ear", ".zip"].anyM (hasEnding? · name)

end Unannotate
