import Unannotate.Bytes
import Unannotate.Text.Utf8

/-!
Percent encoding in the parts of a URL.

Each part has a set of characters that are not written as they are. Such a character is replaced by the
bytes of its UTF-8 form, each as a percent sign and two digits. A percent sign itself stays, so encoding a
second time changes nothing.
-/
set_option autoImplicit false

namespace Unannotate.Percent

/-- Controls and all that is not ASCII are encoded everywhere. -/
def control (character : Char) : Bool := character < ' ' || '~' < character

def fragment (character : Char) : Bool :=
  control character || " \"<>\x60".toList.contains character

def query (character : Char) : Bool := control character || " \"#<>'".toList.contains character

def path (character : Char) : Bool :=
  fragment character || "#?^\x7b\x7d".toList.contains character

def userInfo (character : Char) : Bool := path character || "/:;=@[\\]|".toList.contains character

def encodeByte (byte : UInt8) : List Char :=
  ['%', (Nat.digitChar (byte.toNat / 16)).toUpper, (Nat.digitChar (byte.toNat % 16)).toUpper]

def encodeChar (set : Char → Bool) (character : Char) : List Char :=
  if set character then (Utf8.encode (String.singleton character)).flatMap encodeByte
  else [character]

def encode (set : Char → Bool) (text : List Char) : List Char := text.flatMap (encodeChar set)

def hexValue? (digit : Char) : Option Nat :=
  if digit.isDigit then some (digit.toNat - '0'.toNat)
  else if 'a' ≤ digit ∧ digit ≤ 'f' then some (digit.toNat - 'a'.toNat + 10)
  else if 'A' ≤ digit ∧ digit ≤ 'F' then some (digit.toNat - 'A'.toNat + 10)
  else none

/-- The bytes that a text stands for; a percent sign without two digits stands for itself. -/
def decode : List Char → Bytes
  | '%' :: high :: low :: rest =>
    match hexValue? high, hexValue? low with
    | some upper, some lower => UInt8.ofNat (upper * 16 + lower) :: decode rest
    | _, _ => '%'.toNat.toUInt8 :: decode (high :: low :: rest)
  | character :: rest => Utf8.encode (String.singleton character) ++ decode rest
  | [] => []

theorem encode_eq_self {set : Char → Bool} {text : List Char}
    (plain : ∀ character ∈ text, set character = false) : encode set text = text := by
  induction text with
  | nil => rfl
  | cons first rest ih =>
    have head : encodeChar set first = [first] := by
      simp [encodeChar, plain first (by simp)]
    simp only [encode, List.flatMap_cons, head] at ih ⊢
    simp only [List.cons_append, List.nil_append]
    rw [ih fun character member => plain character (by simp [member])]

end Unannotate.Percent
