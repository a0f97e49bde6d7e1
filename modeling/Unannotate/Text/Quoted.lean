import Unannotate.Text.Hexadecimal
import Unannotate.Unicode.Property

/-!
Text in double quotes, as messages show names and patterns.

A quote, a backslash, the usual control characters and whatever has no printed form are escaped; every
other character stands for itself.
-/
set_option autoImplicit false

namespace Unannotate.Text

def quotedChar (character : Char) : List Char :=
  match character with
  | '\x00' => ['\\', '0']
  | '\t' => ['\\', 't']
  | '\r' => ['\\', 'r']
  | '\n' => ['\\', 'n']
  | '\\' => ['\\', '\\']
  | '"' => ['\\', '"']
  | other =>
    if Unicode.isPrintable other then [other]
    else ['\\', 'u', '\x7b'] ++ hexDigits other.toNat ++ ['\x7d']

def quoted (text : String) : String :=
  String.ofList ('"' :: text.toList.flatMap quotedChar ++ ['"'])

end Unannotate.Text
