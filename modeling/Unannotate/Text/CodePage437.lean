import Unannotate.Bytes

/-!
Code page 437, in which archives write names unless they say otherwise. Its lower half is ASCII,
`decodeByte_ascii`.
-/
set_option autoImplicit false

namespace Unannotate.CodePage437

/-- Characters of the bytes from 0x80 on. -/
def upperHalf : List Char :=
  ("ÇüéâäàåçêëèïîìÄÅÉæÆôöòûùÿÖÜ¢£¥₧ƒ" ++ "áíóúñÑªº¿⌐¬½¼¡«»░▒▓│┤╡╢╖╕╣║╗╝╜╛┐" ++
    "└┴┬├─┼╞╟╚╔╩╦╠═╬╧╨╤╥╙╘╒╓╫╪┘┌█▄▌▐▀" ++ "αßΓπΣσµτΦΘΩδ∞φε∩≡±≥≤⌠⌡÷≈°∙·√ⁿ²■\u00a0").toList

def decodeByte (byte : UInt8) : Char :=
  if byte < 0x80 then Char.ofNat byte.toNat
  else upperHalf.getD (byte.toNat - 0x80) ' '

def decode (bytes : Bytes) : String := String.ofList (bytes.map decodeByte)

theorem decodeByte_ascii {byte : UInt8} (ascii : byte < 0x80) :
    decodeByte byte = Char.ofNat byte.toNat := if_pos ascii

end Unannotate.CodePage437
