/-!
Numbers in base sixteen, as messages show them.
-/
set_option autoImplicit false

namespace Unannotate.Text

/-- Digits of a number, lower case, without leading zeros. -/
def hexDigits (value : Nat) : List Char := Nat.toDigits 16 value

/-- At least `width` digits, lower case, filled with zeros. -/
def hexPadded (width value : Nat) : String :=
  String.ofList (List.leftpad width '0' (hexDigits value))

/-- At least `width` digits, upper case, filled with zeros. -/
def hexPaddedUpper (width value : Nat) : String :=
  String.ofList ((List.leftpad width '0' (hexDigits value)).map Char.toUpper)

end Unannotate.Text
