import Unannotate.Decimal.Shortest

/-!
Numbers of JSON texts.

A whole number that fits 64 bits is an integer. Every other number is a double: the first digits, as many
as fit 64 bits, scaled once by a power of ten. A number beyond the range of doubles is none.
-/
set_option autoImplicit false

namespace Unannotate

/-- A number as it is written. -/
structure NumberText where
  negative : Bool
  whole : List Char
  fraction : Option (List Char)
  /-- Whether the exponent is negative, and its digits. -/
  exponent : Option (Bool × List Char)
  deriving DecidableEq, Repr

inductive NumberValue
  | integer (value : Int)
  | double (value : Float)

namespace NumberText

def maxSignificand : Nat := 18446744073709551615

def digitValue (digit : Char) : Nat := digit.toNat - 48

/-- Takes digits into a significand for as long as it fits, and says which digits are left. -/
def gather : (significand : Nat) → List Char → Nat × List Char
  | significand, [] => (significand, [])
  | significand, digit :: rest =>
    if maxSignificand < significand * 10 + digitValue digit then (significand, digit :: rest)
    else gather (significand * 10 + digitValue digit) rest

/-- Powers of ten up to `10 ^ 308` scale in one step; a smaller number is scaled down in several. -/
def scaleDown : (fuel : Nat) → (value : Float) → (exponent : Nat) → Float
  | 0, value, _ => value
  | fuel + 1, value, exponent =>
    if exponent ≤ 308 then value / Float.ofScientific 1 false exponent
    else if value == 0 then value
    else scaleDown fuel (value / Float.ofScientific 1 false 308) (exponent - 308)

def scale (significand : Nat) (exponent : Int) : Option Float :=
  let value := (UInt64.ofNat significand).toFloat
  if exponent < 0 then some (scaleDown (exponent.natAbs / 308 + 1) value exponent.natAbs)
  else if 308 < exponent then if value == 0 then some value else none
  else
    let scaled := value * Float.ofScientific 1 false exponent.toNat
    if scaled.isInf then none else some scaled

/-- Exponents are counted up to the largest of 32 bits. -/
def maxExponent : Nat := 2147483647

def saturate (exponent : Int) : Int := max (-2147483648) (min exponent 2147483647)

def signed (negative : Bool) (value : Float) : NumberValue :=
  .double (if negative then -value else value)

def value? (text : NumberText) : Option NumberValue :=
  let (whole, wholeLeft) := gather 0 text.whole
  match text.fraction, text.exponent, wholeLeft with
  | none, none, [] =>
    if !text.negative then some (.integer whole)
    else if whole = 0 ∨ 9223372036854775808 < whole then
      some (.double (-(UInt64.ofNat whole).toFloat))
    else some (.integer (-(whole : Int)))
  | fraction, exponent, _ =>
    let digits := fraction.getD []
    let (significand, digitsLeft) := gather whole digits
    let start : Int := (wholeLeft.length : Int) - ((digits.length - digitsLeft.length : Nat) : Int)
    match exponent with
    | none => (scale significand start).map (signed text.negative)
    | some (down, exponentDigits) =>
      let size := exponentDigits.foldl (fun total digit => total * 10 + digitValue digit) 0
      if maxExponent < size then
        if significand ≠ 0 ∧ !down then none else some (signed text.negative 0)
      else
        (scale significand (saturate (if down then start - size else start + size))).map
          (signed text.negative)

end NumberText

namespace NumberValue

/-- The shortest digits that read back, always positional and with a decimal point. -/
def doubleText (value : Float) : String :=
  match FloatFormat.double.value value.toBits.toNat with
  | .notANumber => "NaN"
  | .infinite negative => if negative then "-inf" else "inf"
  | .finite negative significand power narrow =>
    let body := (Decimal.shortest significand power narrow).trimmed.positional
    if negative then "-" ++ body else body

end NumberValue

end Unannotate
