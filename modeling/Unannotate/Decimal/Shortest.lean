/-!
The shortest decimal that reads back as a binary floating point number.

A finite number is `significand · 2 ^ power`. All reals between the midpoints to its two neighbours round
to it, the midpoints themselves when the significand is even. `shortest` tries grids of 1, 2, … digits
and takes the first grid that has a point in that interval, and of two points the nearer one.
-/
set_option autoImplicit false

namespace Unannotate

/-- Widths of a binary floating point format. -/
structure FloatFormat where
  fractionBits : Nat
  exponentBits : Nat

def FloatFormat.single : FloatFormat := ⟨23, 8⟩

def FloatFormat.double : FloatFormat := ⟨52, 11⟩

inductive FloatValue
  | notANumber
  | infinite (negative : Bool)
  /-- The number `significand · 2 ^ power`; `narrow` says that the neighbour below is nearer. -/
  | finite (negative : Bool) (significand : Nat) (power : Int) (narrow : Bool)
  deriving DecidableEq, Repr

/-- The number that a word of the format stands for. -/
def FloatFormat.value (format : FloatFormat) (bits : Nat) : FloatValue :=
  let fraction := bits % Nat.pow 2 format.fractionBits
  let field := bits / Nat.pow 2 format.fractionBits % Nat.pow 2 format.exponentBits
  let negative := bits / Nat.pow 2 (format.fractionBits + format.exponentBits) % 2 = 1
  let offset : Int := (Nat.pow 2 (format.exponentBits - 1) - 1 + format.fractionBits : Nat)
  if field = Nat.pow 2 format.exponentBits - 1 then
    if fraction = 0 then .infinite negative else .notANumber
  else if field = 0 then .finite negative fraction (1 - offset) false
  else
    .finite negative (Nat.pow 2 format.fractionBits + fraction) ((field : Int) - offset)
      (fraction = 0 ∧ 1 < field)

/-- The number `digits · 10 ^ exponent`. -/
structure Decimal where
  digits : Nat
  exponent : Int
  deriving DecidableEq, Repr

namespace Decimal

def digitCount (value : Nat) : Nat := (Nat.toDigits 10 value).length

/-- The exponent `e` with `10 ^ (e - 1) ≤ numerator / denominator < 10 ^ e`. -/
def magnitude (numerator denominator : Nat) : Int :=
  if denominator ≤ numerator then digitCount (numerator / denominator)
  else 1 - (digitCount ((denominator - 1) / numerator) : Int)

def powerUp (base : Nat) (exponent : Int) : Nat := Nat.pow base exponent.toNat

/-- Half the distances to the neighbours below and above, over the common denominator `4 · 2 ^ -power`. -/
structure Interval where
  center : Nat
  below : Nat
  above : Nat
  denominator : Nat
  closed : Bool

def interval (significand : Nat) (power : Int) (narrow : Bool) : Interval :=
  let scale := powerUp 2 power
  { center := 4 * significand * scale
    below := (if narrow then 1 else 2) * scale
    above := 2 * scale
    denominator := 4 * powerUp 2 (-power)
    closed := significand % 2 = 0 }

/-- Whether `digits · 10 ^ exponent` rounds to the center. -/
def Interval.holds (area : Interval) (exponent : Int) (digits : Nat) : Bool :=
  let point := digits * powerUp 10 exponent * area.denominator
  let unit := powerUp 10 (-exponent)
  if point ≤ area.center * unit then
    let gap := area.center * unit - point
    if area.closed then gap ≤ area.below * unit else gap < area.below * unit
  else
    let gap := point - area.center * unit
    if area.closed then gap ≤ area.above * unit else gap < area.above * unit

/-- Digits of the center on the grid of an exponent, rounded down, and whether the next point is nearer. -/
def Interval.onGrid (area : Interval) (exponent : Int) : Nat × Bool :=
  let numerator := area.center * powerUp 10 (-exponent)
  let denominator := area.denominator * powerUp 10 exponent
  let down := numerator / denominator
  (down, denominator < 2 * (numerator - down * denominator))

/-- Tries the grids from `count` digits on. -/
def search (area : Interval) (magnitude : Int) : (fuel count : Nat) → Decimal
  | 0, count => ⟨(area.onGrid (magnitude - count)).1, magnitude - count⟩
  | fuel + 1, count =>
    let exponent := magnitude - count
    let (down, upNearer) := area.onGrid exponent
    let downHolds := area.holds exponent down
    let upHolds := area.holds exponent (down + 1)
    if upHolds ∧ (upNearer ∨ !downHolds) then ⟨down + 1, exponent⟩
    else if downHolds then ⟨down, exponent⟩
    else search area magnitude fuel (count + 1)

/-- Seventeen digits tell any two numbers of the supported formats apart. -/
def maxDigits : Nat := 17

def shortest (significand : Nat) (power : Int) (narrow : Bool) : Decimal :=
  if significand = 0 then ⟨0, 0⟩
  else
    let area := interval significand power narrow
    search area (magnitude area.center area.denominator) maxDigits 1

/-- Digits without trailing zeros. -/
def trimZeros (fuel : Nat) (decimal : Decimal) : Decimal :=
  match fuel with
  | 0 => decimal
  | fuel + 1 =>
    if decimal.digits % 10 = 0 ∧ decimal.digits ≠ 0 then
      trimZeros fuel ⟨decimal.digits / 10, decimal.exponent + 1⟩
    else decimal

def trimmed (decimal : Decimal) : Decimal := trimZeros (maxDigits + 1) decimal

/-- With a decimal point and at least one digit on each side of it. -/
def positional (decimal : Decimal) : String :=
  let digits := Nat.toDigits 10 decimal.digits
  if 0 ≤ decimal.exponent then
    String.ofList (digits ++ List.replicate decimal.exponent.toNat '0' ++ ['.', '0'])
  else
    let places := (-decimal.exponent).toNat
    let padded := List.leftpad (places + 1) '0' digits
    String.ofList (padded.take (padded.length - places) ++ '.' :: padded.drop (padded.length - places))

/-- One digit, the others behind a point if there are any, and the exponent. -/
def scientific (decimal : Decimal) : String :=
  match Nat.toDigits 10 decimal.digits with
  | [] => ""
  | first :: others =>
    let fraction := if others.isEmpty then [] else '.' :: others
    String.ofList (first :: fraction) ++ s!"e{decimal.exponent + others.length}"

/-- Position of the decimal point relative to the first digit, as in `0.digits · 10 ^ pointPosition`. -/
def pointPosition (decimal : Decimal) : Int := decimal.exponent + digitCount decimal.digits

end Decimal

end Unannotate
