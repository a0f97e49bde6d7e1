import Unannotate.Endpoint.Domain
import Unannotate.Endpoint.Fault

/-!
Hosts: names and addresses.

A name whose last label is a number is an address of version 4. Its parts may be decimal, octal or
hexadecimal, and the last of them fills all bytes that are left. An address of version 6 stands in
brackets; one run of zero pieces may be left out.
-/
set_option autoImplicit false

namespace Unannotate

inductive Host
  | domain (name : List Char)
  /-- An address of 32 bits. -/
  | ipv4 (address : Nat)
  /-- Eight pieces of 16 bits. -/
  | ipv6 (pieces : List Nat)
  deriving DecidableEq, Repr

namespace Ipv4

def isOctal (digit : Char) : Bool := '0' ≤ digit && digit ≤ '7'

/-- The value of digits in some base. -/
def valueIn (base : Nat) (digits : List Char) : Nat :=
  digits.foldl (fun value digit => value * base + (Percent.hexValue? digit).getD 0) 0

/-- The number that a part stands for, with its base marked by `0x` or `0`. -/
def number? (part : List Char) : Option Nat :=
  match part with
  | [] => none
  | '0' :: 'x' :: digits | '0' :: 'X' :: digits =>
    if digits.all (fun digit => (Percent.hexValue? digit).isSome) then some (valueIn 16 digits)
    else none
  | '0' :: digit :: digits =>
    if (digit :: digits).all isOctal then some (valueIn 8 (digit :: digits)) else none
  | digits => if digits.all Char.isDigit then some (valueIn 10 digits) else none

/-- The parts between full stops, without an empty one at the end. -/
def parts (name : List Char) : List (List Char) :=
  let labels := name.splitOn '.'
  if labels.getLast? = some [] then labels.dropLast else labels

/-- Whether a name has to be read as an address. -/
def endsInNumber (name : List Char) : Bool :=
  match (parts name).getLast? with
  | none => false
  | some last => (!last.isEmpty && last.all Char.isDigit) || (number? last).isSome

/-- All parts but the last are bytes, and the last one fills the bytes that are left. -/
def ofNumbers? (numbers : List Nat) : Option Nat :=
  match numbers.getLast? with
  | none => none
  | some last =>
    let bytes := numbers.dropLast
    if bytes.length < 4 ∧ bytes.all (· < 256) ∧ last < Bytes.capacity (4 - bytes.length) then
      let front := bytes.foldl (fun value byte => value * 256 + byte) 0
      some (front * Bytes.capacity (4 - bytes.length) + last)
    else none

def ofName? (name : List Char) : Option Nat := ((parts name).mapM number?).bind ofNumbers?

def render (address : Nat) : List Char :=
  let byte (position : Nat) := (toString (address / Bytes.capacity position % 256)).toList
  ['.'].intercalate [byte 3, byte 2, byte 1, byte 0]

end Ipv4

namespace Ipv6

/-- A byte in decimal, without leading zeros. -/
def byte? (digits : List Char) : Option Nat :=
  if digits.isEmpty || !digits.all Char.isDigit || (digits.length > 1 && digits.head? = some '0')
  then none
  else
    let value := Ipv4.valueIn 10 digits
    if value < 256 then some value else none

/-- One to four digits. -/
def piece? (digits : List Char) : Option Nat :=
  if !digits.isEmpty && digits.length ≤ 4 && digits.all (fun digit => (Percent.hexValue? digit).isSome)
  then some (Ipv4.valueIn 16 digits)
  else none

/-- Four bytes between full stops, as two pieces. -/
def dotted? (text : List Char) : Option (List Nat) :=
  match (text.splitOn '.').mapM byte? with
  | some [first, second, third, fourth] => some [first * 256 + second, third * 256 + fourth]
  | _ => none

/-- Pieces between colons; the last two may be written as four bytes. -/
def piecesOf? (final : Bool) : List (List Char) → Option (List Nat)
  | [] => some []
  | [last] =>
    if final && last.contains '.' then dotted? last else (piece? last).map fun value => [value]
  | first :: rest => do
    let value ← piece? first
    let values ← piecesOf? final rest
    return value :: values

def groups? (final : Bool) (text : List Char) : Option (List Nat) :=
  if text.isEmpty then some [] else piecesOf? final (text.splitOn ':')

/-- What stands before and behind the first double colon. -/
def splitRun : List Char → Option (List Char × List Char)
  | ':' :: ':' :: rest => some ([], rest)
  | first :: rest => (splitRun rest).map fun (before, behind) => (first :: before, behind)
  | [] => none

def ofText? (text : List Char) : Option (List Nat) :=
  match splitRun text with
  | none => do
    let pieces ← groups? true text
    if pieces.length = 8 then some pieces else none
  | some (before, behind) => do
    let front ← groups? false before
    let back ← groups? true behind
    let given := front.length + back.length
    if given < 8 then some (front ++ List.replicate (8 - given) 0 ++ back) else none

/-- How many pieces from the front are zero. -/
def zeros (pieces : List Nat) : Nat := (pieces.takeWhile (· = 0)).length

/-- Where the first of the longest runs of zeros starts, and its length. -/
def longestRun (start : Nat) : List Nat → Nat × Nat
  | [] => (start, 0)
  | piece :: rest =>
    let here := zeros (piece :: rest)
    let later := longestRun (start + 1) rest
    if here < later.2 then later else (start, here)

def renderPieces (pieces : List Nat) : List Char := [':'].intercalate (pieces.map (Nat.toDigits 16))

/-- The longest run of zeros is left out when it has at least two pieces. -/
def render (pieces : List Nat) : List Char :=
  let (start, length) := longestRun 0 pieces
  if length < 2 then renderPieces pieces
  else renderPieces (pieces.take start) ++ "::".toList ++ renderPieces (pieces.drop (start + length))

end Ipv6

namespace Host

def render : Host → List Char
  | domain name => name
  | ipv4 address => Ipv4.render address
  | ipv6 pieces => '[' :: Ipv6.render pieces ++ [']']

/-- The address inside brackets. -/
def ofBracketed (text : List Char) : Except UrlFault Host :=
  if text.getLast? = some ']' then
    match Ipv6.ofText? text.dropLast with
    | some pieces => .ok (.ipv6 pieces)
    | none => .error .ipv6
  else .error .ipv6

/-- A host where names are domain names. -/
def parse (text : List Char) : Except UrlFault Host :=
  match text with
  | '[' :: rest => ofBracketed rest
  | _ =>
    match (Utf8.decode? (Percent.decode text)).bind (Domain.ascii? ·.toList) with
    | none => .error .domain
    | some [] => .error .emptyHost
    | some name =>
      if Ipv4.endsInNumber name then
        match Ipv4.ofName? name with
        | some address => .ok (.ipv4 address)
        | none => .error .ipv4
      else .ok (.domain name)

/-- Characters that no host holds, of whatever scheme. -/
def isForbidden (character : Char) : Bool :=
  "\x00\t\n\r #/:<>?@[\\]^|".toList.contains character

/-- What is wrong with a host where names have no structure. -/
def plainFault? (text : List Char) : Option UrlFault :=
  match text with
  | '[' :: rest =>
    match ofBracketed rest with
    | .ok _ => none
    | .error fault => some fault
  | _ => if text.any isForbidden then some .domainCharacter else none

end Host

end Unannotate
