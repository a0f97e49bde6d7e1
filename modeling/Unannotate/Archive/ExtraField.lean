import Unannotate.Crc32
import Unannotate.Text.Utf8

/-!
Extra fields of archive entries.

An extra field is an identifier, a length and a body. Fields stand one after another; what is left over
when no further field is complete is the tail. Some identifiers are known and have rules of their own:
timestamps have to have a fitting length, and two kinds of fields restate the name and the comment of an
entry in UTF-8, each with the checksum of what it restates.
-/
set_option autoImplicit false

namespace Unannotate

/-- Why an archive cannot be read. -/
inductive ArchiveFault
  | unreadable
  | io
  deriving DecidableEq, Repr

structure ExtraField where
  id : Nat
  body : Bytes
  deriving DecidableEq, Repr

namespace ExtraField

def zip64 : Nat := 0x0001

def ntfsTimes : Nat := 0x000A

def unixTimes : Nat := 0x5455

def unicodeComment : Nat := 0x6375

def unicodePath : Nat := 0x7075

def encryption : Nat := 0x9901

def alignment : Nat := 0xA11E

/-- Identifiers with a meaning of their own. -/
def known : List Nat :=
  [zip64, ntfsTimes, unixTimes, unicodeComment, unicodePath, encryption, alignment]

/-- Fields that belong to the way an entry was written and not to the entry. -/
def ofWriter : List Nat := [zip64, encryption, alignment]

def encode (field : ExtraField) : Bytes :=
  Bytes.littleEndian 2 field.id ++ Bytes.littleEndian 2 field.body.length ++ field.body

/-- The field at the front. -/
def take? (data : Bytes) : Option (ExtraField × Bytes) :=
  let header := data.take 4
  let length := Bytes.ofLittleEndian (header.drop 2)
  let body := (data.drop 4).take length
  if header.length = 4 ∧ body.length = length then
    some (⟨Bytes.ofLittleEndian (header.take 2), body⟩, (data.drop 4).drop length)
  else none

theorem length_take? {data rest : Bytes} {field : ExtraField} (taken : take? data = some (field, rest)) :
    rest.length < data.length := by
  unfold take? at taken
  dsimp only at taken
  split at taken
  · next complete =>
    simp only [Option.some.injEq, Prod.mk.injEq] at taken
    obtain ⟨_, rfl⟩ := taken
    have headerLength := complete.1
    simp only [List.length_take] at headerLength
    simp only [List.length_drop]
    omega
  · simp at taken

/-- Every complete field, and the tail. -/
def parse (data : Bytes) : List ExtraField × Bytes :=
  match _taken : take? data with
  | none => ([], data)
  | some (field, rest) =>
    let (fields, tail) := parse rest
    (field :: fields, tail)
termination_by data.length
decreasing_by exact length_take? _taken

/-- What becomes of the complete fields when they are given one after another to a new entry: the fields it
has then, and the identifiers of those that were refused. Fields of the writer are passed over. Each other
one is tried on the fields `given` so far, which stay as they are when it is refused. -/
def carry (add : List ExtraField → ExtraField → Option (List ExtraField)) (given : List ExtraField)
    (data : Bytes) : List ExtraField × List Nat :=
  match _taken : take? data with
  | none => (given, [])
  | some (field, rest) =>
    if field.id ∈ ofWriter then carry add given rest
    else
      match add given field with
      | some candidate => carry add candidate rest
      | none =>
        let (final, refused) := carry add given rest
        (final, field.id :: refused)
termination_by data.length
decreasing_by all_goals exact length_take? _taken

/-- A tail is padding, unless it holds a complete header or begins a known field. -/
def checkTail (tail : Bytes) : Except ArchiveFault Unit :=
  if 4 ≤ tail.length then .error .unreadable
  else if 2 ≤ tail.length ∧ Bytes.ofLittleEndian (tail.take 2) ∈ known then .error .unreadable
  else .ok ()

/-- Number of bits that are set. -/
def bitCount (byte : UInt8) : Nat := ((List.range 8).filter byte.toNat.testBit).length

/-- One time of four bytes, or one for each flag. -/
def checkUnixTimes (body : Bytes) : Except ArchiveFault Unit :=
  match body with
  | [] => .error .unreadable
  | flags :: _ =>
    if body.length = 5 ∨ body.length = 1 + 4 * bitCount flags then .ok () else .error .io

/-- Four reserved bytes, then the tag and the length of the only attribute there is. -/
def checkNtfsTimes (body : Bytes) : Except ArchiveFault Unit :=
  if body.length = 32 ∧ (body.drop 4).take 4 = [1, 0, 24, 0] then .ok () else .error .unreadable

/-- Version, vendor, strength and method of an encrypted entry. -/
def checkEncryption (body : Bytes) : Except ArchiveFault Unit :=
  match body with
  | [low, high, 0x41, 0x45, strength, _, _] =>
    if high = 0 ∧ (low = 1 ∨ low = 2) ∧ (strength = 1 ∨ strength = 2 ∨ strength = 3) then .ok ()
    else .error .unreadable
  | _ => .error .unreadable

/-- The bytes that restate `plain` bytes: a version, their checksum, and UTF-8 text. -/
def restated (plain body : Bytes) : Except ArchiveFault Bytes :=
  let text := body.drop 5
  if 5 ≤ body.length ∧ Bytes.ofLittleEndian ((body.drop 1).take 4) = (crc32 plain).toNat
      ∧ (Utf8.decode? text).isSome then
    .ok text
  else .error .unreadable

end ExtraField

end Unannotate
