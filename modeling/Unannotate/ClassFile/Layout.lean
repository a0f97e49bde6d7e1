import Unannotate.ClassFile.Basic
import Unannotate.ClassFile.ConstantText

/-!
A strict check of a whole class file.

Where the attribute reader only follows the announced lengths, this check walks through the body of every
attribute it knows, one field after another over the whole file. Announced lengths are read but not
used, so a body of the wrong length shifts everything behind it. The check stops at the first attribute
that it does not know.

Nested bodies are followed with a budget of levels; since every level takes at least one byte, the
length of the file is enough.
-/
set_option autoImplicit false

namespace Unannotate

/-- A step of the check. -/
abbrev LayoutCheck := StateT Cursor (Except LayoutFault)

namespace LayoutCheck

def fail {α : Type} (fault : LayoutFault) : LayoutCheck α := fun _ => .error fault

/-- An integer of `width` bytes. -/
def integer (width : Nat) : LayoutCheck Nat := fun cursor =>
  match cursor.take? width with
  | some (taken, next) => .ok (Bytes.ofBigEndian taken, next)
  | none => .error (.overflow cursor.offset cursor.size)

def u8 : LayoutCheck Nat := integer 1

def u16 : LayoutCheck Nat := integer 2

def u32 : LayoutCheck Nat := integer 4

/-- A block of bytes that is passed over. -/
def block (length : Nat) : LayoutCheck Unit := fun cursor =>
  match cursor.take? length with
  | some (_, next) => .ok ((), next)
  | none => .error (.outOfBounds (cursor.offset + length) cursor.size)

/-- Whether a block of bytes is there; nothing is passed. -/
def room (length : Nat) : LayoutCheck Unit := fun cursor =>
  match cursor.take? length with
  | some _ => .ok ((), cursor)
  | none => .error (.outOfBounds (cursor.offset + length) cursor.size)

def times (item : LayoutCheck Unit) : Nat → LayoutCheck Unit
  | 0 => pure ()
  | count + 1 => do
    item
    times item count

/-- A 16-bit count and that many items. -/
def counted (item : LayoutCheck Unit) : LayoutCheck Unit := do
  let count ← u16
  times item count

/-- A number of 16-bit fields. -/
def words (count : Nat) : LayoutCheck Unit := times (discard u16) count

/-- The text that a name index leads to. -/
def attributeName (pool : ConstantPool) (index : Nat) : LayoutCheck String :=
  match pool.slots[index]? with
  | none => fail (.noConstant index)
  | some none => fail (.notText index "Empty")
  | some (some constant) =>
    match constant with
    | .text encoded =>
      match ModifiedUtf8.decode encoded with
      | .ok name => pure name
      | .error _ => fail (.notText index constant.description)
    | _ => fail (.notText index constant.description)

/-- An annotation, given the check of its element values. -/
def annotationBody (value : LayoutCheck Unit) : LayoutCheck Unit := do
  discard u16
  counted (do discard u16; value)

def elementValue : (levels : Nat) → LayoutCheck Unit
  | 0 => discard u8
  | levels + 1 => do
    let tag ← u8
    if UInt8.ofNat tag ∈ [0x42, 0x43, 0x44, 0x46, 0x49, 0x4A, 0x53, 0x5A, 0x73, 0x63] then
      discard u16
    else if tag = 0x65 then words 2
    else if tag = 0x40 then annotationBody (elementValue levels)
    else if tag = 0x5B then counted (elementValue levels)
    else fail (.elementTag tag)

def annotationItem (levels : Nat) : LayoutCheck Unit := annotationBody (elementValue levels)

/-- What a type annotation is attached to. -/
def targetInfo (type : Nat) : LayoutCheck Unit :=
  if type ∈ [0x00, 0x01, 0x16] then discard u8
  else if type ∈ [0x10, 0x17, 0x42, 0x43, 0x44, 0x45, 0x46] then discard u16
  else if type ∈ [0x11, 0x12] then do
    discard u8
    discard u8
  else if type ∈ [0x13, 0x14, 0x15] then pure ()
  else if type ∈ [0x40, 0x41] then counted (words 3)
  else if type ∈ [0x47, 0x48, 0x49, 0x4A, 0x4B] then do
    discard u16
    discard u8
  else fail (.targetType type)

def typeAnnotationItem (levels : Nat) : LayoutCheck Unit := do
  let type ← u8
  targetInfo type
  let pathLength ← u8
  times (do discard u8; discard u8) pathLength
  annotationItem levels

def verificationType : LayoutCheck Unit := do
  let tag ← u8
  if tag ≤ 6 then pure ()
  else if tag ≤ 8 then discard u16
  else fail (.verificationTag tag)

def stackFrame : LayoutCheck Unit := do
  let type ← u8
  if type ≤ 63 then pure ()
  else if type ≤ 127 then verificationType
  else if type ≤ 246 then fail (.frameType type)
  else if type = 247 then do
    discard u16
    verificationType
  else if type ≤ 251 then discard u16
  else if type ≤ 254 then do
    discard u16
    times verificationType (type - 251)
  else do
    discard u16
    counted verificationType
    counted verificationType

/-- The body of a known attribute of `length` bytes; none for an unknown name. -/
def body? (levels : Nat) (attributes : LayoutCheck Unit) (length : Nat) (name : String) :
    Option (LayoutCheck Unit) :=
  match name with
  | "ConstantValue" | "SourceFile" | "Signature" | "NestHost" => some (words 1)
  | "Code" => some do
    words 2
    let codeLength ← u32
    block codeLength
    counted (words 4)
    attributes
  | "Exceptions" | "NestMembers" | "PermittedSubclasses" => some (counted (words 1))
  | "Synthetic" | "Deprecated" => some (pure ())
  | "LineNumberTable" => some (counted (words 2))
  | "LocalVariableTable" | "LocalVariableTypeTable" => some (counted (words 5))
  | "InnerClasses" => some (counted (words 4))
  | "EnclosingMethod" => some (words 2)
  | "BootstrapMethods" => some (counted (do words 1; counted (words 1)))
  | "MethodParameters" => some do
    let count ← u8
    times (words 2) count
  | "Record" => some (counted (do words 2; attributes))
  | "SourceDebugExtension" => some (block length)
  | "RuntimeVisibleAnnotations" => some do
    room length
    counted (annotationItem levels)
  | "RuntimeInvisibleAnnotations" => some (counted (annotationItem levels))
  | "AnnotationDefault" => some do
    room length
    elementValue levels
  | "RuntimeVisibleParameterAnnotations" | "RuntimeInvisibleParameterAnnotations" => some do
    let count ← u8
    times (counted (annotationItem levels)) count
  | "RuntimeVisibleTypeAnnotations" | "RuntimeInvisibleTypeAnnotations" =>
    some (counted (typeAnnotationItem levels))
  | "StackMapTable" => some (counted stackFrame)
  | _ => none

/-- A list of attributes, nested at most `levels` deep. -/
def attributes (pool : ConstantPool) : (levels : Nat) → LayoutCheck Unit
  | 0 => discard u16
  | levels + 1 => counted do
    let index ← u16
    let length ← u32
    let name ← attributeName pool index
    match body? levels (attributes pool levels) length name with
    | some body => body
    | none => fail (.unmatchedAttribute name)

def member (pool : ConstantPool) (levels : Nat) : LayoutCheck Unit := do
  words 3
  attributes pool levels

/-- Everything behind the constant pool, to the end of the file. -/
def sections (pool : ConstantPool) (levels : Nat) : LayoutCheck Unit := do
  words 3
  counted (words 1)
  counted (member pool levels)
  counted (member pool levels)
  attributes pool levels

def finish : LayoutCheck Unit := fun cursor =>
  if cursor.rest.isEmpty then .ok ((), cursor) else .error (.notAllRead cursor.size cursor.offset)

end LayoutCheck

namespace ClassFile

/-- Walks through a class file whose header and constant pool are readable. -/
def checkLayout (data : Bytes) : Except Malformation Unit :=
  let front : Reader ConstantPool := do
    let _ ← readHeader
    ConstantPool.read
  match front (.ofBytes data) with
  | .error fault => .error fault
  | .ok (pool, cursor) =>
    match (do LayoutCheck.sections pool data.length; LayoutCheck.finish : LayoutCheck Unit) cursor with
    | .ok _ => .ok ()
    | .error fault => .error (.layout fault)

end ClassFile

end Unannotate
