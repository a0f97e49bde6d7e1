import Unannotate.ClassFile.Reader
import Unannotate.ModifiedUtf8

/-!
The constant pool of a class file.

Constants are numbered from 1, and a `long` or `double` takes two numbers, of which the second leads
nowhere. Constants keep everything that was read, so that a pool is written as it came; `slots` is the
table that numbers look up.
-/
set_option autoImplicit false

namespace Unannotate

inductive Constant
  | text (encoded : Bytes)
  | integer (bits : UInt32)
  | float (bits : UInt32)
  | long (bits : UInt64)
  | double (bits : UInt64)
  | classRef (name : UInt16)
  | string (index : UInt16)
  | fieldRef (owner member : UInt16)
  | methodRef (owner member : UInt16)
  | interfaceMethodRef (owner member : UInt16)
  | nameAndType (name descriptor : UInt16)
  | methodHandle (kind : UInt8) (target : UInt16)
  | methodType (descriptor : UInt16)
  | dynamic (bootstrap member : UInt16)
  | invokeDynamic (bootstrap member : UInt16)
  | module (name : UInt16)
  | package (name : UInt16)
  deriving DecidableEq, Repr

namespace Constant

def tag : Constant → UInt8
  | text _ => 1
  | integer _ => 3
  | float _ => 4
  | long _ => 5
  | double _ => 6
  | classRef _ => 7
  | string _ => 8
  | fieldRef _ _ => 9
  | methodRef _ _ => 10
  | interfaceMethodRef _ _ => 11
  | nameAndType _ _ => 12
  | methodHandle _ _ => 15
  | methodType _ => 16
  | dynamic _ _ => 17
  | invokeDynamic _ _ => 18
  | module _ => 19
  | package _ => 20

/-- Whether a constant with this tag takes two numbers. -/
def isWide (tag : UInt8) : Bool := tag = 5 ∨ tag = 6

def width (constant : Constant) : Nat := if isWide constant.tag then 2 else 1

def body : Constant → Bytes
  | text encoded => Bytes.bigEndian 2 encoded.length ++ encoded
  | integer bits => Bytes.ofUInt32 bits
  | float bits => Bytes.ofUInt32 bits
  | long bits => Bytes.ofUInt64 bits
  | double bits => Bytes.ofUInt64 bits
  | classRef name => Bytes.ofUInt16 name
  | string index => Bytes.ofUInt16 index
  | fieldRef owner member => Bytes.ofUInt16 owner ++ Bytes.ofUInt16 member
  | methodRef owner member => Bytes.ofUInt16 owner ++ Bytes.ofUInt16 member
  | interfaceMethodRef owner member => Bytes.ofUInt16 owner ++ Bytes.ofUInt16 member
  | nameAndType name descriptor => Bytes.ofUInt16 name ++ Bytes.ofUInt16 descriptor
  | methodHandle kind target => Bytes.ofUInt8 kind ++ Bytes.ofUInt16 target
  | methodType descriptor => Bytes.ofUInt16 descriptor
  | dynamic bootstrap member => Bytes.ofUInt16 bootstrap ++ Bytes.ofUInt16 member
  | invokeDynamic bootstrap member => Bytes.ofUInt16 bootstrap ++ Bytes.ofUInt16 member
  | module name => Bytes.ofUInt16 name
  | package name => Bytes.ofUInt16 name

def encode (constant : Constant) : Bytes := constant.tag :: constant.body

/-- A constant of two 16-bit numbers, read as one block. -/
def pairOf (constant : UInt16 → UInt16 → Constant) : Reader Constant := do
  let pair ← Reader.u32
  return constant (pair >>> 16).toUInt16 pair.toUInt16

/-- Text is decoded once while reading, so that a pool holds no text that cannot be shown. -/
def readText : Reader Constant := do
  let length ← Reader.u16
  let encoded ← Reader.bytes length.toNat
  match ModifiedUtf8.decode encoded with
  | .ok _ => return text encoded
  | .error fault => Reader.fail fault

/-- The constant behind a tag, number `index` of its pool. -/
def readBody (tag : UInt8) (index : Nat) : Reader Constant :=
  match tag.toNat with
  | 1 => readText
  | 3 => integer <$> Reader.u32
  | 4 => float <$> Reader.u32
  | 5 => long <$> Reader.u64
  | 6 => double <$> Reader.u64
  | 7 => classRef <$> Reader.u16
  | 8 => string <$> Reader.u16
  | 9 => pairOf fieldRef
  | 10 => pairOf methodRef
  | 11 => pairOf interfaceMethodRef
  | 12 => pairOf nameAndType
  | 15 => do
    let handle := Bytes.ofBigEndian (← Reader.bytes 3)
    return methodHandle (UInt8.ofNat (handle / 65536)) (UInt16.ofNat handle)
  | 16 => methodType <$> Reader.u16
  | 17 => pairOf dynamic
  | 18 => pairOf invokeDynamic
  | 19 => module <$> Reader.u16
  | 20 => package <$> Reader.u16
  | other => Reader.fail (.constantTag other index)

/-- The table positions that a constant takes. -/
def slots (constant : Constant) : List (Option Constant) :=
  some constant :: List.replicate (constant.width - 1) none

end Constant

structure ConstantPool where
  /-- One more than the largest number, as the file announces it. -/
  count : UInt16
  constants : List Constant
  slots : Array (Option Constant)
  /-- Number 0 leads nowhere; the constants follow in order, each as wide as it is. -/
  slots_eq : slots = (none :: constants.flatMap Constant.slots).toArray
  deriving DecidableEq

namespace ConstantPool

def ofConstants (count : UInt16) (constants : List Constant) : ConstantPool :=
  ⟨count, constants, (none :: constants.flatMap Constant.slots).toArray, rfl⟩

/-- Constants from number `index` on, until `remaining` numbers are taken. -/
def readConstants (count : UInt16) : (remaining index : Nat) → Reader (List Constant)
  | 0, _ => pure []
  | remaining + 1, index => do
    let tag ← Reader.u8
    if Constant.isWide tag then
      match remaining with
      | 0 => Reader.fail (.twoSlotOverrun index count.toNat)
      | remaining + 1 =>
        let constant ← Constant.readBody tag index
        let others ← readConstants count remaining (index + 2)
        return constant :: others
    else
      let constant ← Constant.readBody tag index
      let others ← readConstants count remaining (index + 1)
      return constant :: others

def read : Reader ConstantPool := do
  let count ← Reader.u16
  let constants ← readConstants count (count.toNat - 1) 1
  return ofConstants count constants

def encode (pool : ConstantPool) : Bytes :=
  Bytes.ofUInt16 pool.count ++ pool.constants.flatMap Constant.encode

def constant? (pool : ConstantPool) (index : UInt16) : Option Constant :=
  (pool.slots[index.toNat]?).join

def text (pool : ConstantPool) (index : UInt16) : Except Malformation String :=
  match pool.constant? index with
  | some (.text encoded) => ModifiedUtf8.decode encoded
  | _ => .error (.notText index.toNat)

/-- The internal name, with slashes, of the class that a constant refers to. -/
def className (pool : ConstantPool) (index : UInt16) : Except Malformation String :=
  match pool.constant? index with
  | some (.classRef name) => pool.text name
  | _ => .error (.notClass index.toNat)

end ConstantPool

end Unannotate
