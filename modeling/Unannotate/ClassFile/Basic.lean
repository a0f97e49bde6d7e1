import Unannotate.ClassFile.ConstantPool
import Unannotate.Descriptor

/-!
Class files at the level of attributes.

A class file is read into its sections; every attribute stays a name and a body that nobody has looked
into. `encode` writes the sections back in order, so a section that was left alone comes out byte for
byte as it was read.
-/
set_option autoImplicit false

namespace Unannotate

structure Attribute where
  nameIndex : UInt16
  info : Bytes
  deriving DecidableEq, Repr

namespace Attribute

def read : Reader Attribute := do
  let nameIndex ← Reader.u16
  let length ← Reader.u32
  let info ← Reader.bytes length.toNat
  return { nameIndex, info }

def readList : Reader (List Attribute) := Reader.counted read

def encode (item : Attribute) : Except Malformation Bytes :=
  if item.info.length < 4294967296 then
    .ok (Bytes.ofUInt16 item.nameIndex ++ Bytes.bigEndian 4 item.info.length ++ item.info)
  else .error .attributeTooLong

def encodeList (attributes : List Attribute) : Except Malformation Bytes := do
  let count ← encodeCount "attributes" attributes.length
  let items ← attributes.mapM encode
  return count ++ items.flatten

end Attribute

/-- A field or a method. -/
structure Member where
  accessFlags : UInt16
  nameIndex : UInt16
  descriptorIndex : UInt16
  attributes : List Attribute
  deriving DecidableEq, Repr

namespace Member

def read : Reader Member := do
  let accessFlags ← Reader.u16
  let nameIndex ← Reader.u16
  let descriptorIndex ← Reader.u16
  let attributes ← Attribute.readList
  return { accessFlags, nameIndex, descriptorIndex, attributes }

def encode (member : Member) : Except Malformation Bytes := do
  let attributes ← Attribute.encodeList member.attributes
  return Bytes.ofUInt16 member.accessFlags ++ Bytes.ofUInt16 member.nameIndex
    ++ Bytes.ofUInt16 member.descriptorIndex ++ attributes

def encodeList (part : String) (members : List Member) : Except Malformation Bytes := do
  let count ← encodeCount part members.length
  let items ← members.mapM encode
  return count ++ items.flatten

end Member

structure ClassFile where
  minorVersion : UInt16
  majorVersion : UInt16
  pool : ConstantPool
  accessFlags : UInt16
  thisClass : UInt16
  superClass : UInt16
  interfaces : List UInt16
  fields : List Member
  methods : List Member
  attributes : List Attribute
  deriving DecidableEq

namespace ClassFile

def magic : UInt32 := 0xCAFEBABE

/-- Magic number, minor and major version. -/
def readHeader : Reader (UInt16 × UInt16) := do
  let first ← Reader.u32
  if first ≠ magic then
    Reader.fail (.magic first.toNat)
  else
    let minorVersion ← Reader.u16
    let majorVersion ← Reader.u16
    return (minorVersion, majorVersion)

def read : Reader ClassFile := do
  let (minorVersion, majorVersion) ← readHeader
  let pool ← ConstantPool.read
  let accessFlags ← Reader.u16
  let thisClass ← Reader.u16
  let superClass ← Reader.u16
  let interfaces ← Reader.counted Reader.u16
  let fields ← Reader.counted Member.read
  let methods ← Reader.counted Member.read
  let attributes ← Attribute.readList
  return ⟨minorVersion, majorVersion, pool, accessFlags, thisClass, superClass, interfaces, fields,
    methods, attributes⟩

/-- Internal name of the class, with slashes. -/
def name (file : ClassFile) : Except Malformation String := file.pool.className file.thisClass

/-- The class file that a byte string is. Its own name has to be readable. -/
def parse (data : Bytes) : Except Malformation ClassFile := do
  let file ← Reader.all read "class attributes" data
  let _ ← file.name
  return file

def encode (file : ClassFile) : Except Malformation Bytes := do
  let interfaceCount ← encodeCount "interfaces" file.interfaces.length
  let fields ← Member.encodeList "fields" file.fields
  let methods ← Member.encodeList "methods" file.methods
  let attributes ← Attribute.encodeList file.attributes
  return Bytes.ofUInt32 magic ++ Bytes.ofUInt16 file.minorVersion
    ++ Bytes.ofUInt16 file.majorVersion ++ file.pool.encode ++ Bytes.ofUInt16 file.accessFlags
    ++ Bytes.ofUInt16 file.thisClass ++ Bytes.ofUInt16 file.superClass
    ++ interfaceCount ++ file.interfaces.flatMap Bytes.ofUInt16
    ++ fields ++ methods ++ attributes

end ClassFile

end Unannotate
