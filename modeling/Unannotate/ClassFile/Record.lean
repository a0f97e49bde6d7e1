import Unannotate.ClassFile.Basic

/-!
The body of a `Record` attribute: the components of a record class.
-/
set_option autoImplicit false

namespace Unannotate

structure RecordComponent where
  nameIndex : UInt16
  descriptorIndex : UInt16
  attributes : List Attribute
  deriving DecidableEq, Repr

namespace RecordComponent

def read : Reader RecordComponent := do
  let nameIndex ← Reader.u16
  let descriptorIndex ← Reader.u16
  let attributes ← Attribute.readList
  return { nameIndex, descriptorIndex, attributes }

def parseList (info : Bytes) : Except Malformation (List RecordComponent) :=
  Reader.all (Reader.counted read) "Record attribute" info

def encode (component : RecordComponent) : Except Malformation Bytes := do
  let attributes ← Attribute.encodeList component.attributes
  return Bytes.ofUInt16 component.nameIndex ++ Bytes.ofUInt16 component.descriptorIndex
    ++ attributes

def encodeList (components : List RecordComponent) : Except Malformation Bytes := do
  let count ← encodeCount "record components" components.length
  let items ← components.mapM encode
  return count ++ items.flatten

end RecordComponent

end Unannotate
