import Unannotate.ClassFile.Reader

/-!
Annotations as they stand in a class file.

An annotation is a type and named element values, and an element value may hold further values. `encode`
writes the bytes of a tree and the readers accept exactly these bytes, with values nested at most
`maxDepth` deep; a kept annotation can therefore be written again from its tree.
-/
set_option autoImplicit false

namespace Unannotate

inductive ElementValue
  /-- A value that is one constant: a number, a text or a class. -/
  | constant (tag : UInt8) (index : UInt16)
  | enumConstant (typeName constantName : UInt16)
  | nested (typeIndex : UInt16) (pairs : List (UInt16 × ElementValue))
  | array (items : List ElementValue)
  deriving Repr

structure AnnotationTree where
  /-- Constant pool number of the type descriptor. -/
  typeIndex : UInt16
  pairs : List (UInt16 × ElementValue)
  deriving Repr

namespace ElementValue

def enumTag : UInt8 := 0x65

def annotationTag : UInt8 := 0x40

def arrayTag : UInt8 := 0x5B

/-- Tags `B C D F I J S Z s c`. -/
def constantTags : List UInt8 := [0x42, 0x43, 0x44, 0x46, 0x49, 0x4A, 0x53, 0x5A, 0x73, 0x63]

/-- How deep element values may nest; a value of an annotation in a list is at depth 1. -/
def maxDepth : Nat := 256

mutual

def encode : ElementValue → Bytes
  | constant tag index => tag :: Bytes.ofUInt16 index
  | enumConstant typeName constantName =>
    enumTag :: (Bytes.ofUInt16 typeName ++ Bytes.ofUInt16 constantName)
  | nested typeIndex pairs =>
    annotationTag :: (Bytes.ofUInt16 typeIndex ++ Bytes.bigEndian 2 pairs.length
      ++ encodePairs pairs)
  | array items => arrayTag :: (Bytes.bigEndian 2 items.length ++ encodeItems items)

def encodePairs : List (UInt16 × ElementValue) → Bytes
  | [] => []
  | (name, value) :: rest => Bytes.ofUInt16 name ++ encode value ++ encodePairs rest

def encodeItems : List ElementValue → Bytes
  | [] => []
  | value :: rest => encode value ++ encodeItems rest

end

def readPair (readValue : Reader ElementValue) : Reader (UInt16 × ElementValue) := do
  let name ← Reader.u16
  let value ← readValue
  return (name, value)

/-- A value that may nest `levels` deep. -/
def read : (levels : Nat) → Reader ElementValue
  | 0 => Reader.fail .valuesTooDeep
  | levels + 1 => do
    let tag ← Reader.u8
    if tag ∈ constantTags then
      let index ← Reader.u16
      return constant tag index
    else if tag = enumTag then
      let names ← Reader.u32
      return enumConstant (names >>> 16).toUInt16 names.toUInt16
    else if tag = annotationTag then
      let typeIndex ← Reader.u16
      let pairs ← Reader.counted (readPair (read levels))
      return nested typeIndex pairs
    else if tag = arrayTag then
      let items ← Reader.counted (read levels)
      return array items
    else
      Reader.fail (.valueTag tag.toNat)

end ElementValue

namespace AnnotationTree

def encode (tree : AnnotationTree) : Bytes :=
  Bytes.ofUInt16 tree.typeIndex ++ Bytes.bigEndian 2 tree.pairs.length
    ++ ElementValue.encodePairs tree.pairs

def read : Reader AnnotationTree := do
  let typeIndex ← Reader.u16
  let pairs ← Reader.counted (ElementValue.readPair (ElementValue.read ElementValue.maxDepth))
  return { typeIndex, pairs }

/-- A count and that many annotations. -/
def encodeList (trees : List AnnotationTree) : Bytes :=
  Bytes.bigEndian 2 trees.length ++ trees.flatMap encode

def readList : Reader (List AnnotationTree) := Reader.counted read

/-- The annotations of a `Runtime(In)VisibleAnnotations` body. -/
def parseList (info : Bytes) : Except Malformation (List AnnotationTree) :=
  Reader.all readList "annotations attribute" info

/-- One list of annotations for each parameter, behind an 8-bit count. -/
def readParameters : Reader (List (List AnnotationTree)) := do
  let count ← Reader.u8
  Reader.times readList count.toNat

def encodeParameters (parameters : List (List AnnotationTree)) : Bytes :=
  Bytes.bigEndian 1 parameters.length ++ parameters.flatMap encodeList

/-- The annotation lists of a `Runtime(In)VisibleParameterAnnotations` body. -/
def parseParameters (info : Bytes) : Except Malformation (List (List AnnotationTree)) :=
  Reader.all readParameters "parameter annotations attribute" info

end AnnotationTree

end Unannotate
