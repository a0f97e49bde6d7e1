import Unannotate.ClassFile.Basic

/-!
The body of a `Code` attribute: what belongs to the instructions, kept as it is, and the attributes
nested in it.
-/
set_option autoImplicit false

namespace Unannotate

structure Code where
  /-- Operand stack and local variable limits, as read. -/
  limits : Bytes
  instructions : Bytes
  /-- Exception table entries of eight bytes each, as read. -/
  handlers : Bytes
  attributes : List Attribute
  deriving DecidableEq, Repr

namespace Code

def read : Reader Code := do
  let limits ← Reader.bytes 4
  let length ← Reader.u32
  let instructions ← Reader.bytes length.toNat
  let handlerCount ← Reader.u16
  let handlers ← Reader.bytes (handlerCount.toNat * 8)
  let attributes ← Attribute.readList
  return { limits, instructions, handlers, attributes }

def parse (info : Bytes) : Except Malformation Code := Reader.all read "Code attribute" info

/-- Everything in front of the nested attributes. -/
def encodeFront (code : Code) : Bytes :=
  code.limits ++ Bytes.bigEndian 4 code.instructions.length ++ code.instructions
    ++ Bytes.bigEndian 2 (code.handlers.length / 8) ++ code.handlers

def encode (code : Code) : Except Malformation Bytes := do
  let attributes ← Attribute.encodeList code.attributes
  return code.encodeFront ++ attributes

end Code

end Unannotate
