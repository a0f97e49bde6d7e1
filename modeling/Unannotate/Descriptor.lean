import Unannotate.Malformation

/-!
Type descriptors, as far as annotations need them.

The type of an annotation is a descriptor such as `Lcom/example/Anno;`. One type is read from the front
of the text and whatever follows it is ignored; only a class type names an annotation.
-/
set_option autoImplicit false

namespace Unannotate

inductive TypeDescriptor
  | primitive (letter : Char)
  | void
  /-- The name between `L` and the first semicolon, with slashes. -/
  | object (internalName : List Char)
  | array (dimensions : Nat) (item : TypeDescriptor)
  deriving DecidableEq, Repr

namespace TypeDescriptor

def isPrimitive (letter : Char) : Bool :=
  letter ∈ ['B', 'C', 'D', 'F', 'I', 'J', 'S', 'Z']

/-- The largest number of array dimensions. -/
def maxDimensions : Nat := 255

/-- A type that is no array, from the front of the text. -/
def readItem : List Char → Except DescriptorFault TypeDescriptor
  | [] => .error .endOfInput
  | 'V' :: _ => .ok .void
  | 'L' :: rest =>
    if ';' ∈ rest then .ok (.object (rest.takeWhile (· ≠ ';'))) else .error .missingSemicolon
  | ')' :: _ => .error .leadingParenthesis
  | letter :: _ => if isPrimitive letter then .ok (.primitive letter) else .error .unrecognized

/-- One type from the front of the text. -/
def read (text : List Char) : Except DescriptorFault TypeDescriptor :=
  let dimensions := (text.takeWhile (· = '[')).length
  if dimensions = 0 then readItem text
  else if maxDimensions < dimensions then .error .tooManyDimensions
  else
    match text.drop dimensions with
    | ')' :: _ => .error .arrayOfParenthesis
    | rest => (readItem rest).map (.array dimensions)

end TypeDescriptor

/-- An internal name with dots in place of slashes. -/
def dotted (internalName : List Char) : String :=
  String.ofList (internalName.map fun letter => if letter = '/' then '.' else letter)

/-- The dotted class name that an annotation's type descriptor stands for. -/
def annotationClassName (descriptor : String) : Except Malformation String :=
  match TypeDescriptor.read descriptor.toList with
  | .error fault => .error (.descriptor descriptor fault)
  | .ok (.object internalName) => .ok (dotted internalName)
  | .ok _ => .error (.notClassType descriptor)

end Unannotate
