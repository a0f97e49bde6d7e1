import Unannotate.ElementKind

/-!
One annotation at one place of a class, and the record of its removal.
-/
set_option autoImplicit false

namespace Unannotate

structure AttachmentPoint where
  kind : ElementKind
  /-- Dotted name of the class. -/
  className : String
  /-- Name of the field, method or record component; none for the class itself. -/
  memberName : Option String
  memberDescriptor : Option String
  parameter : Option UInt8
  /-- Dotted name of the annotation's type. -/
  annotationName : String
  /-- Whether the annotation can be seen at run time. -/
  visible : Bool
  deriving DecidableEq, Repr

structure Removal where
  kind : ElementKind
  location : String
  annotationName : String
  visible : Bool
  deriving DecidableEq, Repr

namespace AttachmentPoint

/-- Methods are told apart by their descriptor, fields and components by their name alone. -/
def showsDescriptor : ElementKind → Bool
  | .constructor | .method | .parameter => true
  | .type | .field | .recordComponent => false

def location (point : AttachmentPoint) : String :=
  let memberText := match point.memberName with
    | none => ""
    | some name =>
      "." ++ name ++ (if showsDescriptor point.kind then point.memberDescriptor.getD "" else "")
  let parameterText := match point.parameter with
    | none => ""
    | some parameter => s!" parameter {parameter.toNat}"
  point.className ++ memberText ++ parameterText

def removal (point : AttachmentPoint) : Removal :=
  { kind := point.kind
    location := point.location
    annotationName := point.annotationName
    visible := point.visible }

end AttachmentPoint

def Removal.description (removal : Removal) : String :=
  s!"{removal.kind.name} {removal.location} @{removal.annotationName}" ++
    (if removal.visible then "" else " (invisible)")

end Unannotate
