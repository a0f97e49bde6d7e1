import Unannotate.PurgedClass

/-!
# The attachment points of a class file

Where annotations are read is laid down here without reference to a pass: which attributes count in
which list, of what kind their annotations are, and in which order the points of a class stand. Nested
values, attributes of a code body, parameter annotations of anything but a method and every attribute
of another name hold no points.
-/
set_option autoImplicit false

namespace Unannotate

/-- What an attribute is to a purge, given the list it stands in. -/
inductive AttributeView
  /-- Annotations of the class or member itself. -/
  | annotations (kind : ElementKind) (visible : Bool)
  | parameters (visible : Bool)
  /-- Components with attribute lists of their own. -/
  | record
  | code
  /-- What only a debugger reads. -/
  | debugInfo
  | other
  deriving DecidableEq, Repr

/-- Kind of the annotations that belong to the class or member itself; the class initializer has
none. -/
def Site.declarationKind? : Site → Option ElementKind
  | classBody => some .type
  | field _ _ => some .field
  | method "<init>" _ => some .constructor
  | method "<clinit>" _ => none
  | method _ _ => some .method
  | component _ _ => some .recordComponent

namespace AttributeView

def declared (site : Site) (visible : Bool) : AttributeView :=
  match site.declarationKind? with
  | some kind => annotations kind visible
  | none => other

/-- Parameter annotations count on methods only, and a `Record` on the class only. -/
def of (site : Site) (name : String) : AttributeView :=
  if name = "RuntimeVisibleAnnotations" then declared site true
  else if name = "RuntimeInvisibleAnnotations" then declared site false
  else if name = "RuntimeVisibleParameterAnnotations" then
    match site with
    | .method _ _ => parameters true
    | _ => other
  else if name = "RuntimeInvisibleParameterAnnotations" then
    match site with
    | .method _ _ => parameters false
    | _ => other
  else if name = "Record" then if site = .classBody then record else other
  else if name = "Code" then code
  else if name ∈ ["SourceFile", "SourceDebugExtension", "MethodParameters"] then debugInfo
  else other

end AttributeView

/-- What the points of one class are read with. -/
structure ClassContext where
  pool : ConstantPool
  /-- Dotted name of the class. -/
  className : String

namespace ClassContext

variable (context : ClassContext)

/-- The point of one annotation; the values in the annotation are not looked at. -/
def point (site : Site) (kind : ElementKind) (parameter : Option UInt8) (visible : Bool)
    (tree : AnnotationTree) : Except Malformation AttachmentPoint := do
  let descriptor ← context.pool.text tree.typeIndex
  let annotationName ← annotationClassName descriptor
  return {
    kind, className := context.className, memberName := site.memberName,
    memberDescriptor := site.memberDescriptor, parameter, annotationName, visible }

def pointsOfAnnotations (site : Site) (kind : ElementKind) (visible : Bool) (info : Bytes) :
    Except Malformation (List AttachmentPoint) := do
  let trees ← AnnotationTree.parseList info
  trees.mapM (context.point site kind none visible)

/-- The points of all parameters, each with the number of the parameter whose list holds it. -/
def pointsOfParameters (site : Site) (visible : Bool) (info : Bytes) :
    Except Malformation (List AttachmentPoint) := do
  let lists ← AnnotationTree.parseParameters info
  let points ← lists.zipIdx.mapM fun item =>
    item.1.mapM (context.point site .parameter (some (UInt8.ofNat item.2)) visible)
  return points.flatten

/-- The points of an attribute that is not looked into for further lists. -/
def pointsOfBody (site : Site) (name : String) (info : Bytes) :
    Except Malformation (List AttachmentPoint) :=
  match AttributeView.of site name with
  | .annotations kind visible => context.pointsOfAnnotations site kind visible info
  | .parameters visible => context.pointsOfParameters site visible info
  | .record | .code | .debugInfo | .other => .ok []

/-- The points of a list of attributes, given those of one of a certain name. -/
def pointsOfList (ofBody : String → Bytes → Except Malformation (List AttachmentPoint))
    (attributes : List Attribute) : Except Malformation (List AttachmentPoint) := do
  let points ← attributes.mapM fun item => do
    let name ← context.pool.text item.nameIndex
    ofBody name item.info
  return points.flatten

/-- The points of what has a name, a type and a list of attributes. -/
def pointsOfNamed (place : String → String → Site) (nameIndex descriptorIndex : UInt16)
    (attributes : List Attribute) : Except Malformation (List AttachmentPoint) := do
  let name ← context.pool.text nameIndex
  let descriptor ← context.pool.text descriptorIndex
  context.pointsOfList (context.pointsOfBody (place name descriptor)) attributes

def pointsOfComponent (component : RecordComponent) : Except Malformation (List AttachmentPoint) :=
  context.pointsOfNamed .component component.nameIndex component.descriptorIndex component.attributes

def pointsOfRecord (info : Bytes) : Except Malformation (List AttachmentPoint) := do
  let components ← RecordComponent.parseList info
  let points ← components.mapM context.pointsOfComponent
  return points.flatten

/-- The points of an attribute of the class itself. -/
def pointsOfClassBody (name : String) (info : Bytes) : Except Malformation (List AttachmentPoint) :=
  match AttributeView.of .classBody name with
  | .record => context.pointsOfRecord info
  | _ => context.pointsOfBody .classBody name info

def pointsOfMember (place : String → String → Site) (member : Member) :
    Except Malformation (List AttachmentPoint) :=
  context.pointsOfNamed place member.nameIndex member.descriptorIndex member.attributes

/-- First the points of the class with those of its record components in place, then those of its
fields, then those of its methods. -/
def pointsOfFile (file : ClassFile) : Except Malformation (List AttachmentPoint) := do
  let own ← context.pointsOfList context.pointsOfClassBody file.attributes
  let fields ← file.fields.mapM (context.pointsOfMember .field)
  let methods ← file.methods.mapM (context.pointsOfMember .method)
  return own ++ fields.flatten ++ methods.flatten

end ClassContext

namespace ClassFile

def context (file : ClassFile) : Except Malformation ClassContext := do
  let className ← file.name
  return ⟨file.pool, dotted className.toList⟩

/-- Every attachment point of a class file, in order. -/
def attachmentPoints (file : ClassFile) : Except Malformation (List AttachmentPoint) := do
  let context ← file.context
  context.pointsOfFile file

end ClassFile

end Unannotate
