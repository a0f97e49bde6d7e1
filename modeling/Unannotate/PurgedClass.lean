import Unannotate.AttachmentPoint
import Unannotate.StripFlags
import Unannotate.AnnotationTree.Filter
import Unannotate.ClassFile.Code
import Unannotate.ClassFile.Record

/-!
What purging leaves of a class.

One pass over a class offers every attachment point to a decision, in the order class attributes with
record components in place, then fields, then methods. The pass keeps the list of offers with their
verdicts; the class is written again only when something was dropped, so a pass that drops nothing
leaves the input as it is.
-/
set_option autoImplicit false

namespace Unannotate

/-- Whether to drop the point offered as number `ordinal`, counted from zero. -/
abbrev Decision := (ordinal : Nat) → AttachmentPoint → Bool

structure Offer where
  point : AttachmentPoint
  rejected : Bool
  deriving DecidableEq, Repr

/-- A pass that keeps the offers made so far. -/
abbrev Pass := StateT (Array Offer) (Except Malformation)

/-- What an attribute name means to a purge. -/
inductive AttributeRole
  | annotations (visible : Bool)
  | parameterAnnotations (visible : Bool)
  | record
  | code
  /-- Class and method attributes that only a debugger reads. -/
  | debugInfo
  | other
  deriving DecidableEq, Repr

def AttributeRole.ofName (name : String) : AttributeRole :=
  match name with
  | "RuntimeVisibleAnnotations" => annotations true
  | "RuntimeInvisibleAnnotations" => annotations false
  | "RuntimeVisibleParameterAnnotations" => parameterAnnotations true
  | "RuntimeInvisibleParameterAnnotations" => parameterAnnotations false
  | "Record" => record
  | "Code" => code
  | "SourceFile" | "SourceDebugExtension" | "MethodParameters" => debugInfo
  | _ => other

/-- Attributes of a code body that the flags name. -/
def StripFlags.dropsFromCode (flags : StripFlags) (name : String) : Bool :=
  match name with
  | "LineNumberTable" | "LocalVariableTable" | "LocalVariableTypeTable" => flags.skipDebug
  | "StackMapTable" => flags.skipFrames
  | _ => false

/-- Where an attribute list stands. -/
inductive Site
  | classBody
  | field (name descriptor : String)
  | method (name descriptor : String)
  | component (name descriptor : String)
  deriving DecidableEq, Repr

namespace Site

/-- Kind of the annotations in the list; none where they are left alone. -/
def kind? : Site → Option ElementKind
  | classBody => some .type
  | field _ _ => some .field
  | method name _ => ElementKind.ofMethodName? name
  | component _ _ => some .recordComponent

def memberName : Site → Option String
  | classBody => none
  | field name _ | method name _ | component name _ => some name

def memberDescriptor : Site → Option String
  | classBody => none
  | field _ descriptor | method _ descriptor | component _ descriptor => some descriptor

end Site

inductive Disposition
  | keep
  | drop
  | replace (info : Bytes)
  deriving DecidableEq, Repr

def Disposition.ofOutcome : FilterOutcome → Disposition
  | .unchanged => keep
  | .replaced info => replace info
  | .emptied => drop

/-- What stays fixed during the pass over one class. -/
structure PassRules where
  pool : ConstantPool
  /-- Dotted name of the class. -/
  className : String
  flags : StripFlags
  decide : Decision

namespace PassRules

variable (rules : PassRules)

def lookUp (index : UInt16) : Pass String := liftM (rules.pool.text index)

/-- Offers one annotation and notes the verdict. -/
def offer (site : Site) (kind : ElementKind) (parameter : Option UInt8) (visible : Bool)
    (typeIndex : UInt16) : Pass Bool := do
  let descriptor ← rules.lookUp typeIndex
  let annotationName ← liftM (annotationClassName descriptor)
  let point : AttachmentPoint :=
    { kind, className := rules.className, memberName := site.memberName,
      memberDescriptor := site.memberDescriptor, parameter, annotationName, visible }
  let offers ← get
  let rejected := rules.decide offers.size point
  set (offers.push ⟨point, rejected⟩)
  return rejected

def annotations (site : Site) (visible : Bool) (info : Bytes) : Pass Disposition :=
  match site.kind? with
  | none => pure .keep
  | some kind => do
    let filtering ← liftM (AnnotationTree.filterBody (rules.offer site kind none visible) info)
    let outcome ← filtering
    return .ofOutcome outcome

def parameterAnnotations (site : Site) (visible : Bool) (info : Bytes) : Pass Disposition := do
  let filtering ← liftM (AnnotationTree.filterParametersBody
    (fun parameter => rules.offer site .parameter (some parameter) visible) info)
  let outcome ← filtering
  return .ofOutcome outcome

/-- A code body without the nested attributes that the flags name. -/
def code (info : Bytes) : Pass Disposition := do
  let body ← liftM (Code.parse info)
  let names ← body.attributes.mapM fun nested => rules.lookUp nested.nameIndex
  let kept := ((body.attributes.zip names).filter
    fun nested => !rules.flags.dropsFromCode nested.2).map Prod.fst
  if kept.length = body.attributes.length then
    return .keep
  else
    let encoded ← liftM ({ body with attributes := kept } : Code).encode
    return .replace encoded

/-- The dispositions that need no look into nested attribute lists. -/
def plainDisposition (site : Site) (role : AttributeRole) (info : Bytes) : Pass Disposition :=
  match role with
  | .annotations visible => rules.annotations site visible info
  | .parameterAnnotations visible =>
    match site with
    | .method _ _ => rules.parameterAnnotations site visible info
    | _ => pure .keep
  | .code =>
    if rules.flags.skipCode then pure .drop
    else if rules.flags.skipDebug || rules.flags.skipFrames then rules.code info
    else pure .keep
  | .debugInfo => pure (if rules.flags.skipDebug then .drop else .keep)
  | .record | .other => pure .keep

/-- What is left of an attribute list, and whether that differs from the list. -/
def filterList (disposition : AttributeRole → Bytes → Pass Disposition) :
    List Attribute → Pass (List Attribute × Bool)
  | [] => pure ([], false)
  | item :: rest => do
    let name ← rules.lookUp item.nameIndex
    let fate ← disposition (.ofName name) item.info
    let (kept, changed) ← filterList disposition rest
    match fate with
    | .keep => return (item :: kept, changed)
    | .drop => return (kept, true)
    | .replace info => return ({ item with info } :: kept, true)

/-- A list of attributes outside the class body: a `Record` there is an attribute like any other. -/
def memberAttributes (site : Site) (attributes : List Attribute) : Pass (List Attribute × Bool) :=
  rules.filterList (rules.plainDisposition site) attributes

def components : List RecordComponent → Pass (List RecordComponent × Bool)
  | [] => pure ([], false)
  | component :: rest => do
    let name ← rules.lookUp component.nameIndex
    let descriptor ← rules.lookUp component.descriptorIndex
    let (attributes, changed) ←
      rules.memberAttributes (.component name descriptor) component.attributes
    let (others, othersChanged) ← components rest
    return ({ component with attributes } :: others, changed || othersChanged)

def record (info : Bytes) : Pass Disposition := do
  let list ← liftM (RecordComponent.parseList info)
  let (kept, changed) ← rules.components list
  if changed then
    let encoded ← liftM (RecordComponent.encodeList kept)
    return .replace encoded
  else
    return .keep

def classAttributes (attributes : List Attribute) : Pass (List Attribute × Bool) :=
  rules.filterList
    (fun role info =>
      match role with
      | .record => rules.record info
      | role => rules.plainDisposition .classBody role info)
    attributes

def members (site : String → String → Site) : List Member → Pass (List Member × Bool)
  | [] => pure ([], false)
  | member :: rest => do
    let name ← rules.lookUp member.nameIndex
    let descriptor ← rules.lookUp member.descriptorIndex
    let (attributes, changed) ← rules.memberAttributes (site name descriptor) member.attributes
    let (others, othersChanged) ← members site rest
    return ({ member with attributes } :: others, changed || othersChanged)

/-- The class without what was dropped, and whether anything was. -/
def classFile (file : ClassFile) : Pass (ClassFile × Bool) := do
  let (attributes, attributesChanged) ← rules.classAttributes file.attributes
  let (fields, fieldsChanged) ← rules.members .field file.fields
  let (methods, methodsChanged) ← rules.members .method file.methods
  return ({ file with attributes, fields, methods },
    attributesChanged || fieldsChanged || methodsChanged)

end PassRules

/-- Outcome of the pass over one class. -/
structure PurgedClass where
  /-- Dotted name of the class. -/
  className : String
  /-- The class written again, or none when the input stands as it is. -/
  bytes : Option Bytes
  /-- Every point that was offered, in order, with its verdict. -/
  offers : List Offer
  deriving DecidableEq, Repr

namespace PurgedClass

/-- The points that were dropped, in the order in which they were offered. -/
def removed (purged : PurgedClass) : List Removal :=
  (purged.offers.filter (·.rejected)).map (·.point.removal)

/-- Drops every point that the decision rejects and what the flags name. -/
def ofBytes (data : Bytes) (flags : StripFlags) (decide : Decision) :
    Except Malformation PurgedClass := do
  let file ← ClassFile.parse data
  let name ← file.name
  let className := dotted name.toList
  let rules : PassRules := { pool := file.pool, className, flags, decide }
  let ((edited, changed), offers) ← (rules.classFile file).run #[]
  if changed then
    let bytes ← edited.encode
    return { className, bytes := some bytes, offers := offers.toList }
  else
    return { className, bytes := none, offers := offers.toList }

end PurgedClass

end Unannotate
