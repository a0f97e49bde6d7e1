import Mathlib.Data.List.Forall2
import Unannotate.Proofs.AnnotationTree.Lossless
import Unannotate.Proofs.ClassFile.Lossless
import Unannotate.Proofs.Purge.Census
import Unannotate.Proofs.Purge.Purgeable

/-!
# The reference edit of a class file

`ClassFile.survey` finds the points of a class file and says, for any verdicts on them, which class file
is left: annotations are dropped from the trees that are read, attributes from lists, and whatever
remains is written by its layout. There is no pass, no record of what changed and no fault after reading
here; a body that loses nothing comes out as it was because it is the layout of what was read from it.
-/
set_option autoImplicit false

namespace Unannotate

open Reader

/-- The flags name three tables of a code body for debuggers and one with stack frames. -/
def StripFlags.stripsFromCode (flags : StripFlags) (name : String) : Bool :=
  flags.skipDebug && name ∈ ["LineNumberTable", "LocalVariableTable", "LocalVariableTypeTable"]
    || flags.skipFrames && name = "StackMapTable"

/-! ## Bodies with annotations -/

/-- What is left of an attribute that is there for its annotations: nothing when it loses the last. -/
def remainingBody (before after : Nat) (written : Bytes) : Option Bytes :=
  if after = 0 ∧ before ≠ 0 then none else some written

namespace ClassContext

variable (context : ClassContext) (flags : StripFlags)

def surveyVerdict (site : Site) (kind : ElementKind) (parameter : Option UInt8) (visible : Bool)
    (tree : AnnotationTree) : Except Malformation (Purgeable Bool) := do
  let point ← context.point site kind parameter visible tree
  return .verdict point

/-- A tree is left as it is, unless its point is rejected. -/
def surveyTree (site : Site) (kind : ElementKind) (parameter : Option UInt8) (visible : Bool)
    (tree : AnnotationTree) : Except Malformation (Purgeable (Option AnnotationTree)) :=
  Survey.map (fun rejected => if rejected then none else some tree)
    (context.surveyVerdict site kind parameter visible tree)

def surveyTrees (site : Site) (kind : ElementKind) (parameter : Option UInt8) (visible : Bool) :
    List AnnotationTree → Except Malformation (Purgeable (List AnnotationTree)) :=
  Survey.filterMap (context.surveyTree site kind parameter visible)

def surveyAnnotations (site : Site) (kind : ElementKind) (visible : Bool) (info : Bytes) :
    Except Malformation (Purgeable (Option Bytes)) := do
  let trees ← AnnotationTree.parseList info
  Survey.map (fun kept => remainingBody trees.length kept.length (AnnotationTree.encodeList kept))
    (context.surveyTrees site kind none visible trees)

/-- Every parameter keeps its list, if only an empty one. -/
def surveyParameterLists (site : Site) (visible : Bool) (first : Nat)
    (lists : List (List AnnotationTree)) :
    Except Malformation (Purgeable (List (List AnnotationTree))) :=
  Survey.traverse
    (fun item => context.surveyTrees site .parameter (some (UInt8.ofNat item.2)) visible item.1)
    (lists.zipIdx first)

def surveyParameters (site : Site) (visible : Bool) (info : Bytes) :
    Except Malformation (Purgeable (Option Bytes)) := do
  let lists ← AnnotationTree.parseParameters info
  Survey.map
    (fun kept => remainingBody lists.flatten.length kept.flatten.length
      (AnnotationTree.encodeParameters kept))
    (context.surveyParameterLists site visible 0 lists)

/-! ## Attribute lists -/

/-- An attribute keeps its name, given what is left of a body of a certain name. -/
def surveyAttribute (ofBody : String → Bytes → Except Malformation (Purgeable (Option Bytes)))
    (item : Attribute) : Except Malformation (Purgeable (Option Attribute)) := do
  let name ← context.pool.text item.nameIndex
  Survey.map (Option.map fun info => { item with info }) (ofBody name item.info)

def surveyList (ofBody : String → Bytes → Except Malformation (Purgeable (Option Bytes))) :
    List Attribute → Except Malformation (Purgeable (List Attribute)) :=
  Survey.filterMap (context.surveyAttribute ofBody)

/-- Nothing in a code body is decided about; it only loses what the flags name. -/
def surveyNested : List Attribute → Except Malformation (Purgeable (List Attribute)) :=
  context.surveyList fun name body =>
    Survey.fixed (if flags.stripsFromCode name then none else some body)

def surveyCode (info : Bytes) : Except Malformation (Purgeable (Option Bytes)) := do
  let code ← Code.parse info
  Survey.map (fun attributes => some ({ code with attributes } : Code).layout)
    (context.surveyNested flags code.attributes)

def surveyBody (site : Site) (name : String) (info : Bytes) :
    Except Malformation (Purgeable (Option Bytes)) :=
  match AttributeView.of site name with
  | .annotations kind visible => context.surveyAnnotations site kind visible info
  | .parameters visible => context.surveyParameters site visible info
  | .code =>
    if flags.skipCode then Survey.fixed none
    else if flags.skipDebug || flags.skipFrames then context.surveyCode flags info
    else Survey.fixed (some info)
  | .debugInfo => Survey.fixed (if flags.skipDebug then none else some info)
  | .record | .other => Survey.fixed (some info)

/-! ## Classes and what has attribute lists in them -/

/-- What has a name, a type and a list of attributes only loses attributes. -/
def surveyNamed {α : Type} (place : String → String → Site) (nameIndex descriptorIndex : UInt16)
    (attributes : List Attribute) (around : List Attribute → α) :
    Except Malformation (Purgeable α) := do
  let name ← context.pool.text nameIndex
  let descriptor ← context.pool.text descriptorIndex
  Survey.map around (context.surveyList (context.surveyBody flags (place name descriptor)) attributes)

def surveyComponent (component : RecordComponent) : Except Malformation (Purgeable RecordComponent) :=
  context.surveyNamed flags .component component.nameIndex component.descriptorIndex
    component.attributes fun attributes => { component with attributes }

def surveyRecord (info : Bytes) : Except Malformation (Purgeable (Option Bytes)) := do
  let components ← RecordComponent.parseList info
  Survey.map (fun kept => some (RecordComponent.listLayout kept))
    (Survey.traverse (context.surveyComponent flags) components)

def surveyClassBody (name : String) (info : Bytes) : Except Malformation (Purgeable (Option Bytes)) :=
  match AttributeView.of .classBody name with
  | .record => context.surveyRecord flags info
  | _ => context.surveyBody flags .classBody name info

def surveyMember (place : String → String → Site) (member : Member) :
    Except Malformation (Purgeable Member) :=
  context.surveyNamed flags place member.nameIndex member.descriptorIndex member.attributes
    fun attributes => { member with attributes }

def surveyFile (file : ClassFile) : Except Malformation (Purgeable ClassFile) :=
  Survey.map₂ (fun attributes members =>
      { file with attributes, fields := members.1, methods := members.2 })
    (context.surveyList (context.surveyClassBody flags) file.attributes)
    (Survey.map₂ Prod.mk (Survey.traverse (context.surveyMember flags .field) file.fields)
      (Survey.traverse (context.surveyMember flags .method) file.methods))

/-! ## Bodies of each kind -/

section Bodies

variable {context} {flags} {site : Site} {name : String}

theorem surveyBody_of_annotations {kind : ElementKind} {visible : Bool}
    (view : AttributeView.of site name = .annotations kind visible) :
    context.surveyBody flags site name = context.surveyAnnotations site kind visible := by
  funext info
  simp only [surveyBody, view]

theorem surveyBody_of_parameters {visible : Bool}
    (view : AttributeView.of site name = .parameters visible) :
    context.surveyBody flags site name = context.surveyParameters site visible := by
  funext info
  simp only [surveyBody, view]

theorem surveyBody_of_code (view : AttributeView.of site name = .code) (info : Bytes) :
    context.surveyBody flags site name info =
      if flags.skipCode then Survey.fixed none
      else if flags.skipDebug || flags.skipFrames then context.surveyCode flags info
      else Survey.fixed (some info) := by
  simp only [surveyBody, view]

theorem surveyBody_of_debugInfo (view : AttributeView.of site name = .debugInfo) (info : Bytes) :
    context.surveyBody flags site name info
      = Survey.fixed (if flags.skipDebug then none else some info) := by
  simp only [surveyBody, view]

theorem surveyBody_of_other (view : AttributeView.of site name = .record ∨
    AttributeView.of site name = .other) (info : Bytes) :
    context.surveyBody flags site name info = Survey.fixed (some info) := by
  obtain view | view := view <;> simp only [surveyBody, view]

theorem surveyClassBody_of_record (view : AttributeView.of .classBody name = .record) :
    context.surveyClassBody flags name = context.surveyRecord flags := by
  funext info
  simp only [surveyClassBody, view]

theorem surveyClassBody_of_not_record (view : AttributeView.of .classBody name ≠ .record) :
    context.surveyClassBody flags name = context.surveyBody flags .classBody name := by
  funext info
  unfold surveyClassBody
  split
  · next isRecord => exact absurd isRecord view
  · rfl

end Bodies

/-! ## What a survey that succeeds has found -/

section Found

variable {context} {flags} {site : Site} {kind : ElementKind} {parameter : Option UInt8} {visible : Bool}
  {info : Bytes}

theorem surveyTree_eq_ok {tree : AnnotationTree} {part : Purgeable (Option AnnotationTree)}
    (found : context.surveyTree site kind parameter visible tree = .ok part) :
    ∃ point, context.point site kind parameter visible tree = .ok point ∧
      part = (Purgeable.verdict point).map fun rejected => if rejected then none else some tree := by
  obtain ⟨verdict, verdictFound, rfl⟩ := Survey.map_eq_ok_iff.mp found
  obtain ⟨point, pointFound, returned⟩ := outcome_bind_ok_iff.mp verdictFound
  cases returned
  exact ⟨point, pointFound, rfl⟩

theorem surveyAnnotations_eq_ok {part : Purgeable (Option Bytes)}
    (found : context.surveyAnnotations site kind visible info = .ok part) :
    ∃ trees kept, AnnotationTree.ListFits trees ∧ info = AnnotationTree.encodeList trees ∧
      context.surveyTrees site kind none visible trees = .ok kept ∧
      part = kept.map fun kept =>
        remainingBody trees.length kept.length (AnnotationTree.encodeList kept) := by
  obtain ⟨trees, parsed, treesFound⟩ := outcome_bind_ok_iff.mp found
  obtain ⟨kept, keptFound, same⟩ := Survey.map_eq_ok_iff.mp treesFound
  obtain ⟨fits, written⟩ := (AnnotationTree.parseList_eq_ok_iff info trees).mp parsed
  exact ⟨trees, kept, fits, written, keptFound, same⟩

theorem surveyParameters_eq_ok {part : Purgeable (Option Bytes)}
    (found : context.surveyParameters site visible info = .ok part) :
    ∃ lists kept, AnnotationTree.ParametersFit lists ∧
      info = AnnotationTree.encodeParameters lists ∧
      context.surveyParameterLists site visible 0 lists = .ok kept ∧
      part = kept.map fun kept => remainingBody lists.flatten.length kept.flatten.length
        (AnnotationTree.encodeParameters kept) := by
  obtain ⟨lists, parsed, listsFound⟩ := outcome_bind_ok_iff.mp found
  obtain ⟨kept, keptFound, same⟩ := Survey.map_eq_ok_iff.mp listsFound
  obtain ⟨fits, written⟩ := (AnnotationTree.parseParameters_eq_ok_iff info lists).mp parsed
  exact ⟨lists, kept, fits, written, keptFound, same⟩

theorem surveyAttribute_eq_ok
    {ofBody : String → Bytes → Except Malformation (Purgeable (Option Bytes))} {item : Attribute}
    {part : Purgeable (Option Attribute)} (found : context.surveyAttribute ofBody item = .ok part) :
    ∃ name body, context.pool.text item.nameIndex = .ok name ∧ ofBody name item.info = .ok body ∧
      part = body.map (Option.map fun info => { item with info }) := by
  obtain ⟨name, named, bodyMapped⟩ := outcome_bind_ok_iff.mp found
  obtain ⟨body, bodyFound, same⟩ := Survey.map_eq_ok_iff.mp bodyMapped
  exact ⟨name, body, named, bodyFound, same⟩

theorem surveyCode_eq_ok {part : Purgeable (Option Bytes)}
    (found : context.surveyCode flags info = .ok part) :
    ∃ (code : Code) (kept : Purgeable (List Attribute)), code.Fits ∧ info = code.layout ∧
      context.surveyNested flags code.attributes = .ok kept ∧
      part = kept.map fun attributes => some ({ code with attributes } : Code).layout := by
  obtain ⟨code, parsed, nestedMapped⟩ := outcome_bind_ok_iff.mp found
  obtain ⟨kept, keptFound, same⟩ := Survey.map_eq_ok_iff.mp nestedMapped
  obtain ⟨fits, written⟩ := (Code.parse_eq_ok_iff info code).mp parsed
  exact ⟨code, kept, fits, written, keptFound, same⟩

theorem surveyNamed_eq_ok {α : Type} {place : String → String → Site}
    {nameIndex descriptorIndex : UInt16} {attributes : List Attribute} {around : List Attribute → α}
    {part : Purgeable α}
    (found : context.surveyNamed flags place nameIndex descriptorIndex attributes around = .ok part) :
    ∃ name descriptor kept, context.pool.text nameIndex = .ok name ∧
      context.pool.text descriptorIndex = .ok descriptor ∧
      context.surveyList (context.surveyBody flags (place name descriptor)) attributes = .ok kept ∧
      part = kept.map around := by
  obtain ⟨name, named, afterName⟩ := outcome_bind_ok_iff.mp found
  obtain ⟨descriptor, described, listMapped⟩ := outcome_bind_ok_iff.mp afterName
  obtain ⟨kept, keptFound, same⟩ := Survey.map_eq_ok_iff.mp listMapped
  exact ⟨name, descriptor, kept, named, described, keptFound, same⟩

theorem surveyRecord_eq_ok {part : Purgeable (Option Bytes)}
    (found : context.surveyRecord flags info = .ok part) :
    ∃ components kept, RecordComponent.ListFits components ∧
      info = RecordComponent.listLayout components ∧
      Survey.traverse (context.surveyComponent flags) components = .ok kept ∧
      part = kept.map fun kept => some (RecordComponent.listLayout kept) := by
  obtain ⟨components, parsed, componentsMapped⟩ := outcome_bind_ok_iff.mp found
  obtain ⟨kept, keptFound, same⟩ := Survey.map_eq_ok_iff.mp componentsMapped
  obtain ⟨fits, written⟩ := (RecordComponent.parseList_eq_ok_iff info components).mp parsed
  exact ⟨components, kept, fits, written, keptFound, same⟩

theorem surveyFile_eq_ok {file : ClassFile} {part : Purgeable ClassFile}
    (found : context.surveyFile flags file = .ok part) :
    ∃ attributes fields methods,
      context.surveyList (context.surveyClassBody flags) file.attributes = .ok attributes ∧
      Survey.traverse (context.surveyMember flags .field) file.fields = .ok fields ∧
      Survey.traverse (context.surveyMember flags .method) file.methods = .ok methods ∧
      part = attributes.map₂ (fun attributes members =>
        { file with attributes, fields := members.1, methods := members.2 })
        (fields.map₂ Prod.mk methods) := by
  obtain ⟨attributes, members, attributesFound, membersFound, same⟩ := Survey.map₂_eq_ok_iff.mp found
  obtain ⟨fields, methods, fieldsFound, methodsFound, rfl⟩ := Survey.map₂_eq_ok_iff.mp membersFound
  exact ⟨attributes, fields, methods, attributesFound, fieldsFound, methodsFound, same⟩

end Found

end ClassContext

/-- The points of a class file and, for any verdicts on them, the class file that is left. -/
def ClassFile.survey (flags : StripFlags) (file : ClassFile) :
    Except Malformation (Purgeable ClassFile) := do
  let context ← file.context
  context.surveyFile flags file

end Unannotate
