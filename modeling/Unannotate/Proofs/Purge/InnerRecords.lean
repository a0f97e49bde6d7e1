import Unannotate.Proofs.Purge.Points

/-!
# Records that are not opened

An attribute `Record` is opened in the list of the class itself. Anywhere else, be it in the list of a field, a
method or a record component or in a code body, it is an attribute like any other: it holds no points, and it
stays, byte for byte, unless the flags drop the code body around it.
-/
set_option autoImplicit false

namespace Unannotate

open Reader

/-! ## The records of a class file -/

namespace ConstantPool

variable (pool : ConstantPool) (flags : StripFlags)

def isNamed (name : String) (item : Attribute) : Bool := pool.text item.nameIndex = .ok name

def recordOf (item : Attribute) : List Attribute := if pool.isNamed "Record" item then [item] else []

/-- The records in a code body, which holds no further lists. -/
def recordsOfCode (info : Bytes) : List Attribute :=
  match Code.parse info with
  | .ok code => code.attributes.flatMap pool.recordOf
  | .error _ => []

/-- What there is of unopened records in an attribute of a certain name. -/
def recordsOfNamed (name : String) (item : Attribute) : List Attribute :=
  if name = "Record" then [item]
  else if name = "Code" then if flags.skipCode then [] else pool.recordsOfCode item.info
  else []

def recordsOfItem (item : Attribute) : List Attribute :=
  match pool.text item.nameIndex with
  | .ok name => pool.recordsOfNamed flags name item
  | .error _ => []

def recordsOfList (attributes : List Attribute) : List Attribute :=
  attributes.flatMap (pool.recordsOfItem flags)

/-- A record of the class itself holds those of its components. -/
def recordsOfComponents (info : Bytes) : List Attribute :=
  match RecordComponent.parseList info with
  | .ok components => components.flatMap fun component => pool.recordsOfList flags component.attributes
  | .error _ => []

def recordsOfClassItem (item : Attribute) : List Attribute :=
  if pool.isNamed "Record" item then pool.recordsOfComponents flags item.info
  else pool.recordsOfItem flags item

end ConstantPool

/-- Every `Record` of a class file that is not in the list of the class itself, in order; those in code
bodies count when the bodies are kept. -/
def ClassFile.innerRecords (flags : StripFlags) (file : ClassFile) : List Attribute :=
  file.attributes.flatMap (file.pool.recordsOfClassItem flags)
    ++ (file.fields.flatMap (fun field => file.pool.recordsOfList flags field.attributes)
      ++ file.methods.flatMap fun method => file.pool.recordsOfList flags method.attributes)

/-- The list of the class itself has an attribute `Record`. -/
def ClassFile.HasRecord (file : ClassFile) : Prop :=
  ∃ item ∈ file.attributes, file.pool.text item.nameIndex = .ok "Record"

namespace AttributeView

variable {site : Site} {name : String} {kind : ElementKind} {visible : Bool}

theorem declared_eq (site : Site) (visible : Bool) :
    declared site visible = .other ∨
      ∃ kind, site.declarationKind? = some kind ∧ declared site visible = .annotations kind visible := by
  unfold declared
  cases site.declarationKind? with
  | none => exact .inl rfl
  | some kind => exact .inr ⟨kind, rfl, rfl⟩

/-- In the list of the class itself a record goes by its name. -/
theorem of_classBody_eq_record_iff : of .classBody name = .record ↔ name = "Record" := by
  rw [PassRules.view_classBody_eq_record_iff]
  unfold AttributeRole.ofName
  split <;> simp_all

theorem kind_of_annotations (view : of site name = .annotations kind visible) :
    site.declarationKind? = some kind := by
  rw [PassRules.view_eq] at view
  cases role : AttributeRole.ofName name with
  | annotations shown =>
    rw [role] at view
    change declared site shown = .annotations kind visible at view
    obtain other | ⟨given, declares, annotated⟩ := declared_eq site shown
    · rw [other] at view
      cases view
    · rw [annotated] at view
      cases view
      exact declares
  | parameterAnnotations shown =>
    rw [role] at view
    cases site <;> cases view
  | record =>
    rw [role] at view
    cases site <;> cases view
  | code | debugInfo | other =>
    rw [role] at view
    cases view

end AttributeView

/-! ## Collections -/

namespace Survey

variable {α β γ δ : Type}

/-- What all parts hold together is what the items held, when this is so for each of them. -/
theorem collect_flatMap {join : β → List γ → List γ} {find : α → Except Malformation (Purgeable β)}
    {held : α → List δ} {leftOf : γ → List δ} (left : β → List δ)
    (joins : ∀ value others, (join value others).flatMap leftOf = left value ++ others.flatMap leftOf)
    (each : ∀ item part, find item = .ok part → ∀ decision first,
      left (part.left decision first) = held item)
    (list : List α) (part : Purgeable (List γ)) (found : collect join find list = .ok part)
    (decision : Decision) (first : Nat) :
    (part.left decision first).flatMap leftOf = list.flatMap held := by
  induction list generalizing part first with
  | nil =>
    cases found
    rfl
  | cons item rest ih =>
    obtain ⟨head, tail, headFound, tailFound, rfl⟩ := map₂_eq_ok_iff.mp found
    have others := ih tail tailFound (first + head.points.length)
    show (join (head.left decision first) (tail.left decision _)).flatMap leftOf = _
    rw [joins, each item head headFound, others, List.flatMap_cons]

theorem traverse_flatMap {find : α → Except Malformation (Purgeable β)} {held : α → List δ}
    (left : β → List δ)
    (each : ∀ item part, find item = .ok part → ∀ decision first,
      left (part.left decision first) = held item)
    (list : List α) (part : Purgeable (List β)) (found : traverse find list = .ok part)
    (decision : Decision) (first : Nat) : (part.left decision first).flatMap left = list.flatMap held :=
  collect_flatMap left (fun _ _ => List.flatMap_cons) each list part found decision first

theorem forall_points_collect {join : β → List γ → List γ}
    {find : α → Except Malformation (Purgeable β)} {holds : AttachmentPoint → Prop}
    (list : List α)
    (each : ∀ item ∈ list, ∀ part, find item = .ok part → ∀ point ∈ part.points, holds point)
    (part : Purgeable (List γ)) (found : collect join find list = .ok part) :
    ∀ point ∈ part.points, holds point := by
  induction list generalizing part with
  | nil =>
    cases found
    intro point member
    cases member
  | cons item rest ih =>
    rw [List.forall_mem_cons] at each
    obtain ⟨head, tail, headFound, tailFound, rfl⟩ := map₂_eq_ok_iff.mp found
    intro point member
    obtain inHead | inTail := List.mem_append.mp member
    · exact each.1 head headFound point inHead
    · exact ih each.2 tail tailFound point inTail

end Survey

namespace ClassContext

variable {context : ClassContext} {flags : StripFlags} {site : Site} {name : String} {info : Bytes}

/-! ## What stays -/

theorem isNamed_iff {pool : ConstantPool} {item : Attribute} :
    pool.isNamed name item = true ↔ pool.text item.nameIndex = .ok name :=
  decide_eq_true_iff

/-- What is left of a list holds the records that the list held. -/
theorem surveyList_records
    {ofBody : String → Bytes → Except Malformation (Purgeable (Option Bytes))}
    (records : Attribute → List Attribute)
    (each : ∀ item name part, context.pool.text item.nameIndex = .ok name →
      ofBody name item.info = .ok part → ∀ decision first,
      (part.left decision first).toList.flatMap (fun info => records { item with info }) = records item)
    {attributes : List Attribute} {part : Purgeable (List Attribute)}
    (found : context.surveyList ofBody attributes = .ok part) (decision : Decision) (first : Nat) :
    (part.left decision first).flatMap records = attributes.flatMap records := by
  refine Survey.collect_flatMap (fun left => left.toList.flatMap records)
    (fun value others => List.flatMap_append) ?_ attributes part found decision first
  intro item part itemFound decision first
  obtain ⟨name, body, named, bodyFound, rfl⟩ := surveyAttribute_eq_ok itemFound
  rw [← each item name body named bodyFound decision first]
  show (Option.map _ (body.left decision first)).toList.flatMap records = _
  cases body.left decision first <;> rfl

/-- What is left of a code body is read back. -/
theorem parse_left_of_surveyNested {code : Code} (fits : code.Fits) {kept : Purgeable (List Attribute)}
    (found : context.surveyNested flags code.attributes = .ok kept) (decision : Decision) (first : Nat) :
    Code.parse ({ code with attributes := kept.left decision first } : Code).layout
      = .ok { code with attributes := kept.left decision first } :=
  (Code.parse_eq_ok_iff _ _).mpr ⟨fits.ofSublist (surveyNested_sublist found decision first), rfl⟩

/-- What is left of the components is read back. -/
theorem parseList_left_of_surveyComponents {components : List RecordComponent}
    (fits : RecordComponent.ListFits components) {kept : Purgeable (List RecordComponent)}
    (found : Survey.traverse (context.surveyComponent flags) components = .ok kept)
    (decision : Decision) (first : Nat) :
    RecordComponent.parseList (RecordComponent.listLayout (kept.left decision first))
      = .ok (kept.left decision first) :=
  (RecordComponent.parseList_eq_ok_iff _ _).mpr
    ⟨(surveyComponents_remain found decision first).listFits fits, rfl⟩

theorem surveyCode_records {part : Purgeable (Option Bytes)}
    (found : context.surveyCode flags info = .ok part) (decision : Decision) (first : Nat) :
    (part.left decision first).toList.flatMap context.pool.recordsOfCode
      = context.pool.recordsOfCode info := by
  obtain ⟨code, kept, fits, rfl, keptFound, rfl⟩ := surveyCode_eq_ok found
  have parsed : Code.parse code.layout = .ok code := (Code.parse_eq_ok_iff _ _).mpr ⟨fits, rfl⟩
  show ([_] : List Bytes).flatMap _ = _
  rw [List.flatMap_singleton, ConstantPool.recordsOfCode, ConstantPool.recordsOfCode, parsed,
    parse_left_of_surveyNested fits keptFound]
  refine surveyList_records context.pool.recordOf ?_ keptFound decision first
  intro item name body named bodyFound decision first
  cases bodyFound
  show (if flags.stripsFromCode name then none else some item.info).toList.flatMap _ = _
  split
  · next stripped =>
    have other : context.pool.recordOf item = [] := by
      refine if_neg fun isRecord => ?_
      obtain rfl := Except.ok.inj (named.symm.trans (isNamed_iff.mp isRecord))
      simp [StripFlags.stripsFromCode] at stripped
    rw [other]
    rfl
  · exact List.flatMap_singleton _ _

/-- Unless it is one of the class itself, a record is nothing that is looked into. -/
theorem surveyBody_records (inner : site ≠ .classBody ∨ name ≠ "Record") {part : Purgeable (Option Bytes)}
    {item : Attribute} (found : context.surveyBody flags site name item.info = .ok part)
    (decision : Decision) (first : Nat) :
    (part.left decision first).toList.flatMap
        (fun info => context.pool.recordsOfNamed flags name { item with info })
      = context.pool.recordsOfNamed flags name item := by
  by_cases isRecord : name = "Record"
  · subst isRecord
    have view : AttributeView.of site "Record" = .other := by
      simp [AttributeView.of, inner.resolve_right (by simp)]
    rw [surveyBody_of_other (.inr view)] at found
    cases found
    rfl
  by_cases isCode : name = "Code"
  · subst isCode
    have view : AttributeView.of site "Code" = .code := by
      simp [AttributeView.of]
    rw [surveyBody_of_code view] at found
    have code (info : Bytes) : context.pool.recordsOfNamed flags "Code" { item with info }
        = if flags.skipCode then [] else context.pool.recordsOfCode info := by
      simp [ConstantPool.recordsOfNamed]
    rw [show context.pool.recordsOfNamed flags "Code" item = _ from code item.info]
    simp only [code]
    split at found
    · next skips =>
      cases found
      simp [skips]
    next keeps =>
    simp only [if_neg keeps]
    split at found
    · exact surveyCode_records found decision first
    · cases found
      exact List.flatMap_singleton _ _
  · simp [ConstantPool.recordsOfNamed, isRecord, isCode]

theorem recordsOfItem_of_named {item : Attribute} (named : context.pool.text item.nameIndex = .ok name)
    (info : Bytes) : context.pool.recordsOfItem flags { item with info }
      = context.pool.recordsOfNamed flags name { item with info } := by
  rw [ConstantPool.recordsOfItem, named]

theorem surveyBodies_records (inner : site ≠ .classBody) {attributes : List Attribute}
    {part : Purgeable (List Attribute)}
    (found : context.surveyList (context.surveyBody flags site) attributes = .ok part)
    (decision : Decision) (first : Nat) :
    context.pool.recordsOfList flags (part.left decision first)
      = context.pool.recordsOfList flags attributes := by
  refine surveyList_records (context.pool.recordsOfItem flags) ?_ found decision first
  intro item name part named bodyFound decision first
  simp only [recordsOfItem_of_named named]
  exact surveyBody_records (.inl inner) bodyFound decision first

theorem surveyMembers_records {place : String → String → Site}
    (inner : ∀ name descriptor, place name descriptor ≠ .classBody) {members : List Member}
    {part : Purgeable (List Member)}
    (found : Survey.traverse (context.surveyMember flags place) members = .ok part)
    (decision : Decision) (first : Nat) :
    ((part.left decision first).flatMap fun member => context.pool.recordsOfList flags member.attributes)
      = members.flatMap fun member => context.pool.recordsOfList flags member.attributes := by
  refine Survey.traverse_flatMap
    (fun member : Member => context.pool.recordsOfList flags member.attributes) ?_ members part found decision first
  intro member part memberFound decision first
  obtain ⟨name, descriptor, kept, -, -, keptFound, rfl⟩ := surveyNamed_eq_ok memberFound
  exact surveyBodies_records (inner name descriptor) keptFound decision first

theorem surveyRecord_records {part : Purgeable (Option Bytes)}
    (found : context.surveyRecord flags info = .ok part) (decision : Decision) (first : Nat) :
    (part.left decision first).toList.flatMap (context.pool.recordsOfComponents flags)
      = context.pool.recordsOfComponents flags info := by
  obtain ⟨components, kept, fits, rfl, keptFound, rfl⟩ := surveyRecord_eq_ok found
  have parsed : RecordComponent.parseList (RecordComponent.listLayout components) = .ok components :=
    (RecordComponent.parseList_eq_ok_iff _ _).mpr ⟨fits, rfl⟩
  show ([_] : List Bytes).flatMap _ = _
  rw [List.flatMap_singleton, ConstantPool.recordsOfComponents, ConstantPool.recordsOfComponents,
    parsed, parseList_left_of_surveyComponents fits keptFound]
  refine Survey.traverse_flatMap
    (fun component : RecordComponent => context.pool.recordsOfList flags component.attributes)
    ?_ components kept keptFound decision first
  intro component part componentFound decision first
  obtain ⟨name, descriptor, kept, -, -, listFound, rfl⟩ := surveyNamed_eq_ok componentFound
  exact surveyBodies_records (by simp) listFound decision first

theorem surveyClassBodies_records {attributes : List Attribute} {part : Purgeable (List Attribute)}
    (found : context.surveyList (context.surveyClassBody flags) attributes = .ok part)
    (decision : Decision) (first : Nat) :
    (part.left decision first).flatMap (context.pool.recordsOfClassItem flags)
      = attributes.flatMap (context.pool.recordsOfClassItem flags) := by
  refine surveyList_records (context.pool.recordsOfClassItem flags) ?_ found decision first
  intro item name part named bodyFound decision first
  have isNamed (info : Bytes) :
      context.pool.isNamed "Record" { item with info } = true ↔ name = "Record" := by
    rw [isNamed_iff, named, Except.ok.injEq]
  by_cases isRecord : name = "Record"
  · have itself (info : Bytes) : context.pool.recordsOfClassItem flags { item with info }
        = context.pool.recordsOfComponents flags info :=
      if_pos ((isNamed info).mpr isRecord)
    subst isRecord
    rw [surveyClassBody_of_record (AttributeView.of_classBody_eq_record_iff.mpr rfl)] at bodyFound
    simp only [itself]
    exact surveyRecord_records bodyFound decision first
  · have itself (info : Bytes) : context.pool.recordsOfClassItem flags { item with info }
        = context.pool.recordsOfNamed flags name { item with info } :=
      (if_neg fun named => isRecord ((isNamed info).mp named)).trans (recordsOfItem_of_named named info)
    have notRecord : AttributeView.of .classBody name ≠ .record :=
      fun view => isRecord (AttributeView.of_classBody_eq_record_iff.mp view)
    rw [surveyClassBody_of_not_record notRecord] at bodyFound
    simp only [itself]
    exact surveyBody_records (.inr isRecord) bodyFound decision first

/-! ## What is offered -/

theorem kind_of_point {kind : ElementKind} {parameter : Option UInt8} {visible : Bool}
    {tree : AnnotationTree} {point : AttachmentPoint}
    (found : context.point site kind parameter visible tree = .ok point) : point.kind = kind := by
  obtain ⟨descriptor, -, found⟩ := outcome_bind_ok_iff.mp found
  obtain ⟨annotationName, -, found⟩ := outcome_bind_ok_iff.mp found
  cases found
  rfl

theorem kind_of_surveyTrees {kind : ElementKind} {parameter : Option UInt8} {visible : Bool}
    {trees : List AnnotationTree} {part : Purgeable (List AnnotationTree)}
    (found : context.surveyTrees site kind parameter visible trees = .ok part) :
    ∀ point ∈ part.points, point.kind = kind := by
  refine Survey.forall_points_collect trees ?_ part found
  intro tree _ part treeFound point member
  obtain ⟨given, pointFound, rfl⟩ := surveyTree_eq_ok treeFound
  obtain rfl := List.mem_singleton.mp member
  exact kind_of_point pointFound

/-- Points of components are found in lists of components only. -/
theorem kind_of_surveyBody (noComponent : site.declarationKind? ≠ some .recordComponent)
    {part : Purgeable (Option Bytes)} (found : context.surveyBody flags site name info = .ok part) :
    ∀ point ∈ part.points, point.kind ≠ .recordComponent := by
  have none (fate : Option Bytes) (fixed : Survey.fixed fate = .ok part) :
      ∀ point ∈ part.points, point.kind ≠ .recordComponent := by
    cases fixed
    intro point member
    cases member
  unfold surveyBody at found
  split at found
  · next kind visible view =>
    obtain ⟨trees, kept, -, -, keptFound, rfl⟩ := surveyAnnotations_eq_ok found
    intro point member isComponent
    rw [kind_of_surveyTrees keptFound point member] at isComponent
    exact noComponent (isComponent ▸ AttributeView.kind_of_annotations view)
  · obtain ⟨lists, kept, -, -, keptFound, rfl⟩ := surveyParameters_eq_ok found
    refine Survey.forall_points_collect _ ?_ kept keptFound
    intro item _ part treesFound point member
    rw [kind_of_surveyTrees treesFound point member]
    decide
  · split at found
    · exact none _ found
    split at found
    · obtain ⟨code, kept, -, -, keptFound, rfl⟩ := surveyCode_eq_ok found
      intro point member
      change point ∈ kept.points at member
      rw [surveyNested_points keptFound] at member
      cases member
    · exact none _ found
  · exact none _ found
  · exact none _ found
  · exact none _ found

theorem kind_of_surveyList
    {ofBody : String → Bytes → Except Malformation (Purgeable (Option Bytes))}
    {attributes : List Attribute}
    (each : ∀ item ∈ attributes, ∀ name part, context.pool.text item.nameIndex = .ok name →
      ofBody name item.info = .ok part → ∀ point ∈ part.points, point.kind ≠ .recordComponent)
    {part : Purgeable (List Attribute)} (found : context.surveyList ofBody attributes = .ok part) :
    ∀ point ∈ part.points, point.kind ≠ .recordComponent := by
  refine Survey.forall_points_collect attributes ?_ part found
  intro item held part itemFound
  obtain ⟨name, body, named, bodyFound, rfl⟩ := surveyAttribute_eq_ok itemFound
  exact each item held name body named bodyFound

theorem kind_of_surveyMembers {place : String → String → Site}
    (noComponent : ∀ name descriptor,
      (place name descriptor).declarationKind? ≠ some .recordComponent)
    {members : List Member} {part : Purgeable (List Member)}
    (found : Survey.traverse (context.surveyMember flags place) members = .ok part) :
    ∀ point ∈ part.points, point.kind ≠ .recordComponent := by
  refine Survey.forall_points_collect members ?_ part found
  intro member _ part memberFound
  obtain ⟨name, descriptor, kept, -, -, keptFound, rfl⟩ := surveyNamed_eq_ok memberFound
  exact kind_of_surveyList
    (fun _ _ _ _ _ bodyFound => kind_of_surveyBody (noComponent name descriptor) bodyFound) keptFound

end ClassContext

namespace ClassFile

variable {flags : StripFlags} {file : ClassFile} {part : Purgeable ClassFile}

/-- A point of a component stands in a record of the class itself. -/
theorem hasRecord_of_point (found : file.survey flags = .ok part) {point : AttachmentPoint}
    (member : point ∈ part.points) (isComponent : point.kind = .recordComponent) : file.HasRecord := by
  obtain ⟨context, read, fileFound⟩ := outcome_bind_ok_iff.mp found
  obtain ⟨className, -, read⟩ := outcome_bind_ok_iff.mp read
  cases read
  obtain ⟨attributes, fields, methods, attributesFound, fieldsFound, methodsFound, rfl⟩ :=
    ClassContext.surveyFile_eq_ok fileFound
  by_contra noRecord
  obtain own | inMembers := List.mem_append.mp member
  · refine ClassContext.kind_of_surveyList ?_ attributesFound point own isComponent
    intro item held name part named bodyFound
    have notRecord : AttributeView.of .classBody name ≠ .record := by
      intro view
      obtain rfl := AttributeView.of_classBody_eq_record_iff.mp view
      exact noRecord ⟨item, held, named⟩
    rw [ClassContext.surveyClassBody_of_not_record notRecord] at bodyFound
    exact ClassContext.kind_of_surveyBody (by decide) bodyFound
  · obtain inFields | inMethods := List.mem_append.mp inMembers
    · exact ClassContext.kind_of_surveyMembers (fun _ _ => by simp [Site.declarationKind?])
        fieldsFound point inFields isComponent
    · refine ClassContext.kind_of_surveyMembers (fun name descriptor => ?_) methodsFound point inMethods
        isComponent
      unfold Site.declarationKind?
      split <;> simp_all

theorem innerRecords_left (found : file.survey flags = .ok part) (decision : Decision) (first : Nat) :
    (part.left decision first).innerRecords flags = file.innerRecords flags := by
  obtain ⟨context, read, fileFound⟩ := outcome_bind_ok_iff.mp found
  obtain ⟨className, -, read⟩ := outcome_bind_ok_iff.mp read
  cases read
  obtain ⟨attributes, fields, methods, attributesFound, fieldsFound, methodsFound, rfl⟩ :=
    ClassContext.surveyFile_eq_ok fileFound
  have own := ClassContext.surveyClassBodies_records attributesFound decision first
  have inFields := ClassContext.surveyMembers_records (fun _ _ => by simp) fieldsFound decision
    (first + attributes.points.length)
  have inMethods := ClassContext.surveyMembers_records (fun _ _ => by simp) methodsFound decision
    (first + attributes.points.length + fields.points.length)
  exact congrArg₂ (· ++ ·) own (congrArg₂ (· ++ ·) inFields inMethods)

end ClassFile

end Unannotate
