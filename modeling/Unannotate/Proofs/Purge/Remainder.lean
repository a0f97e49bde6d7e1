import Mathlib.Data.List.Flatten
import Unannotate.Proofs.Purge.Survey

/-!
# What a purge leaves is part of what was there

For any verdicts, the attributes that are left of a list are some of it in its order, under the names
they had and with bodies that are no longer than they were; components, fields and methods all stay.
So what is left of a class file that fits its counts and lengths fits them again.
-/
set_option autoImplicit false

namespace Unannotate

open Reader

/-! ## Attribute lists and what has them -/

namespace Attribute

/-- An attribute keeps its name, and its body does not grow. -/
structure Remains (left item : Attribute) : Prop where
  nameIndex : left.nameIndex = item.nameIndex
  length_le : left.info.length ≤ item.info.length

instance : Std.Refl Remains := ⟨fun _ => ⟨rfl, Nat.le_refl _⟩⟩

abbrev ListRemains : List Attribute → List Attribute → Prop := List.SublistForall₂ Remains

theorem ListRemains.length_le {left attributes : List Attribute} (remains : ListRemains left attributes) :
    left.length ≤ attributes.length := by
  obtain ⟨staying, remaining, part⟩ := List.sublistForall₂_iff.mp remains
  exact remaining.length_eq ▸ part.length_le

theorem ListRemains.listFits {left attributes : List Attribute} (remains : ListRemains left attributes)
    (fits : ListFits attributes) : ListFits left :=
  CountedFits.ofSublistForall₂
    (fun _ _ itemRemains itemFits => Nat.lt_of_le_of_lt itemRemains.length_le itemFits) remains fits

theorem ListRemains.length_layout_le {left attributes : List Attribute}
    (remains : ListRemains left attributes) :
    (listLayout left).length ≤ (listLayout attributes).length := by
  have items : (left.flatMap layout).length ≤ (attributes.flatMap layout).length := by
    induction remains with
    | nil => exact Nat.zero_le _
    | @cons item other _ _ headRemains _ ih =>
      have head := headRemains.length_le
      simp only [List.flatMap_cons, List.length_append, layout, Bytes.length_ofUInt16,
        Bytes.length_bigEndian]
      omega
    | cons_right _ ih =>
      rw [List.flatMap_cons, List.length_append]
      exact Nat.le_add_left_of_le ih
  simp only [listLayout, countedLayout, List.length_append, Bytes.length_bigEndian]
  omega

end Attribute

/-- A component keeps its name and type. -/
structure RecordComponent.Remains (left component : RecordComponent) : Prop where
  nameIndex : left.nameIndex = component.nameIndex
  descriptorIndex : left.descriptorIndex = component.descriptorIndex
  attributes : Attribute.ListRemains left.attributes component.attributes

/-- All components stay, in their order. -/
abbrev RecordComponent.ListRemains : List RecordComponent → List RecordComponent → Prop :=
  List.Forall₂ RecordComponent.Remains

/-- A field or method keeps its access flags, name and type. -/
structure Member.Remains (left member : Member) : Prop where
  accessFlags : left.accessFlags = member.accessFlags
  nameIndex : left.nameIndex = member.nameIndex
  descriptorIndex : left.descriptorIndex = member.descriptorIndex
  attributes : Attribute.ListRemains left.attributes member.attributes

abbrev Member.ListRemains : List Member → List Member → Prop := List.Forall₂ Member.Remains

/-- Everything but attributes stays, and attributes only go away or lose bytes. -/
structure ClassFile.Remains (left file : ClassFile) : Prop where
  minorVersion : left.minorVersion = file.minorVersion
  majorVersion : left.majorVersion = file.majorVersion
  pool : left.pool = file.pool
  accessFlags : left.accessFlags = file.accessFlags
  thisClass : left.thisClass = file.thisClass
  superClass : left.superClass = file.superClass
  interfaces : left.interfaces = file.interfaces
  fields : Member.ListRemains left.fields file.fields
  methods : Member.ListRemains left.methods file.methods
  attributes : Attribute.ListRemains left.attributes file.attributes

theorem AnnotationTree.ParametersFit.ofForall₂ {kept lists : List (List AnnotationTree)}
    (fits : ParametersFit lists) (part : List.Forall₂ List.Sublist kept lists) :
    ParametersFit kept := by
  refine ⟨?_, forall_mem_of_forall₂ ?_ part fits.2⟩
  · rw [part.length_eq]
    exact fits.1
  · intro kept trees part treesFit
    exact CountedFits.ofSublist treesFit part

theorem RecordComponent.ListRemains.listFits {left components : List RecordComponent}
    (remains : ListRemains left components) (fits : ListFits components) : ListFits left :=
  CountedFits.ofForall₂ (fun _ _ itemRemains => itemRemains.attributes.listFits) remains fits

theorem RecordComponent.ListRemains.length_layout_le {left components : List RecordComponent}
    (remains : ListRemains left components) :
    (listLayout left).length ≤ (listLayout components).length := by
  have items : (left.flatMap layout).length ≤ (components.flatMap layout).length := by
    induction remains with
    | nil => exact Nat.le_refl _
    | cons headRemains _ ih =>
      have head := headRemains.attributes.length_layout_le
      simp only [List.flatMap_cons, List.length_append, layout, Bytes.length_ofUInt16]
      omega
  simp only [listLayout, countedLayout, List.length_append, Bytes.length_bigEndian]
  omega

theorem Member.ListRemains.fits {left members : List Member} (remains : ListRemains left members)
    (membersFit : CountedFits Fits members) : CountedFits Fits left :=
  CountedFits.ofForall₂ (fun _ _ itemRemains => itemRemains.attributes.listFits) remains membersFit

theorem ClassFile.Remains.fits {left file : ClassFile} (remains : left.Remains file)
    (fileFits : file.Fits) : left.Fits where
  pool := by
    rw [remains.pool]
    exact fileFits.pool
  interfaces := by
    rw [remains.interfaces]
    exact fileFits.interfaces
  fields := remains.fields.fits fileFits.fields
  methods := remains.methods.fits fileFits.methods
  attributes := remains.attributes.listFits fileFits.attributes

theorem ClassFile.Remains.name {left file : ClassFile} (remains : left.Remains file) :
    left.name = file.name := by
  rw [ClassFile.name, ClassFile.name, remains.pool, remains.thisClass]

theorem ClassFile.Remains.context {left file : ClassFile} (remains : left.Remains file) :
    left.context = file.context := by
  rw [ClassFile.context, ClassFile.context, remains.name, remains.pool]

/-! ## What the surveys leave -/

namespace ClassContext

variable {context : ClassContext} {flags : StripFlags} {site : Site} {kind : ElementKind}
  {parameter : Option UInt8} {visible : Bool}

theorem surveyTrees_sublist {trees : List AnnotationTree} {part : Purgeable (List AnnotationTree)}
    (found : context.surveyTrees site kind parameter visible trees = .ok part) (decision : Decision)
    (first : Nat) : (part.left decision first).Sublist trees := by
  have each : ∀ tree part, context.surveyTree site kind parameter visible tree = .ok part →
      ∀ decision first kept, part.left decision first = some kept → kept = tree := by
    intro tree part found decision first kept left
    obtain ⟨point, -, rfl⟩ := surveyTree_eq_ok found
    revert left
    show (if decision first point then none else some tree) = some kept → kept = tree
    split
    · intro left
      cases left
    · intro left
      exact (Option.some.inj left).symm
  exact Survey.sublist_of_filterMap each trees part found decision first

theorem surveyParameterLists_sublist {first : Nat} {lists : List (List AnnotationTree)}
    {part : Purgeable (List (List AnnotationTree))}
    (found : context.surveyParameterLists site visible first lists = .ok part) (decision : Decision)
    (ordinal : Nat) : List.Forall₂ List.Sublist (part.left decision ordinal) lists := by
  have remains : List.Forall₂ (fun kept item => List.Sublist kept (Prod.fst item))
      (part.left decision ordinal) (lists.zipIdx first) := by
    refine Survey.traverse_leaves ?_ _ part found decision ordinal
    intro item part found
    exact surveyTrees_sublist found
  rw [← List.forall₂_map_right_iff, List.zipIdx_map_fst] at remains
  exact remains

/-- No body grows, whatever its attribute is called. -/
def Shrinks (ofBody : String → Bytes → Except Malformation (Purgeable (Option Bytes))) : Prop :=
  ∀ name info part, ofBody name info = .ok part → ∀ decision first left,
    part.left decision first = some left → left.length ≤ info.length

theorem length_le_of_remainingBody {before after : Nat} {written left info : Bytes}
    (remaining : remainingBody before after written = some left)
    (written_le : written.length ≤ info.length) : left.length ≤ info.length := by
  unfold remainingBody at remaining
  split at remaining
  · cases remaining
  · cases remaining
    exact written_le

theorem length_encodeList_le {kept trees : List AnnotationTree} (part : kept.Sublist trees) :
    (AnnotationTree.encodeList kept).length ≤ (AnnotationTree.encodeList trees).length := by
  have items : (kept.flatMap AnnotationTree.encode).Sublist (trees.flatMap AnnotationTree.encode) :=
    part.flatMap _
  have shorter := items.length_le
  simp only [AnnotationTree.encodeList, List.length_append, Bytes.length_bigEndian]
  omega

theorem length_encodeParameters_le {kept lists : List (List AnnotationTree)}
    (part : List.Forall₂ List.Sublist kept lists) :
    (AnnotationTree.encodeParameters kept).length
      ≤ (AnnotationTree.encodeParameters lists).length := by
  have items : (kept.flatMap AnnotationTree.encodeList).length
      ≤ (lists.flatMap AnnotationTree.encodeList).length := by
    induction part with
    | nil => exact Nat.le_refl _
    | cons headPart _ ih =>
      have head := length_encodeList_le headPart
      simp only [List.flatMap_cons, List.length_append]
      omega
  simp only [AnnotationTree.encodeParameters, List.length_append, Bytes.length_bigEndian]
  omega

theorem surveyAnnotations_length_le {info left : Bytes} {part : Purgeable (Option Bytes)}
    (found : context.surveyAnnotations site kind visible info = .ok part) {decision : Decision}
    {first : Nat} (remaining : part.left decision first = some left) : left.length ≤ info.length := by
  obtain ⟨trees, kept, -, rfl, keptFound, rfl⟩ := surveyAnnotations_eq_ok found
  exact length_le_of_remainingBody remaining
    (length_encodeList_le (surveyTrees_sublist keptFound decision first))

theorem surveyParameters_length_le {info left : Bytes} {part : Purgeable (Option Bytes)}
    (found : context.surveyParameters site visible info = .ok part) {decision : Decision}
    {first : Nat} (remaining : part.left decision first = some left) : left.length ≤ info.length := by
  obtain ⟨lists, kept, -, rfl, keptFound, rfl⟩ := surveyParameters_eq_ok found
  exact length_le_of_remainingBody remaining
    (length_encodeParameters_le (surveyParameterLists_sublist keptFound decision first))

theorem surveyList_remains
    {ofBody : String → Bytes → Except Malformation (Purgeable (Option Bytes))}
    (shrinks : Shrinks ofBody) {attributes : List Attribute} {part : Purgeable (List Attribute)}
    (found : context.surveyList ofBody attributes = .ok part) (decision : Decision) (first : Nat) :
    Attribute.ListRemains (part.left decision first) attributes := by
  refine Survey.filterMap_leaves ?_ attributes part found decision first
  intro item part itemFound decision first left remaining
  obtain ⟨name, body, -, bodyFound, rfl⟩ := surveyAttribute_eq_ok itemFound
  obtain ⟨info, infoLeft, rfl⟩ := Option.map_eq_some_iff.mp remaining
  exact ⟨rfl, shrinks name item.info body bodyFound decision first info infoLeft⟩

/-- A code body keeps attributes as they are or drops them. -/
theorem surveyNested_sublist {attributes : List Attribute} {part : Purgeable (List Attribute)}
    (found : context.surveyNested flags attributes = .ok part) (decision : Decision) (first : Nat) :
    (part.left decision first).Sublist attributes := by
  refine Survey.sublist_of_filterMap ?_ attributes part found decision first
  intro item part itemFound decision first kept remaining
  obtain ⟨name, body, -, bodyFound, rfl⟩ := surveyAttribute_eq_ok itemFound
  cases bodyFound
  obtain ⟨info, infoLeft, rfl⟩ := Option.map_eq_some_iff.mp remaining
  revert infoLeft
  show (if flags.stripsFromCode name then none else some item.info) = some info → _
  split
  · intro infoLeft
    cases infoLeft
  · intro infoLeft
    cases infoLeft
    rfl

theorem surveyCode_length_le {info left : Bytes} {part : Purgeable (Option Bytes)}
    (found : context.surveyCode flags info = .ok part) {decision : Decision} {first : Nat}
    (remaining : part.left decision first = some left) : left.length ≤ info.length := by
  obtain ⟨code, kept, -, rfl, keptFound, rfl⟩ := surveyCode_eq_ok found
  cases remaining
  have remains : Attribute.ListRemains (kept.left decision first) code.attributes :=
    (surveyNested_sublist keptFound decision first).sublistForall₂
  have nested := remains.length_layout_le
  simp only [Code.layout, Code.encodeFront, List.length_append] at nested ⊢
  omega

theorem shrinks_surveyBody : Shrinks (context.surveyBody flags site) := by
  intro name info part found decision first left remaining
  unfold surveyBody at found
  -- What is not looked into stays as it is or goes away.
  have stays (fate : Option Bytes) (short : fate = none ∨ fate = some info)
      (fixed : Survey.fixed fate = .ok part) : left.length ≤ info.length := by
    cases fixed
    rcases short with rfl | rfl
    · cases remaining
    · cases remaining
      exact Nat.le_refl _
  split at found
  · exact surveyAnnotations_length_le found remaining
  · exact surveyParameters_length_le found remaining
  · split at found
    · exact stays none (.inl rfl) found
    · split at found
      · exact surveyCode_length_le found remaining
      · exact stays (some info) (.inr rfl) found
  · split at found
    · exact stays none (.inl rfl) found
    · exact stays (some info) (.inr rfl) found
  · exact stays (some info) (.inr rfl) found
  · exact stays (some info) (.inr rfl) found

theorem surveyComponents_remain {components : List RecordComponent}
    {part : Purgeable (List RecordComponent)}
    (found : Survey.traverse (context.surveyComponent flags) components = .ok part)
    (decision : Decision) (first : Nat) :
    RecordComponent.ListRemains (part.left decision first) components := by
  refine Survey.traverse_leaves ?_ components part found decision first
  intro component part componentFound decision first
  obtain ⟨name, descriptor, kept, -, -, keptFound, rfl⟩ := surveyNamed_eq_ok componentFound
  exact ⟨rfl, rfl, surveyList_remains shrinks_surveyBody keptFound decision first⟩

theorem shrinks_surveyClassBody : Shrinks (context.surveyClassBody flags) := by
  intro name info part found decision first left remaining
  unfold surveyClassBody at found
  split at found
  · obtain ⟨components, kept, -, rfl, keptFound, rfl⟩ := surveyRecord_eq_ok found
    cases remaining
    exact (surveyComponents_remain keptFound decision first).length_layout_le
  · exact shrinks_surveyBody name info part found decision first left remaining

theorem surveyMembers_remain {place : String → String → Site} {members : List Member}
    {part : Purgeable (List Member)}
    (found : Survey.traverse (context.surveyMember flags place) members = .ok part)
    (decision : Decision) (first : Nat) : Member.ListRemains (part.left decision first) members := by
  refine Survey.traverse_leaves ?_ members part found decision first
  intro member part memberFound decision first
  obtain ⟨name, descriptor, kept, -, -, keptFound, rfl⟩ := surveyNamed_eq_ok memberFound
  exact ⟨rfl, rfl, rfl, surveyList_remains shrinks_surveyBody keptFound decision first⟩

theorem surveyFile_remains {file : ClassFile} {part : Purgeable ClassFile}
    (found : context.surveyFile flags file = .ok part) (decision : Decision) (first : Nat) :
    (part.left decision first).Remains file := by
  obtain ⟨attributes, fields, methods, attributesFound, fieldsFound, methodsFound, rfl⟩ :=
    surveyFile_eq_ok found
  exact {
    minorVersion := rfl, majorVersion := rfl, pool := rfl, accessFlags := rfl, thisClass := rfl
    superClass := rfl, interfaces := rfl
    fields := surveyMembers_remain fieldsFound decision _
    methods := surveyMembers_remain methodsFound decision _
    attributes := surveyList_remains shrinks_surveyClassBody attributesFound decision first }

end ClassContext

theorem ClassFile.survey_remains {flags : StripFlags} {file : ClassFile} {part : Purgeable ClassFile}
    (found : file.survey flags = .ok part) (decision : Decision) (first : Nat) :
    (part.left decision first).Remains file := by
  obtain ⟨context, -, fileFound⟩ := outcome_bind_ok_iff.mp found
  exact ClassContext.surveyFile_remains fileFound decision first

end Unannotate
