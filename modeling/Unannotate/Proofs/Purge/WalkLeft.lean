import Unannotate.Proofs.Layout.Walk
import Unannotate.Proofs.Purge.Remaining

/-!
# What is left of a class is gone over as the class was

A walk of the layout check over a class file comes out the same for what a purge leaves of it, whatever
is decided, when it comes through or stops at an unknown attribute that stays. A body with fewer
annotations is passed as it was before, a body that goes away was passed, and behind the attribute at
which the check stops nothing counts.
-/
set_option autoImplicit false

namespace Unannotate

open Reader LayoutCheck

/-! ## Walks that stay as they are -/

namespace LayoutWalk

variable {α β : Type}

/-- The check comes through, or it stops at an attribute that it does not know and that stays. -/
def Tolerated (walk : LayoutWalk) : Prop :=
  walk = .ok () ∨ ∃ name, walk = .error (.faulty (.unmatchedAttribute name))

/-- What is left, if anything, is gone over as what was there; what goes away was passed. -/
def Keeps (again : α → LayoutWalk) (before : LayoutWalk) (left : Option α) : Prop :=
  (left = none → before = .ok ()) ∧ ∀ value, left = some value → again value = before

/-- Two parts in a row that stay as they are, where the second counts only behind a first that is
passed. -/
theorem bind_of_tolerated {walk walk' again again' : LayoutWalk} (tolerated : Tolerated (do walk; walk'))
    (first : Tolerated walk → again = walk) (second : Tolerated walk' → again' = walk') :
    (do again; again' : LayoutWalk) = (do walk; walk') := by
  cases walk with
  | ok _ =>
    rw [first (.inl rfl)]
    exact second tolerated
  | error stop =>
    rw [first tolerated]
    rfl

theorem forM_filterMap {find : α → Except Malformation (Purgeable (Option β))} {walk : α → LayoutWalk}
    {again : β → LayoutWalk}
    (each : ∀ item part, find item = .ok part → Tolerated (walk item) → ∀ decision first,
      Keeps again (walk item) (part.left decision first))
    {list : List α} {part : Purgeable (List β)} (found : Survey.filterMap find list = .ok part)
    (tolerated : Tolerated (list.forM walk)) (decision : Decision) (first : Nat) :
    (part.left decision first).forM again = list.forM walk := by
  induction list generalizing part first with
  | nil =>
    cases found
    rfl
  | cons item rest ih =>
    obtain ⟨head, tail, headFound, tailFound, rfl⟩ := Survey.map₂_eq_ok_iff.mp found
    have tolerated : Tolerated (do walk item; rest.forM walk) := tolerated
    have others := fun restTolerated => ih tailFound restTolerated (first + head.points.length)
    show ((head.left decision first).toList ++ tail.left decision _).forM again
      = (do walk item; rest.forM walk)
    cases fate : head.left decision first with
    | none =>
      cases passed : walk item with
      | ok _ =>
        rw [passed] at tolerated
        exact others tolerated
      | error stop =>
        rw [passed] at tolerated
        have through := (each item head headFound (passed ▸ tolerated) decision first).1 fate
        rw [passed] at through
        cases through
    | some value =>
      refine bind_of_tolerated tolerated (fun headTolerated => ?_) others
      exact (each item head headFound headTolerated decision first).2 value fate

theorem forM_traverse {find : α → Except Malformation (Purgeable β)} {walk : α → LayoutWalk}
    {again : β → LayoutWalk}
    (each : ∀ item part, find item = .ok part → Tolerated (walk item) → ∀ decision first,
      again (part.left decision first) = walk item)
    {list : List α} {part : Purgeable (List β)} (found : Survey.traverse find list = .ok part)
    (tolerated : Tolerated (list.forM walk)) (decision : Decision) (first : Nat) :
    (part.left decision first).forM again = list.forM walk := by
  induction list generalizing part first with
  | nil =>
    cases found
    rfl
  | cons item rest ih =>
    obtain ⟨head, tail, headFound, tailFound, rfl⟩ := Survey.map₂_eq_ok_iff.mp found
    have tolerated : Tolerated (do walk item; rest.forM walk) := tolerated
    exact bind_of_tolerated tolerated
      (fun headTolerated => each item head headFound headTolerated decision first)
      (fun restTolerated => ih tailFound restTolerated (first + head.points.length))

end LayoutWalk

open LayoutWalk

/-! ## Bodies -/

namespace ConstantPool

variable {pool : ConstantPool}

/-- A body that goes away is never where a fault is tolerated. -/
theorem walkDropped_eq_ok {name : String} {info : Bytes}
    (tolerated : Tolerated (pool.walkDropped name info)) : pool.walkDropped name info = .ok () := by
  obtain passed | ⟨inner, stopped⟩ := tolerated
  · exact passed
  · unfold walkDropped at stopped
    split at stopped
    · cases stopped
    · next notUnmatched => exact absurd stopped (notUnmatched inner)

theorem walkWhole_annotations (pool : ConstantPool) {name : String} {visible : Bool}
    (role : AttributeRole.ofName name = .annotations visible) {trees : List AnnotationTree}
    (fits : AnnotationTree.ListFits trees) :
    pool.walkWhole name (AnnotationTree.encodeList trees) = .ok () := by
  have covers := covers_annotations fits (Nat.le_refl _)
  apply alone_of_covers
  unfold AttributeRole.ofName at role
  split at role
  · exact covers_room covers
  · exact covers
  all_goals cases role

theorem walkWhole_parameters (pool : ConstantPool) {name : String} {visible : Bool}
    (role : AttributeRole.ofName name = .parameterAnnotations visible)
    {lists : List (List AnnotationTree)} (fits : AnnotationTree.ParametersFit lists) :
    pool.walkWhole name (AnnotationTree.encodeParameters lists) = .ok () := by
  have covers := covers_parameters fits (Nat.le_refl _)
  apply alone_of_covers
  unfold AttributeRole.ofName at role
  split at role
  · cases role
  · cases role
  · exact covers
  · exact covers
  all_goals cases role

end ConstantPool

namespace ClassContext

variable {context : ClassContext} {flags : StripFlags} {site : Site} {kind : ElementKind}
  {visible : Bool} {name : String} {info : Bytes}

theorem keeps_fixed {part : Purgeable (Option Bytes)} (again : Bytes → LayoutWalk)
    (found : Survey.fixed (some info) = .ok part) (decision : Decision) (first : Nat) :
    Keeps again (again info) (part.left decision first) := by
  cases found
  constructor
  · intro gone
    cases gone
  · intro left remaining
    cases remaining
    rfl

theorem keeps_dropped {part : Purgeable (Option Bytes)} {again : Bytes → LayoutWalk}
    (found : Survey.fixed none = .ok part)
    (tolerated : Tolerated (context.pool.walkDropped name info)) (decision : Decision) (first : Nat) :
    Keeps again (context.pool.walkDropped name info) (part.left decision first) := by
  cases found
  constructor
  · intro _
    exact ConstantPool.walkDropped_eq_ok tolerated
  · intro left remaining
    cases remaining

/-- A body that is passed with all that is in it, and with what is left in it. -/
theorem keeps_remainingBody {again : Bytes → LayoutWalk} {before after : Nat} {written : Bytes}
    (passed : again info = .ok ()) (passedAgain : again written = .ok ()) :
    Keeps again (again info) (remainingBody before after written) := by
  constructor
  · intro _
    exact passed
  · intro left remaining
    rw [passed, eq_of_remainingBody remaining, passedAgain]

theorem keeps_surveyAnnotations (role : AttributeRole.ofName name = .annotations visible)
    {part : Purgeable (Option Bytes)}
    (found : context.surveyAnnotations site kind visible info = .ok part) (decision : Decision)
    (first : Nat) :
    Keeps (context.pool.walkWhole name) (context.pool.walkWhole name info)
      (part.left decision first) := by
  obtain ⟨trees, kept, fits, rfl, keptFound, rfl⟩ := surveyAnnotations_eq_ok found
  have sublist := surveyTrees_sublist keptFound decision first
  exact keeps_remainingBody (context.pool.walkWhole_annotations role fits)
    (context.pool.walkWhole_annotations role (CountedFits.ofSublist fits sublist))

theorem keeps_surveyParameters (role : AttributeRole.ofName name = .parameterAnnotations visible)
    {part : Purgeable (Option Bytes)}
    (found : context.surveyParameters site visible info = .ok part) (decision : Decision)
    (first : Nat) :
    Keeps (context.pool.walkWhole name) (context.pool.walkWhole name info)
      (part.left decision first) := by
  obtain ⟨lists, kept, fits, rfl, keptFound, rfl⟩ := surveyParameters_eq_ok found
  have sublists := surveyParameterLists_sublist keptFound decision first
  exact keeps_remainingBody (context.pool.walkWhole_parameters role fits)
    (context.pool.walkWhole_parameters role (fits.ofForall₂ sublists))

/-! ## Attributes -/

theorem walkList_surveyList
    {ofBody : String → Bytes → Except Malformation (Purgeable (Option Bytes))}
    {walk : String → Bytes → LayoutWalk}
    (each : ∀ name info part, ofBody name info = .ok part → Tolerated (walk name info) →
      ∀ decision first, Keeps (walk name) (walk name info) (part.left decision first))
    {attributes : List Attribute} {part : Purgeable (List Attribute)}
    (found : context.surveyList ofBody attributes = .ok part)
    (tolerated : Tolerated (context.pool.walkList walk attributes)) (decision : Decision) (first : Nat) :
    context.pool.walkList walk (part.left decision first)
      = context.pool.walkList walk attributes := by
  refine forM_filterMap ?_ found tolerated decision first
  intro item part itemFound tolerated decision first
  obtain ⟨name, body, named, bodyFound, rfl⟩ := surveyAttribute_eq_ok itemFound
  -- The attribute that is left has the name of the one that was there.
  have ofItem (info : Bytes) :
      context.pool.walkAttribute walk { item with info } = walk name info := by
    simp only [ConstantPool.walkAttribute, named]
  have before := ofItem item.info
  have tolerated : Tolerated (walk name item.info) := before ▸ tolerated
  obtain ⟨drops, keeps⟩ := each name item.info body bodyFound tolerated decision first
  constructor
  · intro gone
    exact before.trans (drops (Option.map_eq_none_iff.mp gone))
  · intro left remaining
    obtain ⟨info, infoLeft, rfl⟩ := Option.map_eq_some_iff.mp remaining
    rw [ofItem, keeps info infoLeft]
    exact before.symm

theorem walkNested_surveyNested {attributes : List Attribute} {part : Purgeable (List Attribute)}
    (found : context.surveyNested flags attributes = .ok part)
    (tolerated : Tolerated (context.pool.walkNested flags attributes)) (decision : Decision)
    (first : Nat) :
    context.pool.walkNested flags (part.left decision first)
      = context.pool.walkNested flags attributes := by
  refine walkList_surveyList ?_ found tolerated decision first
  intro name info part bodyFound tolerated decision first
  rw [PassRules.dropsFromCode_eq] at tolerated ⊢
  split at bodyFound
  · next strips =>
    rw [if_pos strips] at tolerated
    simp only [strips, if_true]
    exact keeps_dropped bodyFound tolerated decision first
  · next stays =>
    simp only [if_neg stays]
    exact keeps_fixed _ bodyFound decision first

theorem keeps_surveyCode {part : Purgeable (Option Bytes)}
    (found : context.surveyCode flags info = .ok part)
    (tolerated : Tolerated (context.pool.walkCode flags info)) (decision : Decision) (first : Nat) :
    Keeps (context.pool.walkCode flags) (context.pool.walkCode flags info)
      (part.left decision first) := by
  obtain ⟨code, kept, fits, written, keptFound, rfl⟩ := surveyCode_eq_ok found
  have parsed := (Code.parse_eq_ok_iff info code).mpr ⟨fits, written⟩
  have before : context.pool.walkCode flags info
      = context.pool.walkNested flags code.attributes := by
    simp only [ConstantPool.walkCode, parsed]
  rw [before] at tolerated ⊢
  constructor
  · intro gone
    cases gone
  · intro left remaining
    cases remaining
    have sublist := surveyNested_sublist keptFound decision first
    have reparsed := (Code.parse_eq_ok_iff _ _).mpr ⟨fits.ofSublist sublist, rfl⟩
    simp only [ConstantPool.walkCode, reparsed]
    exact walkNested_surveyNested keptFound tolerated decision first

/-- What the flags make of a code body: it is dropped, opened or left alone. -/
theorem keeps_codeBody (role : AttributeRole.ofName name = .code) {part : Purgeable (Option Bytes)}
    (found : (if flags.skipCode then Survey.fixed none
      else if flags.skipDebug || flags.skipFrames then context.surveyCode flags info
      else Survey.fixed (some info)) = .ok part)
    (tolerated : Tolerated (context.pool.walkBody flags name info)) (decision : Decision) (first : Nat) :
    Keeps (context.pool.walkBody flags name) (context.pool.walkBody flags name info)
      (part.left decision first) := by
  have walk := funext (context.pool.walkBody_of_code flags role)
  rw [walk] at tolerated ⊢
  split at found
  · next drops =>
    simp only [if_pos drops] at tolerated ⊢
    exact keeps_dropped found tolerated decision first
  · next keeps =>
    split at found
    · next opens =>
      simp only [if_neg keeps, if_pos opens] at tolerated ⊢
      exact keeps_surveyCode found tolerated decision first
    · exact keeps_fixed _ found decision first

theorem keeps_surveyBody {part : Purgeable (Option Bytes)}
    (found : context.surveyBody flags site name info = .ok part)
    (tolerated : Tolerated (context.pool.walkBody flags name info)) (decision : Decision) (first : Nat) :
    Keeps (context.pool.walkBody flags name) (context.pool.walkBody flags name info)
      (part.left decision first) := by
  have fixed (found : Survey.fixed (some info) = .ok part) :=
    keeps_fixed (context.pool.walkBody flags name) found decision first
  have view := PassRules.view_eq site name
  cases role : AttributeRole.ofName name with
  | annotations visible =>
    simp only [role, PassRules.viewOfRole, AttributeView.declared] at view
    cases declared : site.declarationKind? with
    | none =>
      rw [declared] at view
      rw [surveyBody_of_other (.inr view)] at found
      exact fixed found
    | some kind =>
      rw [declared] at view
      rw [surveyBody_of_annotations view] at found
      rw [ConstantPool.walkBody_eq_walkWhole _ _ (by simp [role]) (by simp [role])]
      exact keeps_surveyAnnotations role found decision first
  | parameterAnnotations visible =>
    rw [role] at view
    cases site with
    | method owner descriptor =>
      rw [surveyBody_of_parameters view] at found
      rw [ConstantPool.walkBody_eq_walkWhole _ _ (by simp [role]) (by simp [role])]
      exact keeps_surveyParameters role found decision first
    | _ =>
      rw [surveyBody_of_other (.inr view)] at found
      exact fixed found
  | code =>
    rw [role] at view
    rw [surveyBody_of_code view] at found
    exact keeps_codeBody role found tolerated decision first
  | debugInfo =>
    rw [role] at view
    have walk := funext (context.pool.walkBody_of_debugInfo flags role)
    rw [walk] at tolerated ⊢
    rw [surveyBody_of_debugInfo view] at found
    split at found
    · next drops =>
      simp only [if_pos drops] at tolerated ⊢
      exact keeps_dropped found tolerated decision first
    · exact keeps_fixed _ found decision first
  | record =>
    rw [role] at view
    have unopened : AttributeView.of site name = .record ∨ AttributeView.of site name = .other := by
      cases site <;> simp [view, PassRules.viewOfRole]
    rw [surveyBody_of_other unopened] at found
    exact fixed found
  | other =>
    rw [role] at view
    rw [surveyBody_of_other (.inr view)] at found
    exact fixed found

/-! ## Classes and what has attribute lists in them -/

theorem walkList_surveyNamed {α : Type} {place : String → String → Site}
    {nameIndex descriptorIndex : UInt16} {attributes : List Attribute} {around : List Attribute → α}
    {walk : α → LayoutWalk}
    (alike : ∀ left, walk (around left) = context.pool.walkList (context.pool.walkBody flags) left)
    {part : Purgeable α}
    (found : context.surveyNamed flags place nameIndex descriptorIndex attributes around = .ok part)
    (tolerated : Tolerated (context.pool.walkList (context.pool.walkBody flags) attributes))
    (decision : Decision) (first : Nat) :
    walk (part.left decision first)
      = context.pool.walkList (context.pool.walkBody flags) attributes := by
  obtain ⟨name, descriptor, kept, -, -, keptFound, rfl⟩ := surveyNamed_eq_ok found
  refine (alike _).trans ?_
  exact walkList_surveyList (fun _ _ _ bodyFound tolerated => keeps_surveyBody bodyFound tolerated)
    keptFound tolerated decision first

theorem walkComponent_surveyComponent {component : RecordComponent}
    {part : Purgeable RecordComponent}
    (found : context.surveyComponent flags component = .ok part)
    (tolerated : Tolerated (context.pool.walkComponent flags component)) (decision : Decision)
    (first : Nat) :
    context.pool.walkComponent flags (part.left decision first)
      = context.pool.walkComponent flags component := by
  refine walkList_surveyNamed ?_ found tolerated decision first
  exact fun _ => rfl

theorem walkMember_surveyMember {place : String → String → Site} {member : Member}
    {part : Purgeable Member} (found : context.surveyMember flags place member = .ok part)
    (tolerated : Tolerated (context.pool.walkMember flags member)) (decision : Decision) (first : Nat) :
    context.pool.walkMember flags (part.left decision first)
      = context.pool.walkMember flags member := by
  refine walkList_surveyNamed ?_ found tolerated decision first
  exact fun _ => rfl

theorem keeps_surveyRecord {part : Purgeable (Option Bytes)}
    (found : context.surveyRecord flags info = .ok part)
    (tolerated : Tolerated (context.pool.walkRecord flags info)) (decision : Decision) (first : Nat) :
    Keeps (context.pool.walkRecord flags) (context.pool.walkRecord flags info)
      (part.left decision first) := by
  obtain ⟨components, kept, fits, written, keptFound, rfl⟩ := surveyRecord_eq_ok found
  have parsed := (RecordComponent.parseList_eq_ok_iff info components).mpr ⟨fits, written⟩
  have before : context.pool.walkRecord flags info
      = components.forM (context.pool.walkComponent flags) := by
    simp only [ConstantPool.walkRecord, parsed]
  rw [before] at tolerated ⊢
  constructor
  · intro gone
    cases gone
  · intro left remaining
    cases remaining
    have remains := surveyComponents_remain keptFound decision first
    have reparsed := (RecordComponent.parseList_eq_ok_iff _ _).mpr ⟨remains.listFits fits, rfl⟩
    simp only [ConstantPool.walkRecord, reparsed]
    exact forM_traverse
      (fun _ _ componentFound tolerated => walkComponent_surveyComponent componentFound tolerated)
      keptFound tolerated decision first

theorem keeps_surveyClassBody {part : Purgeable (Option Bytes)}
    (found : context.surveyClassBody flags name info = .ok part)
    (tolerated : Tolerated (context.pool.walkClassBody flags name info)) (decision : Decision)
    (first : Nat) :
    Keeps (context.pool.walkClassBody flags name) (context.pool.walkClassBody flags name info)
      (part.left decision first) := by
  have view := PassRules.view_classBody_eq_record_iff name
  by_cases role : AttributeRole.ofName name = .record
  · rw [ConstantPool.walkClassBody_of_record _ _ role] at tolerated ⊢
    rw [surveyClassBody_of_record (view.mpr role)] at found
    exact keeps_surveyRecord found tolerated decision first
  · rw [ConstantPool.walkClassBody_of_not_record _ _ role] at tolerated ⊢
    rw [surveyClassBody_of_not_record (mt view.mp role)] at found
    exact keeps_surveyBody found tolerated decision first

theorem walk_surveyFile {file : ClassFile} {part : Purgeable ClassFile}
    (samePool : context.pool = file.pool) (found : context.surveyFile flags file = .ok part)
    (tolerated : Tolerated (file.walk flags)) (decision : Decision) (first : Nat) :
    (part.left decision first).walk flags = file.walk flags := by
  obtain ⟨attributes, fields, methods, attributesFound, fieldsFound, methodsFound, rfl⟩ :=
    surveyFile_eq_ok found
  have members {place : String → String → Site} {list : List Member}
      {kept : Purgeable (List Member)}
      (membersFound : Survey.traverse (context.surveyMember flags place) list = .ok kept)
      (first : Nat) (tolerated : Tolerated (list.forM (context.pool.walkMember flags))) :=
    forM_traverse (fun _ _ memberFound tolerated => walkMember_surveyMember memberFound tolerated)
      membersFound tolerated decision first
  have own := fun tolerated => walkList_surveyList
    (fun _ _ _ bodyFound tolerated => keeps_surveyClassBody bodyFound tolerated) attributesFound tolerated
    decision first
  simp only [samePool] at members own
  exact bind_of_tolerated tolerated (members fieldsFound _) fun tolerated =>
    bind_of_tolerated tolerated (members methodsFound _) own

end ClassContext

/-- What a pass leaves of a class file is gone over as the class file is. -/
theorem ClassFile.walk_left {flags : StripFlags} {file : ClassFile} {part : Purgeable ClassFile}
    (found : file.survey flags = .ok part) (tolerated : Tolerated (file.walk flags))
    (decision : Decision) (first : Nat) :
    (part.left decision first).walk flags = file.walk flags := by
  obtain ⟨context, read, fileFound⟩ := outcome_bind_ok_iff.mp found
  have samePool : context.pool = file.pool := by
    obtain ⟨name, -, returned⟩ := outcome_bind_ok_iff.mp read
    cases returned
    rfl
  exact ClassContext.walk_surveyFile samePool fileFound tolerated decision first

end Unannotate
