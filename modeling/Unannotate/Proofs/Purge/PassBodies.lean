import Unannotate.Proofs.Purge.Remainder

/-!
# The pass over attribute bodies

For one annotation, a body with annotations, a code body and any attribute that is looked at by its name,
the functions of `PassRules` perform the survey of what they are given. A body that is reported unchanged
is left as it was read, and one that is written again differs from that.
-/
set_option autoImplicit false

namespace Unannotate

open Reader

/-- How a pass reports what is left of a body. -/
def Disposition.between (info : Bytes) : Option Bytes → Disposition
  | none => .drop
  | some left => if left = info then .keep else .replace left

namespace PassRules

variable (rules : PassRules)

def context : ClassContext := ⟨rules.pool, rules.className⟩

/-! ## Annotations -/

/-- A body that is written again is the one that was read exactly when no annotation is gone. -/
theorem ofOutcome_eq_between {before after : Nat} {empty : Bool} {written info : Bytes}
    (isEmpty : empty = true ↔ after = 0) (same : after = before ↔ written = info) :
    Disposition.ofOutcome
        (if after = before then .unchanged else if empty then .emptied else .replaced written)
      = .between info (remainingBody before after written) := by
  by_cases unchanged : after = before
  · have stays : remainingBody before after written = some info := by
      rw [remainingBody, if_neg (by omega), same.mp unchanged]
    rw [if_pos unchanged, stays]
    simp [Disposition.ofOutcome, Disposition.between]
  · rw [if_neg unchanged]
    by_cases gone : after = 0
    · have goes : remainingBody before after written = none := by
        rw [remainingBody, if_pos (by omega)]
      rw [if_pos (isEmpty.mpr gone), goes]
      rfl
    · have changes : remainingBody before after written = some written := by
        rw [remainingBody, if_neg (by omega)]
      have differs : written ≠ info := fun equal => unchanged (same.mpr equal)
      rw [if_neg (fun empty => gone (isEmpty.mp empty)), changes]
      simp [Disposition.ofOutcome, Disposition.between, differs]

/-- What is read first is there when the work on it begins. -/
theorem liftM_staged {α β γ : Type} (source : Except Malformation α) (work : α → Pass β)
    (next : β → Pass γ) :
    (do
      let staged ← (liftM (do let value ← source; return work value) : Pass (Pass β))
      let found ← staged
      next found)
      = liftM source >>= fun value => work value >>= next := by
  cases source <;> rfl

section Annotations

variable (site : Site) (kind : ElementKind) (parameter : Option UInt8) (visible : Bool)

theorem performs_offer (tree : AnnotationTree) :
    Pass.Performs rules.decide (rules.offer site kind parameter visible tree.typeIndex)
      (rules.context.surveyVerdict site kind parameter visible tree) := by
  unfold offer lookUp ClassContext.surveyVerdict ClassContext.point
  simp only [bind_assoc, pure_bind]
  apply Pass.performs_lookUp
  intro descriptor _
  apply Pass.performs_lookUp
  intro annotationName _
  exact Pass.performs_verdict _

theorem performs_survivors (trees : List AnnotationTree) :
    Pass.Performs rules.decide
      (AnnotationTree.survivors (rules.offer site kind parameter visible) trees)
      (rules.context.surveyTrees site kind parameter visible trees) := by
  induction trees with
  | nil => exact Pass.performs_pure []
  | cons tree rest ih =>
    have step := Pass.performs_map₂ (fun rejected kept => if rejected then kept else tree :: kept)
      (rules.performs_offer site kind parameter visible tree) ih
    have found : rules.context.surveyTrees site kind parameter visible (tree :: rest) =
        Survey.map₂ (fun rejected kept => if rejected then kept else tree :: kept)
          (rules.context.surveyVerdict site kind parameter visible tree)
          (rules.context.surveyTrees site kind parameter visible rest) := by
      rw [ClassContext.surveyTrees, Survey.filterMap, Survey.collect_cons, ClassContext.surveyTree,
        Survey.map₂_map_left]
      apply Survey.map₂_congr
      intro part partFound rejected decision first
      cases rejected <;> rfl
    rw [found]
    exact step

/-- Trees that fit are told apart by their encoding. -/
theorem length_eq_iff_encodeList_eq {kept trees : List AnnotationTree} (part : kept.Sublist trees)
    (fits : AnnotationTree.ListFits trees) :
    kept.length = trees.length ↔
      AnnotationTree.encodeList kept = AnnotationTree.encodeList trees := by
  constructor
  · intro same
    rw [part.eq_of_length same]
  · intro same
    have keptFits : AnnotationTree.ListFits kept := CountedFits.ofSublist fits part
    rw [Reader.eq_of_layout_eq ((AnnotationTree.parseList_eq_ok_iff _ _).mpr ⟨keptFits, rfl⟩)
      ((AnnotationTree.parseList_eq_ok_iff _ _).mpr ⟨fits, rfl⟩) same]

theorem performs_annotations (info : Bytes) (counts : site.kind? = some kind) :
    Pass.Performs rules.decide (rules.annotations site visible info)
      (Survey.map (.between info) (rules.context.surveyAnnotations site kind visible info)) := by
  unfold annotations ClassContext.surveyAnnotations AnnotationTree.filterBody
  rw [counts, Survey.map_bind]
  dsimp only
  rw [liftM_staged]
  apply Pass.performs_lookUp
  intro trees parsed
  obtain ⟨fits, rfl⟩ := (AnnotationTree.parseList_eq_ok_iff info trees).mp parsed
  unfold AnnotationTree.filter
  rw [bind_assoc, Survey.map_map]
  apply Pass.performs_then _ _ (rules.performs_survivors site kind none visible trees)
  intro kept keptFound first
  have part := ClassContext.surveyTrees_sublist keptFound rules.decide first
  rw [pure_bind, ofOutcome_eq_between (List.isEmpty_iff_length_eq_zero)
    (length_eq_iff_encodeList_eq part fits)]

theorem performs_parameterSurvivors (first : Nat) (lists : List (List AnnotationTree)) :
    Pass.Performs rules.decide
      (AnnotationTree.parameterSurvivors
        (fun parameter => rules.offer site .parameter (some parameter) visible) first lists)
      (rules.context.surveyParameterLists site visible first lists) := by
  induction lists generalizing first with
  | nil => exact Pass.performs_pure []
  | cons trees rest ih =>
    exact Pass.performs_map₂ List.cons
      (rules.performs_survivors site .parameter (some (UInt8.ofNat first)) visible trees)
      (ih (first + 1))

theorem flatten_sublist {α : Type} {kept lists : List (List α)}
    (part : List.Forall₂ List.Sublist kept lists) : kept.flatten.Sublist lists.flatten := by
  induction part with
  | nil => exact List.nil_sublist _
  | cons headPart _ ih => exact headPart.append ih

theorem eq_of_length_flatten {α : Type} {kept lists : List (List α)}
    (part : List.Forall₂ List.Sublist kept lists)
    (same : kept.flatten.length = lists.flatten.length) : kept = lists := by
  induction part with
  | nil => rfl
  | @cons head list tail rest headPart tailPart ih =>
    have headShort := headPart.length_le
    have tailShort := (flatten_sublist tailPart).length_le
    simp only [List.flatten_cons, List.length_append] at same
    rw [headPart.eq_of_length (by omega), ih (by omega)]

/-- Parameter lists that fit are told apart by their encoding. -/
theorem length_flatten_eq_iff_encodeParameters_eq {kept lists : List (List AnnotationTree)}
    (part : List.Forall₂ List.Sublist kept lists) (fits : AnnotationTree.ParametersFit lists) :
    kept.flatten.length = lists.flatten.length ↔
      AnnotationTree.encodeParameters kept = AnnotationTree.encodeParameters lists := by
  constructor
  · intro same
    rw [eq_of_length_flatten part same]
  · intro same
    have keptFits : AnnotationTree.ParametersFit kept := fits.ofForall₂ part
    rw [Reader.eq_of_layout_eq ((AnnotationTree.parseParameters_eq_ok_iff _ _).mpr ⟨keptFits, rfl⟩)
      ((AnnotationTree.parseParameters_eq_ok_iff _ _).mpr ⟨fits, rfl⟩) same]

theorem performs_parameterAnnotations (info : Bytes) :
    Pass.Performs rules.decide (rules.parameterAnnotations site visible info)
      (Survey.map (.between info) (rules.context.surveyParameters site visible info)) := by
  unfold parameterAnnotations ClassContext.surveyParameters AnnotationTree.filterParametersBody
  rw [Survey.map_bind, liftM_staged]
  apply Pass.performs_lookUp
  intro lists parsed
  obtain ⟨fits, rfl⟩ := (AnnotationTree.parseParameters_eq_ok_iff info lists).mp parsed
  unfold AnnotationTree.filterParameters
  rw [bind_assoc, Survey.map_map]
  apply Pass.performs_then _ _ (rules.performs_parameterSurvivors site visible 0 lists)
  intro kept keptFound first
  have part := ClassContext.surveyParameterLists_sublist keptFound rules.decide first
  rw [pure_bind, ofOutcome_eq_between (List.isEmpty_iff_length_eq_zero)
    (length_flatten_eq_iff_encodeParameters_eq part fits)]

end Annotations

/-! ## Code bodies -/

theorem dropsFromCode_eq (flags : StripFlags) (name : String) :
    flags.dropsFromCode name = flags.stripsFromCode name := by
  unfold StripFlags.dropsFromCode StripFlags.stripsFromCode
  split
  · simp
  · simp
  · simp
  · simp
  · simp_all

theorem performs_nested (attributes : List Attribute) :
    Pass.Performs rules.decide
      (do
        let names ← attributes.mapM fun nested => rules.lookUp nested.nameIndex
        return ((attributes.zip names).filter
          fun nested => !rules.flags.dropsFromCode nested.2).map Prod.fst)
      (rules.context.surveyNested rules.flags attributes) := by
  induction attributes with
  | nil => exact Pass.performs_pure []
  | cons nested rest ih =>
    -- All names are looked up before the first attribute is dropped; the survey drops as it goes.
    let join (name : String) (kept : List Attribute) : List Attribute :=
      if rules.flags.dropsFromCode name then kept else nested :: kept
    have found : rules.context.surveyNested rules.flags (nested :: rest) =
        rules.pool.text nested.nameIndex >>= fun name =>
          Survey.map (join name) (rules.context.surveyNested rules.flags rest) := by
      rw [ClassContext.surveyNested, ClassContext.surveyList, Survey.filterMap, Survey.collect_cons,
        ClassContext.surveyAttribute, Survey.map₂_bind]
      apply bind_congr
      intro name
      rw [Survey.map₂_map_left, Survey.map₂_fixed]
      apply Survey.map_congr
      intro part _ decision first
      simp only [join, dropsFromCode_eq]
      cases rules.flags.stripsFromCode name <;> rfl
    rw [found, List.mapM_cons]
    simp only [bind_assoc, pure_bind]
    apply Pass.performs_lookUp
    intro name _
    have step := Pass.performs_map (join name) ih
    have keeps (names : List String) :
        (((nested :: rest).zip (name :: names)).filter
            fun nested => !rules.flags.dropsFromCode nested.2).map Prod.fst
          = join name (((rest.zip names).filter
            fun nested => !rules.flags.dropsFromCode nested.2).map Prod.fst) := by
      rw [List.zip_cons_cons, List.filter_cons]
      simp only [join]
      cases rules.flags.dropsFromCode name <;> rfl
    simp only [bind_assoc, pure_bind] at step
    simp only [keeps]
    exact step

/-- Code bodies that fit are told apart by their layout. -/
theorem attributes_eq_of_layout_eq {code : Code} {kept : List Attribute}
    (part : kept.Sublist code.attributes) (fits : code.Fits)
    (same : ({ code with attributes := kept } : Code).layout = code.layout) :
    kept = code.attributes :=
  congrArg Code.attributes (Reader.eq_of_layout_eq
    ((Code.parse_eq_ok_iff _ _).mpr ⟨fits.ofSublist part, rfl⟩) ((Code.parse_eq_ok_iff _ _).mpr ⟨fits, rfl⟩) same)

theorem performs_code (info : Bytes) :
    Pass.Performs rules.decide (rules.code info)
      (Survey.map (.between info) (rules.context.surveyCode rules.flags info)) := by
  unfold code ClassContext.surveyCode
  rw [Survey.map_bind]
  apply Pass.performs_lookUp
  intro body parsed
  obtain ⟨fits, rfl⟩ := (Code.parse_eq_ok_iff info body).mp parsed
  rw [Survey.map_map]
  have total := Pass.performs_then
    (fun kept => if kept.length = body.attributes.length then pure Disposition.keep else do
      let encoded ← liftM ({ body with attributes := kept } : Code).encode
      return .replace encoded)
    (fun kept =>
      Disposition.between body.layout (some ({ body with attributes := kept } : Code).layout))
    (rules.performs_nested body.attributes) ?_
  · simp only [bind_assoc, pure_bind] at total
    exact total
  · -- Equal lengths are enough for the pass, because what is kept is a sublist.
    intro nested nestedFound first
    have part := ClassContext.surveyNested_sublist nestedFound rules.decide first
    by_cases unchanged : (nested.left rules.decide first).length = body.attributes.length
    · rw [if_pos unchanged, part.eq_of_length unchanged]
      simp [Disposition.between]
    · have differs : ({ body with attributes := nested.left rules.decide first } : Code).layout
          ≠ body.layout := by
        intro same
        exact unchanged (congrArg List.length (attributes_eq_of_layout_eq part fits same))
      have written := (Code.encode_eq_ok_iff
        { body with attributes := nested.left rules.decide first } _).mpr
          ⟨CountedFits.ofSublist fits.2.2.2 part, rfl⟩
      rw [if_neg unchanged, written]
      simp only [Disposition.between, if_neg differs]
      rfl

/-! ## Attributes by name -/

theorem kind?_eq_declarationKind? (site : Site) : site.kind? = site.declarationKind? := by
  cases site with
  | method name descriptor =>
    by_cases instance' : name = "<init>"
    · rw [instance']
      rfl
    · by_cases class' : name = "<clinit>"
      · rw [class']
        rfl
      · simp [Site.kind?, Site.declarationKind?, ElementKind.ofMethodName?,
          ElementKind.instanceInitializer, ElementKind.classInitializer, instance', class']
  | _ => rfl

/-- The role of a name and the place of the list together say what an attribute is. -/
def viewOfRole : AttributeRole → Site → AttributeView
  | .annotations visible, site => .declared site visible
  | .parameterAnnotations visible, .method _ _ => .parameters visible
  | .parameterAnnotations _, _ => .other
  | .record, .classBody => .record
  | .record, _ => .other
  | .code, _ => .code
  | .debugInfo, _ => .debugInfo
  | .other, _ => .other

theorem view_eq (site : Site) (name : String) :
    AttributeView.of site name = viewOfRole (.ofName name) site := by
  unfold AttributeRole.ofName
  split
  · simp [AttributeView.of, viewOfRole]
  · simp [AttributeView.of, viewOfRole]
  · cases site <;> simp [AttributeView.of, viewOfRole]
  · cases site <;> simp [AttributeView.of, viewOfRole]
  · cases site <;> simp [AttributeView.of, viewOfRole]
  · simp [AttributeView.of, viewOfRole]
  · simp [AttributeView.of, viewOfRole]
  · simp [AttributeView.of, viewOfRole]
  · simp [AttributeView.of, viewOfRole]
  · simp_all [AttributeView.of, viewOfRole]

theorem view_classBody_eq_record_iff (name : String) :
    AttributeView.of .classBody name = .record ↔ AttributeRole.ofName name = .record := by
  rw [view_eq]
  cases AttributeRole.ofName name <;>
    simp [viewOfRole, AttributeView.declared, Site.declarationKind?]

theorem performs_fixed {info : Bytes} {fate : Disposition} {left : Option Bytes}
    (same : fate = .between info left) :
    Pass.Performs rules.decide (pure fate)
      (Survey.map (Disposition.between info) (Survey.fixed left)) := by
  rw [same]
  exact Pass.performs_pure _

theorem performs_keep (info : Bytes) :
    Pass.Performs rules.decide (pure Disposition.keep)
      (Survey.map (Disposition.between info) (Survey.fixed (some info))) :=
  rules.performs_fixed (by simp [Disposition.between])

theorem performs_plainDisposition (site : Site) (name : String) (info : Bytes) :
    Pass.Performs rules.decide (rules.plainDisposition site (.ofName name) info)
      (Survey.map (.between info) (rules.context.surveyBody rules.flags site name info)) := by
  unfold ClassContext.surveyBody
  rw [view_eq]
  cases role : AttributeRole.ofName name with
  | annotations visible =>
    simp only [plainDisposition, viewOfRole, AttributeView.declared, ← kind?_eq_declarationKind?]
    cases counts : site.kind? with
    | some kind => exact rules.performs_annotations site kind visible info counts
    | none =>
      unfold annotations
      rw [counts]
      exact rules.performs_keep info
  | parameterAnnotations visible =>
    cases site with
    | method name descriptor => exact rules.performs_parameterAnnotations _ visible info
    | _ => exact rules.performs_keep info
  | record =>
    cases site with
    | _ => exact rules.performs_keep info
  | code =>
    simp only [plainDisposition]
    split
    · exact rules.performs_fixed rfl
    · split
      · exact rules.performs_code info
      · exact rules.performs_keep info
  | debugInfo =>
    simp only [plainDisposition]
    split
    · exact rules.performs_fixed rfl
    · exact rules.performs_keep info
  | other => exact rules.performs_keep info

end PassRules

end Unannotate
