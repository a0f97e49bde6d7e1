import Unannotate.Proofs.Purge.ReferenceEdit

/-!
# A purge offers the attachment points

The points that a survey finds are the attachment points of the class file, whatever the flags are: an
attribute that the flags drop or open holds no points. So a purge asks once for each attachment point, in
order, and for nothing else.
-/
set_option autoImplicit false

namespace Unannotate

open Reader

namespace Survey

variable {α β γ : Type}

/-- A list has the points of its items, in their order. -/
theorem collect_points {join : β → List γ → List γ} {find : α → Except Malformation (Purgeable β)}
    {pointsOf : α → Except Malformation (List AttachmentPoint)}
    (each : ∀ item part, find item = .ok part → pointsOf item = .ok part.points) (list : List α)
    (part : Purgeable (List γ)) (found : collect join find list = .ok part) :
    ∃ points, list.mapM pointsOf = .ok points ∧ points.flatten = part.points := by
  induction list generalizing part with
  | nil =>
    cases found
    exact ⟨[], rfl, rfl⟩
  | cons item rest ih =>
    obtain ⟨head, tail, headFound, tailFound, rfl⟩ := map₂_eq_ok_iff.mp found
    obtain ⟨points, counted, same⟩ := ih tail tailFound
    refine ⟨head.points :: points, ?_, ?_⟩
    · rw [List.mapM_cons, each item head headFound, counted]
      rfl
    · rw [List.flatten_cons, same]
      rfl

theorem bind_flatten_points {join : β → List γ → List γ}
    {find : α → Except Malformation (Purgeable β)}
    {pointsOf : α → Except Malformation (List AttachmentPoint)}
    (each : ∀ item part, find item = .ok part → pointsOf item = .ok part.points) {list : List α}
    {part : Purgeable (List γ)} (found : collect join find list = .ok part) :
    (do let points ← list.mapM pointsOf; return points.flatten) = Except.ok part.points := by
  obtain ⟨points, counted, same⟩ := collect_points each list part found
  rw [counted, ← same]
  rfl

end Survey

namespace ClassContext

variable {context : ClassContext} {flags : StripFlags} {site : Site} {kind : ElementKind}
  {parameter : Option UInt8} {visible : Bool} {info : Bytes}

theorem surveyTrees_points {trees : List AnnotationTree} {part : Purgeable (List AnnotationTree)}
    (found : context.surveyTrees site kind parameter visible trees = .ok part) :
    trees.mapM (context.point site kind parameter visible) = .ok part.points := by
  induction trees generalizing part with
  | nil =>
    cases found
    rfl
  | cons tree rest ih =>
    obtain ⟨head, tail, headFound, tailFound, rfl⟩ := Survey.map₂_eq_ok_iff.mp found
    obtain ⟨point, pointFound, rfl⟩ := surveyTree_eq_ok headFound
    rw [List.mapM_cons, pointFound, ih tailFound]
    rfl

theorem surveyAnnotations_points {part : Purgeable (Option Bytes)}
    (found : context.surveyAnnotations site kind visible info = .ok part) :
    context.pointsOfAnnotations site kind visible info = .ok part.points := by
  obtain ⟨trees, kept, fits, written, keptFound, rfl⟩ := surveyAnnotations_eq_ok found
  rw [pointsOfAnnotations, (AnnotationTree.parseList_eq_ok_iff info trees).mpr ⟨fits, written⟩]
  exact surveyTrees_points keptFound

theorem surveyParameters_points {part : Purgeable (Option Bytes)}
    (found : context.surveyParameters site visible info = .ok part) :
    context.pointsOfParameters site visible info = .ok part.points := by
  obtain ⟨lists, kept, fits, written, keptFound, rfl⟩ := surveyParameters_eq_ok found
  rw [pointsOfParameters, (AnnotationTree.parseParameters_eq_ok_iff info lists).mpr ⟨fits, written⟩]
  exact Survey.bind_flatten_points (fun _ _ treesFound => surveyTrees_points treesFound) keptFound

/-- Where each body has its points, so has the list. -/
theorem surveyList_points {ofBody : String → Bytes → Except Malformation (Purgeable (Option Bytes))}
    {pointsOf : String → Bytes → Except Malformation (List AttachmentPoint)}
    (each : ∀ name info part, ofBody name info = .ok part → pointsOf name info = .ok part.points)
    {attributes : List Attribute} {part : Purgeable (List Attribute)}
    (found : context.surveyList ofBody attributes = .ok part) :
    context.pointsOfList pointsOf attributes = .ok part.points := by
  refine Survey.bind_flatten_points ?_ found
  intro item part itemFound
  obtain ⟨name, body, named, bodyFound, rfl⟩ := surveyAttribute_eq_ok itemFound
  rw [named]
  exact each name item.info body bodyFound

theorem surveyNested_points {attributes : List Attribute} {part : Purgeable (List Attribute)}
    (found : context.surveyNested flags attributes = .ok part) : part.points = [] := by
  induction attributes generalizing part with
  | nil =>
    cases found
    rfl
  | cons nested rest ih =>
    obtain ⟨head, tail, headFound, tailFound, rfl⟩ := Survey.map₂_eq_ok_iff.mp found
    obtain ⟨name, body, -, bodyFound, rfl⟩ := surveyAttribute_eq_ok headFound
    cases bodyFound
    have others := ih tailFound
    exact others

theorem surveyBody_points {name : String} {part : Purgeable (Option Bytes)}
    (found : context.surveyBody flags site name info = .ok part) :
    context.pointsOfBody site name info = .ok part.points := by
  -- Whatever becomes of an attribute that is not looked into, it has no points.
  have none (fate : Option Bytes) (fixed : Survey.fixed fate = .ok part) :
      Except.ok (ε := Malformation) [] = .ok part.points := by
    cases fixed
    rfl
  unfold surveyBody at found
  unfold pointsOfBody
  cases view : AttributeView.of site name with
  | annotations kind visible =>
    rw [view] at found
    exact surveyAnnotations_points found
  | parameters visible =>
    rw [view] at found
    exact surveyParameters_points found
  | code =>
    simp only [view] at found
    split at found
    · exact none _ found
    · split at found
      · obtain ⟨code, kept, -, -, keptFound, rfl⟩ := surveyCode_eq_ok found
        exact congrArg Except.ok (surveyNested_points keptFound).symm
      · exact none _ found
  | _ =>
    rw [view] at found
    exact none _ found

theorem surveyNamed_points {α : Type} {place : String → String → Site}
    {nameIndex descriptorIndex : UInt16} {attributes : List Attribute} {around : List Attribute → α}
    {part : Purgeable α}
    (found : context.surveyNamed flags place nameIndex descriptorIndex attributes around = .ok part) :
    context.pointsOfNamed place nameIndex descriptorIndex attributes = .ok part.points := by
  obtain ⟨name, descriptor, kept, named, described, keptFound, rfl⟩ := surveyNamed_eq_ok found
  rw [pointsOfNamed, named, ok_bind, described, ok_bind]
  exact surveyList_points (fun _ _ _ bodyFound => surveyBody_points bodyFound) keptFound

theorem surveyMember_points {place : String → String → Site} {member : Member}
    {part : Purgeable Member} (found : context.surveyMember flags place member = .ok part) :
    context.pointsOfMember place member = .ok part.points := surveyNamed_points found

theorem surveyClassBody_points {name : String} {part : Purgeable (Option Bytes)}
    (found : context.surveyClassBody flags name info = .ok part) :
    context.pointsOfClassBody name info = .ok part.points := by
  unfold surveyClassBody at found
  unfold pointsOfClassBody
  cases view : AttributeView.of .classBody name with
  | record =>
    rw [view] at found
    obtain ⟨components, kept, fits, written, keptFound, rfl⟩ := surveyRecord_eq_ok found
    have parsed := (RecordComponent.parseList_eq_ok_iff info components).mpr ⟨fits, written⟩
    simp only [pointsOfRecord, parsed, ok_bind]
    exact Survey.bind_flatten_points (fun _ _ componentFound => surveyNamed_points componentFound)
      keptFound
  | _ =>
    rw [view] at found
    exact surveyBody_points found

theorem surveyFile_points {file : ClassFile} {part : Purgeable ClassFile}
    (found : context.surveyFile flags file = .ok part) :
    context.pointsOfFile file = .ok part.points := by
  obtain ⟨attributes, fields, methods, attributesFound, fieldsFound, methodsFound, rfl⟩ :=
    surveyFile_eq_ok found
  have own := surveyList_points (fun _ _ _ bodyFound => surveyClassBody_points bodyFound)
    attributesFound
  obtain ⟨fieldPoints, fieldsCounted, fieldsSame⟩ := Survey.collect_points
    (fun _ _ memberFound => surveyMember_points memberFound) _ fields fieldsFound
  obtain ⟨methodPoints, methodsCounted, methodsSame⟩ := Survey.collect_points
    (fun _ _ memberFound => surveyMember_points memberFound) _ methods methodsFound
  rw [pointsOfFile, own, fieldsCounted, methodsCounted]
  show Except.ok (attributes.points ++ fieldPoints.flatten ++ methodPoints.flatten)
    = .ok (attributes.points ++ (fields.points ++ methods.points))
  rw [fieldsSame, methodsSame, List.append_assoc]

end ClassContext

/-- A survey finds the attachment points of the class file, under any flags. -/
theorem ClassFile.survey_points {flags : StripFlags} {file : ClassFile} {part : Purgeable ClassFile}
    (found : file.survey flags = .ok part) : file.attachmentPoints = .ok part.points := by
  obtain ⟨context, read, fileFound⟩ := outcome_bind_ok_iff.mp found
  rw [attachmentPoints, read]
  exact ClassContext.surveyFile_points fileFound

/-- The number of a parameter fits the 8 bits that say it. -/
theorem parameterIndex_toNat {info : Bytes} {lists : List (List AnnotationTree)}
    (parsed : AnnotationTree.parseParameters info = .ok lists) {index : Nat}
    (inside : index < lists.length) : (UInt8.ofNat index).toNat = index := by
  obtain ⟨fits, -⟩ := (AnnotationTree.parseParameters_eq_ok_iff info lists).mp parsed
  apply UInt8.toNat_ofNat_of_lt
  exact Nat.lt_trans inside fits.1

namespace PurgedClass

/-- The decision is asked once for each attachment point, in order, and for nothing else. -/
theorem offers_eq_judged_attachmentPoints (data : Bytes) (flags : StripFlags) (decision : Decision)
    (purged : PurgedClass) (succeeds : ofBytes data flags decision = .ok purged) :
    ∃ file points, ClassFile.parse data = .ok file ∧ file.attachmentPoints = .ok points ∧
      purged.offers = Offer.judged decision 0 points := by
  obtain ⟨file, name, part, parsed, -, found, rfl⟩ := ofBytes_eq_ok succeeds
  exact ⟨file, part.points, parsed, ClassFile.survey_points found, rfl⟩

/-- The class has four points, the flag notwithstanding. -/
theorem offers_eq_judged_attachmentPoints_annotatedFile :
    ∃ purged, ofBytes annotatedFile.layout { skipDebug := true } (fun ordinal _ => ordinal % 2 = 0)
        = .ok purged ∧ purged.offers.length = 4 ∧
      ∃ file points, ClassFile.parse annotatedFile.layout = .ok file ∧
        file.attachmentPoints = .ok points ∧
        purged.offers = Offer.judged (fun ordinal _ => ordinal % 2 = 0) 0 points := by
  let purged : PurgedClass :=
    { className := "A", bytes := some halvedFile.layout
      offers := Offer.judged (fun ordinal _ => ordinal % 2 = 0) 0 annotatedPoints }
  have succeeds : ofBytes annotatedFile.layout { skipDebug := true }
      (fun ordinal _ => ordinal % 2 = 0) = .ok purged := by decide +kernel
  exact ⟨purged, succeeds, rfl, offers_eq_judged_attachmentPoints _ _ _ purged succeeds⟩

end PurgedClass

end Unannotate
