import Unannotate.Proofs.Purge.PassFile

/-!
# A purged class is the reference edit of the class

What a purge writes is read back as the reference edit of the class file that it read, under the verdicts
that it notes, whatever the flags are and however the decision depends on the order of the points.
-/
set_option autoImplicit false

namespace Unannotate

open Reader

/-- The class file that is left when the verdicts are those of a decision. -/
def ClassFile.referenceEdit (flags : StripFlags) (decision : Decision) (file : ClassFile) :
    Except Malformation ClassFile := do
  let part ← file.survey flags
  return part.left decision 0

/-- A list of trees loses exactly those whose points are rejected. -/
theorem ClassContext.surveyTrees_left {context : ClassContext} {site : Site} {kind : ElementKind}
    {parameter : Option UInt8} {visible : Bool} {trees : List AnnotationTree}
    {part : Purgeable (List AnnotationTree)}
    (found : context.surveyTrees site kind parameter visible trees = .ok part) (decision : Decision)
    (first : Nat) :
    part.left decision first = ((trees.zip (Offer.judged decision first part.points)).filter
      fun item => !item.2.rejected).map Prod.fst := by
  induction trees generalizing part first with
  | nil =>
    cases found
    rfl
  | cons tree rest ih =>
    obtain ⟨head, tail, headFound, tailFound, rfl⟩ := Survey.map₂_eq_ok_iff.mp found
    obtain ⟨point, -, rfl⟩ := surveyTree_eq_ok headFound
    have others := ih tailFound (first + 1)
    show (if decision first point then none else some tree).toList ++ tail.left decision (first + 1)
      = (((tree :: rest).zip (⟨point, decision first point⟩
        :: Offer.judged decision (first + 1) tail.points)).filter _).map Prod.fst
    rw [others, List.zip_cons_cons, List.filter_cons]
    cases decision first point <;> rfl

namespace PurgedClass

variable {data : Bytes} {flags : StripFlags} {decision : Decision} {purged : PurgedClass}

/-- What a purge that succeeds has read, found and made. -/
theorem ofBytes_eq_ok (succeeds : ofBytes data flags decision = .ok purged) :
    ∃ file name part, ClassFile.parse data = .ok file ∧ file.name = .ok name ∧
      file.survey flags = .ok part ∧
      purged = {
        className := dotted name.toList
        bytes := if part.left decision 0 = file then none else some (part.left decision 0).layout
        offers := Offer.judged decision 0 part.points } := by
  rw [ofBytes_eq] at succeeds
  obtain ⟨file, parsed, afterFile⟩ := outcome_bind_ok_iff.mp succeeds
  obtain ⟨name, named, afterName⟩ := outcome_bind_ok_iff.mp afterFile
  obtain ⟨part, found, returned⟩ := outcome_bind_ok_iff.mp afterName
  exact ⟨file, name, part, parsed, named, found, (Except.ok.inj returned).symm⟩

/-- What is left of a class that was read can be read again. -/
theorem parse_layout_of_remains {file left : ClassFile} (parsed : ClassFile.parse data = .ok file)
    (remains : left.Remains file) : ClassFile.parse left.layout = .ok left := by
  obtain ⟨fits, named, -⟩ := (ClassFile.parse_eq_ok_iff data file).mp parsed
  apply (ClassFile.parse_eq_ok_iff left.layout left).mpr
  refine ⟨remains.fits fits, ?_, rfl⟩
  rw [remains.name]
  exact named

/-- The bytes that a purge writes are read back as the reference edit under its decision, in which
everything but attributes stays, and attributes keep their order and names. -/
theorem bytes_read_as_referenceEdit (data out : Bytes) (flags : StripFlags) (decision : Decision)
    (purged : PurgedClass) (succeeds : ofBytes data flags decision = .ok purged)
    (written : purged.bytes = some out) :
    ∃ file edited, ClassFile.parse data = .ok file ∧ file.referenceEdit flags decision = .ok edited ∧
      ClassFile.parse out = .ok edited ∧ edited.Remains file := by
  obtain ⟨file, name, part, parsed, -, found, rfl⟩ := ofBytes_eq_ok succeeds
  have remains := ClassFile.survey_remains found decision 0
  refine ⟨file, part.left decision 0, parsed, ?_, ?_, remains⟩
  · rw [ClassFile.referenceEdit, found]
    rfl
  · have changed : some (part.left decision 0).layout = some out := by
      by_cases unchanged : part.left decision 0 = file
      · simp [unchanged] at written
      · simpa [unchanged] using written
    rw [← Option.some.inj changed]
    exact parse_layout_of_remains parsed remains

end PurgedClass

/-- A class `A` with annotations `P` and `Q` on itself and on the two parameters of a method. -/
def annotatedFile : ClassFile :=
  { minorVersion := 0, majorVersion := 52
    pool := .ofConstants 10 [
      .text "A".toUTF8.toList, .classRef 1, .text "RuntimeVisibleAnnotations".toUTF8.toList,
      .text "LP;".toUTF8.toList, .text "LQ;".toUTF8.toList, .text "m".toUTF8.toList,
      .text "(II)V".toUTF8.toList, .text "RuntimeInvisibleParameterAnnotations".toUTF8.toList,
      .text "SourceFile".toUTF8.toList]
    accessFlags := 33, thisClass := 2, superClass := 0, interfaces := [], fields := []
    methods := [⟨1, 6, 7, [⟨8, AnnotationTree.encodeParameters [[⟨4, []⟩], [⟨5, []⟩]]⟩]⟩]
    attributes := [⟨3, AnnotationTree.encodeList [⟨4, []⟩, ⟨5, []⟩]⟩, ⟨9, [0, 1]⟩] }

def annotatedPoints : List AttachmentPoint :=
  [⟨.type, "A", none, none, none, "P", true⟩, ⟨.type, "A", none, none, none, "Q", true⟩,
    ⟨.parameter, "A", some "m", some "(II)V", some 0, "P", false⟩,
    ⟨.parameter, "A", some "m", some "(II)V", some 1, "Q", false⟩]

/-- The class without its source file and without every `P`. -/
def halvedFile : ClassFile :=
  { annotatedFile with
    methods := [⟨1, 6, 7, [⟨8, AnnotationTree.encodeParameters [[], [⟨5, []⟩]]⟩]⟩]
    attributes := [⟨3, AnnotationTree.encodeList [⟨5, []⟩]⟩] }

/-- Every other point is rejected. -/
theorem PurgedClass.bytes_read_as_referenceEdit_annotatedFile :
    ∃ purged, ofBytes annotatedFile.layout { skipDebug := true } (fun ordinal _ => ordinal % 2 = 0)
        = .ok purged ∧ purged.bytes = some halvedFile.layout ∧
      ∃ file edited, ClassFile.parse annotatedFile.layout = .ok file ∧
        file.referenceEdit { skipDebug := true } (fun ordinal _ => ordinal % 2 = 0) = .ok edited ∧
        ClassFile.parse halvedFile.layout = .ok edited ∧ edited.Remains file := by
  let purged : PurgedClass :=
    { className := "A", bytes := some halvedFile.layout
      offers := Offer.judged (fun ordinal _ => ordinal % 2 = 0) 0 annotatedPoints }
  have succeeds : ofBytes annotatedFile.layout { skipDebug := true }
      (fun ordinal _ => ordinal % 2 = 0) = .ok purged := by decide +kernel
  exact ⟨purged, succeeds, rfl, bytes_read_as_referenceEdit _ _ _ _ purged succeeds rfl⟩

end Unannotate
