import Unannotate.ClassPurge
import Unannotate.Proofs.Purge.Repeated
import Unannotate.Proofs.Purge.WalkLeft

/-!
# A purge accepts what it has written

The layout check of the input tolerates an attribute that it does not know, and does not look at what
stands behind it. The check of the output ends at the same attribute, so a purge accepts its output; but
this takes that the attribute stays there, and that up to there the check agrees with the announced
lengths. Without either the tolerated fault of the input may hide what the check of the output finds.
-/
set_option autoImplicit false

namespace Unannotate

open Reader LayoutCheck LayoutWalk

/-- Class files that are gone over alike are checked alike. -/
theorem ClassFile.checkLayout_eq_of_walk {file left : ClassFile} {flags : StripFlags}
    (fits : file.Fits) (leftFits : left.Fits) (tolerated : Tolerated (file.walk flags))
    (same : left.walk flags = file.walk flags) :
    checkLayout left.layout = checkLayout file.layout := by
  obtain ⟨through, faults⟩ := checkLayout_of_walk flags fits
  obtain ⟨leftThrough, leftFaults⟩ := checkLayout_of_walk flags leftFits
  rw [same] at leftThrough leftFaults
  obtain passed | ⟨name, stopped⟩ := tolerated
  · rw [through passed, leftThrough passed]
  · rw [faults _ stopped, leftFaults _ stopped]

namespace Configuration

/-- When the check of a class succeeds, the walk over it finds no fault but the one that is tolerated. -/
theorem tolerated_of_checkClass {file : ClassFile} {flags : StripFlags} {events : List Event}
    (fits : file.Fits) (checked : checkClass file.layout = .ok events)
    (fitting : file.walk flags ≠ .error .misfit)
    (stays : ∀ name, file.walk flags ≠ .error (.dropped name)) : Tolerated (file.walk flags) := by
  obtain ⟨-, faults⟩ := ClassFile.checkLayout_of_walk flags fits
  cases walk : file.walk flags with
  | ok _ => exact .inl rfl
  | error stop =>
    cases stop with
    | misfit => exact absurd walk fitting
    | dropped name => exact absurd walk (stays name)
    | faulty fault =>
      rw [checkClass, faults fault walk] at checked
      cases fault with
      | unmatchedAttribute name => exact .inr ⟨name, rfl⟩
      | _ => cases checked

/-- A purge succeeds when the class can be purged and its check finds nothing or what is tolerated. -/
theorem optimizer_eq_ok_iff {configuration : Configuration} {data : Bytes} {purged : PurgedClass}
    {events : List Event} :
    configuration.optimizer data = .ok (purged, events) ↔
      PurgedClass.ofBytes data configuration.flags configuration.decision = .ok purged ∧
      ∃ tolerated, checkClass data = .ok tolerated ∧
        events = tolerated ++ purged.removed.map (.removed · purged.className) := by
  unfold optimizer
  cases PurgedClass.ofBytes data configuration.flags configuration.decision with
  | error fault => simp
  | ok found =>
    cases checkClass data with
    | error failure => simp [bind, Except.bind]
    | ok tolerated =>
      constructor
      · intro succeeds
        cases succeeds
        exact ⟨rfl, tolerated, rfl, rfl⟩
      · rintro ⟨⟨⟩, _, ⟨⟩, rfl⟩
        rfl

/-- Whether the verdict is about an annotation of a kind and a name alone. -/
def rejects (configuration : Configuration) (point : AttachmentPoint) : Bool :=
  configuration.filters.shouldRemove point.kind point.annotationName

/-- A purge accepts what it has written, unless the announced length of a body that the layout check
goes over is not what it reads, or the check stops in a body that the flags drop. The check of the
output then ends as that of the input did, and there is nothing left to do. -/
theorem optimizer_accepts_output (configuration : Configuration) (data out : Bytes)
    (purged : PurgedClass) (events : List Event) (file : ClassFile)
    (succeeds : configuration.optimizer data = .ok (purged, events))
    (written : purged.bytes = some out) (parsed : ClassFile.parse data = .ok file)
    (fitting : file.walk configuration.flags ≠ .error .misfit)
    (stays : ∀ name, file.walk configuration.flags ≠ .error (.dropped name)) :
    ∃ again tolerated, checkClass data = .ok tolerated ∧
      configuration.optimizer out = .ok (again, tolerated) ∧
      again.bytes = none ∧ again.removed = [] := by
  obtain ⟨purges, tolerated, checked, -⟩ := optimizer_eq_ok_iff.mp succeeds
  have decides : configuration.decision = fun _ => configuration.rejects := rfl
  rw [decides] at purges
  obtain ⟨read, name, part, readParsed, named, found, rfl⟩ := PurgedClass.ofBytes_eq_ok purges
  rw [parsed] at readParsed
  cases readParsed
  have remains := ClassFile.survey_remains found (fun _ => configuration.rejects) 0
  have changed : (if part.left (fun _ => configuration.rejects) 0 = file then none
    else some (part.left (fun _ => configuration.rejects) 0).layout) = some out := written
  have output : out = (part.left (fun _ => configuration.rejects) 0).layout := by
    rw [← PurgedClass.getD_bytes_eq_layout parsed, changed]
    rfl
  subst output
  -- The purge of the output has nothing to do, and the check of it ends as that of the input.
  obtain ⟨rest, surveyed, settled, noPoint⟩ := ClassFile.survey_settled configuration.rejects found
  have purgesAgain := PurgedClass.ofBytes_layout_of_remains parsed named remains surveyed
    (fun _ => configuration.rejects)
  obtain ⟨fits, -, rfl⟩ := (ClassFile.parse_eq_ok_iff data file).mp parsed
  have harmless := tolerated_of_checkClass fits checked fitting stays
  have sameCheck := ClassFile.checkLayout_eq_of_walk fits (remains.fits fits) harmless
    (ClassFile.walk_left found harmless _ 0)
  have outputChecked : checkClass (part.left (fun _ => configuration.rejects) 0).layout
      = .ok tolerated := by
    rw [← checked, checkClass, checkClass, sameCheck]
  refine ⟨_, tolerated, checked,
    optimizer_eq_ok_iff.mpr ⟨purgesAgain, tolerated, outputChecked, ?_⟩, if_pos settled, ?_⟩
  all_goals rw [PurgedClass.removed_of_judged rfl, noPoint]
  · exact (List.append_nil tolerated).symm
  · rfl

end Configuration

/-- Every `P` goes from classes and methods. -/
def Configuration.withoutP (flags : StripFlags) : Configuration :=
  { filters := { type := [.literal "P"], method := [.literal "P"] }, flags }

/-- A class `A` with some constants behind its own name, one method or none, and attributes. -/
def smallFile (constants : List String) (methods : List (List Attribute))
    (attributes : List Attribute) : ClassFile :=
  { minorVersion := 0, majorVersion := 52
    pool := .ofConstants (UInt16.ofNat (constants.length + 3))
      (.text "A".toUTF8.toList :: .classRef 1 :: constants.map fun text => .text text.toUTF8.toList)
    accessFlags := 33, thisClass := 2, superClass := 0, interfaces := [], fields := []
    methods := methods.map fun attributes => ⟨1, 3, 4, attributes⟩
    attributes }

/-- A code body of one instruction. -/
def smallCode (attributes : List Attribute) : Bytes :=
  ({ limits := [0, 0, 0, 0], instructions := [0xB1], handlers := [], attributes } : Code).layout

/-- Behind an unknown attribute of the class stands a signature that is too short. -/
def tailedFile (method : List Attribute) : ClassFile :=
  smallFile ["m", "()V", "Code", "LineNumberTable", "RuntimeVisibleAnnotations", "LP;", "Custom",
    "Signature"] [method] [⟨9, [1, 2, 3]⟩, ⟨10, [0]⟩]

/-- The method has line numbers and an annotation. -/
def numberedFile : ClassFile :=
  tailedFile [⟨5, smallCode [⟨6, [0, 0]⟩]⟩, ⟨7, AnnotationTree.encodeList [⟨8, []⟩]⟩]

namespace Configuration

/-- The method loses its annotation and its line numbers, and the check still stops at the unknown
attribute of the class, in front of the signature. -/
theorem optimizer_accepts_output_numberedFile :
    ∃ purged events, (withoutP { skipDebug := true }).optimizer numberedFile.layout
        = .ok (purged, events) ∧
      purged.bytes = some (tailedFile [⟨5, smallCode []⟩]).layout ∧
      numberedFile.walk { skipDebug := true } ≠ .error .misfit ∧
      (∀ name, numberedFile.walk { skipDebug := true } ≠ .error (.dropped name)) ∧
      ∃ again tolerated, checkClass numberedFile.layout = .ok tolerated ∧
        (withoutP { skipDebug := true }).optimizer (tailedFile [⟨5, smallCode []⟩]).layout
          = .ok (again, tolerated) ∧
        again.bytes = none ∧ again.removed = [] := by
  let point : AttachmentPoint := ⟨.method, "A", some "m", some "()V", none, "P", true⟩
  let purged : PurgedClass :=
    { className := "A", bytes := some (tailedFile [⟨5, smallCode []⟩]).layout
      offers := [⟨point, true⟩] }
  have succeeds : (withoutP { skipDebug := true }).optimizer numberedFile.layout
      = .ok (purged, [.toleratedAttribute "Custom", .removed point.removal "A"]) := by decide +kernel
  have parsed : ClassFile.parse numberedFile.layout = .ok numberedFile := by decide +kernel
  have walk : numberedFile.walk { skipDebug := true }
      = .error (.faulty (.unmatchedAttribute "Custom")) := by decide +kernel
  have fitting : numberedFile.walk { skipDebug := true } ≠ .error .misfit := by simp [walk]
  have stays (name : String) : numberedFile.walk { skipDebug := true } ≠ .error (.dropped name) := by
    simp [walk]
  exact ⟨purged, _, succeeds, rfl, fitting, stays,
    optimizer_accepts_output _ _ _ purged _ numberedFile succeeds rfl parsed fitting stays⟩

end Configuration

/-- The check stops in the code body, and behind it a signature of the class is too short. -/
def shieldedFile (method : List Attribute) : ClassFile :=
  smallFile ["m", "()V", "Code", "Custom", "Signature"] [method] [⟨7, [0]⟩]

/-- The check takes the body of the first attribute for an unknown attribute of its own. -/
def shiftedFile (others : List Attribute) : ClassFile :=
  smallFile ["Deprecated", "Custom", "RuntimeVisibleAnnotations", "LP;"] []
    (⟨3, [0, 4, 0, 0, 0, 0]⟩ :: others)

/-- Without either condition the output can be refused: when the code body in which the check stops is
dropped, and when an attribute is dropped that the check, out of step, has not come to. -/
theorem Configuration.optimizer_refuses_output :
    (∃ purged events fault,
      (withoutP { skipCode := true }).optimizer
        (shieldedFile [⟨5, smallCode [⟨6, []⟩]⟩]).layout = .ok (purged, events) ∧
      (shieldedFile [⟨5, smallCode [⟨6, []⟩]⟩]).walk { skipCode := true }
        = .error (.dropped "Custom") ∧
      purged.bytes = some (shieldedFile []).layout ∧
      (withoutP { skipCode := true }).optimizer (shieldedFile []).layout = .error fault) ∧
    ∃ purged events fault,
      (withoutP {}).optimizer (shiftedFile [⟨5, AnnotationTree.encodeList [⟨6, []⟩]⟩]).layout
        = .ok (purged, events) ∧
      (shiftedFile [⟨5, AnnotationTree.encodeList [⟨6, []⟩]⟩]).walk {} = .error .misfit ∧
      purged.bytes = some (shiftedFile []).layout ∧
      (withoutP {}).optimizer (shiftedFile []).layout = .error fault := by
  constructor
  · refine ⟨{ className := "A", bytes := some (shieldedFile []).layout, offers := [] },
      [.toleratedAttribute "Custom"], .ofCause (.malformed (.layout (.overflow 83 84))),
      ?_, ?_, rfl, ?_⟩
    all_goals decide +kernel
  · let point : AttachmentPoint := ⟨.type, "A", none, none, none, "P", true⟩
    refine ⟨{ className := "A", bytes := some (shiftedFile []).layout, offers := [⟨point, true⟩] },
      [.toleratedAttribute "Custom", .removed point.removal "A"],
      .ofCause (.malformed (.layout (.notAllRead 99 93))), ?_, ?_, rfl, ?_⟩
    all_goals decide +kernel

end Unannotate
