import Unannotate.Proofs.Purge.AlikeRecords

/-!
# Only records of the class itself are opened

A purge looks into the records that stand in the list of the class itself, whatever the version of the class
file is. All other records are kept, byte for byte, and neither what they say nor the version has a part in
what the purge does.
-/
set_option autoImplicit false

namespace Unannotate

open Reader

namespace PurgedClass

/-- Nothing was written for both, or class files that are alike were. -/
def BytesAlike (bytes other : Option Bytes) : Prop :=
  bytes = none ∧ other = none ∨
    ∃ out out' left left', bytes = some out ∧ other = some out' ∧
      ClassFile.parse out = .ok left ∧ ClassFile.parse out' = .ok left' ∧ left.Alike left'

/-- The same fault, or the same offers with the same verdicts and what is alike is written. -/
def OutcomesAlike (outcome other : Except Malformation PurgedClass) : Prop :=
  (∃ fault, outcome = .error fault ∧ other = .error fault) ∨
    ∃ purged purged', outcome = .ok purged ∧ other = .ok purged' ∧
      purged'.className = purged.className ∧ purged'.offers = purged.offers ∧
      BytesAlike purged.bytes purged'.bytes

theorem outcomesAlike_of_alike {data data' : Bytes} {file other : ClassFile}
    (parsed : ClassFile.parse data = .ok file) (parsed' : ClassFile.parse data' = .ok other)
    (alike : file.Alike other) (flags : StripFlags) (decision : Decision) :
    OutcomesAlike (ofBytes data flags decision) (ofBytes data' flags decision) := by
  rw [ofBytes_eq, ofBytes_eq, parsed, parsed', ok_bind, ok_bind, alike.name]
  cases file.name with
  | error fault => exact .inl ⟨fault, rfl, rfl⟩
  | ok name =>
    rw [ok_bind, ok_bind]
    obtain ⟨fault, found, found'⟩ | ⟨part, part', found, found', points, left⟩ := alike.survey flags
    · rw [found, found']
      exact .inl ⟨fault, rfl, rfl⟩
    obtain ⟨leftAlike, same⟩ := left decision 0
    rw [found, found', ok_bind, ok_bind]
    refine .inr ⟨_, _, rfl, rfl, rfl, by rw [points], ?_⟩
    by_cases unchanged : part.left decision 0 = file
    · exact .inl ⟨if_pos unchanged, if_pos (same.mp unchanged)⟩
    · exact .inr ⟨_, _, part.left decision 0, part'.left decision 0, if_neg unchanged,
        if_neg fun unchanged' => unchanged (same.mpr unchanged'),
        parse_layout_of_remains parsed (ClassFile.survey_remains found decision 0),
        parse_layout_of_remains parsed' (ClassFile.survey_remains found' decision 0), leftAlike⟩

/-- Of all records in a class file, those of the class itself are opened and no others. Points of components
are offered only when the class itself has a record; the other records are the same before and after; and
the outcome does not depend on what they say, nor on the version. -/
theorem records_opened_of_class_only (data : Bytes) (file : ClassFile) (flags : StripFlags)
    (decision : Decision) (parsed : ClassFile.parse data = .ok file) :
    (∀ purged, ofBytes data flags decision = .ok purged →
      (∀ offer ∈ purged.offers, offer.point.kind = .recordComponent → file.HasRecord) ∧
      ∀ out, purged.bytes = some out → ∃ left, ClassFile.parse out = .ok left ∧
        left.innerRecords flags = file.innerRecords flags) ∧
    ∀ data' other, ClassFile.parse data' = .ok other → file.Alike other →
      OutcomesAlike (ofBytes data flags decision) (ofBytes data' flags decision) := by
  refine ⟨?_, ?_⟩
  · intro purged succeeds
    obtain ⟨read, name, part, parsedAs, -, found, rfl⟩ := ofBytes_eq_ok succeeds
    obtain rfl := Except.ok.inj (parsed.symm.trans parsedAs)
    constructor
    · intro offer member isComponent
      obtain ⟨item, listed, rfl⟩ := List.mem_map.mp member
      exact ClassFile.hasRecord_of_point found (List.fst_mem_of_mem_zipIdx listed) isComponent
    · intro out written
      have changed : some (part.left decision 0).layout = some out := by
        by_cases unchanged : part.left decision 0 = file
        · simp [unchanged] at written
        · simpa [unchanged] using written
      refine ⟨part.left decision 0, ?_, ClassFile.innerRecords_left found decision 0⟩
      rw [← Option.some.inj changed]
      exact parse_layout_of_remains parsed (ClassFile.survey_remains found decision 0)
  · intro data' other parsed' alike
    exact outcomesAlike_of_alike parsed parsed' alike flags decision

end PurgedClass

/-- A class `A` of an old version with an annotation `P` on its component, and with a record of its field. -/
def oldRecordFile : ClassFile :=
  { minorVersion := 0, majorVersion := 52
    pool := .ofConstants 8 [
      .text "A".toUTF8.toList, .classRef 1, .text "Record".toUTF8.toList, .text "x".toUTF8.toList,
      .text "I".toUTF8.toList, .text "RuntimeVisibleAnnotations".toUTF8.toList,
      .text "LP;".toUTF8.toList]
    accessFlags := 33, thisClass := 2, superClass := 0, interfaces := []
    fields := [⟨0, 4, 5, [⟨3, [0xFF]⟩]⟩], methods := []
    attributes :=
      [⟨3, RecordComponent.listLayout [⟨4, 5, [⟨6, AnnotationTree.encodeList [⟨7, []⟩]⟩]⟩]⟩] }

/-- The class as of a newer version, with another record of its field. -/
def newRecordFile : ClassFile :=
  { oldRecordFile with majorVersion := 61, fields := [⟨0, 4, 5, [⟨3, [1, 2, 3]⟩]⟩] }

/-- The class with a record that cannot be read. -/
def brokenRecordFile : ClassFile := { oldRecordFile with attributes := [⟨3, [0]⟩] }

theorem oldRecordFile_alike : oldRecordFile.Alike newRecordFile := by
  have record : oldRecordFile.pool.text 3 = .ok "Record" := by
    decide +kernel
  refine ⟨rfl, rfl, rfl, rfl, rfl, .cons ⟨rfl, rfl, rfl, .cons ⟨rfl, ?_⟩ .nil⟩ .nil, .nil,
    .cons ⟨rfl, fun _ _ => .inl rfl⟩ .nil⟩
  intro name named
  exact .inr (.inl (Except.ok.inj (named.symm.trans record)))

namespace PurgedClass

/-- The component has a point, and nothing else comes of the version and of the record of the field. -/
theorem records_opened_of_class_only_oldRecordFile :
    oldRecordFile.HasRecord ∧
      OutcomesAlike (ofBytes oldRecordFile.layout {} fun _ _ => true)
        (ofBytes newRecordFile.layout {} fun _ _ => true) := by
  have parsed : ClassFile.parse oldRecordFile.layout = .ok oldRecordFile := by decide +kernel
  have parsed' : ClassFile.parse newRecordFile.layout = .ok newRecordFile := by decide +kernel
  let point : AttachmentPoint := ⟨.recordComponent, "A", some "x", some "I", none, "P", true⟩
  let left : ClassFile :=
    { oldRecordFile with attributes := [⟨3, RecordComponent.listLayout [⟨4, 5, []⟩]⟩] }
  have succeeds : ofBytes oldRecordFile.layout {} (fun _ _ => true)
      = .ok ⟨"A", some left.layout, [⟨point, true⟩]⟩ := by decide +kernel
  obtain ⟨purges, independent⟩ :=
    records_opened_of_class_only oldRecordFile.layout oldRecordFile {} (fun _ _ => true) parsed
  exact ⟨(purges _ succeeds).1 ⟨point, true⟩ (by simp) rfl,
    independent _ _ parsed' oldRecordFile_alike⟩

/-- A record of a class from before there were records is opened all the same: its component has a point, it
loses an annotation, and one that cannot be read is refused. -/
theorem record_of_old_class_opened :
    oldRecordFile.majorVersion < 60 ∧
      (∃ purged left, ofBytes oldRecordFile.layout {} (fun _ _ => true) = .ok purged ∧
        (∃ offer ∈ purged.offers, offer.point.kind = .recordComponent) ∧
        purged.bytes = some left.layout ∧ ClassFile.parse left.layout = .ok left ∧
        left.attributes ≠ oldRecordFile.attributes) ∧
      brokenRecordFile.majorVersion < 60 ∧
      ofBytes brokenRecordFile.layout {} (fun _ _ => true) = .error (.truncated 2 0 1) := by
  let point : AttachmentPoint := ⟨.recordComponent, "A", some "x", some "I", none, "P", true⟩
  let left : ClassFile :=
    { oldRecordFile with attributes := [⟨3, RecordComponent.listLayout [⟨4, 5, []⟩]⟩] }
  have opened : ofBytes oldRecordFile.layout {} (fun _ _ => true)
      = .ok ⟨"A", some left.layout, [⟨point, true⟩]⟩ := by decide +kernel
  have parsed : ClassFile.parse left.layout = .ok left := by decide +kernel
  have refused : ofBytes brokenRecordFile.layout {} (fun _ _ => true) = .error (.truncated 2 0 1) := by
    decide +kernel
  exact ⟨by decide, ⟨_, left, opened, ⟨_, List.mem_singleton_self _, rfl⟩, rfl, parsed, by decide⟩,
    by decide, refused⟩

end PurgedClass

end Unannotate
