import Unannotate.Proofs.Purge.Composition

/-!
# Purging a class again

Two purges of a class come to one purge, with the flags of both and every rejection of either: it ends
with the same bytes, and it removes what the two remove together. So their order does not matter, and a
purge that runs again finds nothing to do, whatever it left.
-/
set_option autoImplicit false

namespace Unannotate

open Reader

/-- What one of two decisions rejects is what the first does, and what the second does of the rest. -/
theorem filter_either_perm (reject reject' : AttachmentPoint → Bool) (points : List AttachmentPoint) :
    (points.filter (either reject reject')).Perm
      (points.filter reject ++ (spared reject points).filter reject') := by
  have halves := List.filter_append_perm reject (points.filter (either reject reject'))
  have front : (points.filter (either reject reject')).filter reject = points.filter reject := by
    rw [List.filter_filter]
    congr 1
    funext point
    simp only [either]
    cases reject point <;> rfl
  have back : (points.filter (either reject reject')).filter (fun point => !reject point)
      = (spared reject points).filter reject' := by
    rw [spared, List.filter_filter, List.filter_filter]
    congr 1
    funext point
    simp only [either]
    cases reject point <;> cases reject' point <;> rfl
  rw [front, back] at halves
  exact halves.symm

/-- A second survey finds the points that the first pass has spared, under any flags. -/
theorem ClassFile.survey_left_points (reject : AttachmentPoint → Bool) {flags later : StripFlags}
    {file : ClassFile} {part rest : Purgeable ClassFile} (found : file.survey flags = .ok part)
    {first : Nat} (surveyed : (part.left (fun _ => reject) first).survey later = .ok rest) :
    rest.points = spared reject part.points := by
  obtain ⟨plain, plainSurveyed, points⟩ := survey_prunes reject found first
  have same := (survey_points surveyed).symm.trans (survey_points plainSurveyed)
  rw [Except.ok.inj same, points]

/-- What a pass has left, the same rules leave as it is, and there is no point in it to reject. -/
theorem ClassFile.survey_settled (reject : AttachmentPoint → Bool) {flags : StripFlags}
    {file : ClassFile} {part : Purgeable ClassFile} (found : file.survey flags = .ok part) :
    ∃ rest, (part.left (fun _ => reject) 0).survey flags = .ok rest ∧
      rest.left (fun _ => reject) 0 = part.left (fun _ => reject) 0 ∧
      rest.points.filter reject = [] := by
  obtain ⟨rest, surveyed, points⟩ := survey_prunes_under reject flags.settles_self found 0
  refine ⟨rest, surveyed, ?_, ?_⟩
  · -- One pass with the rules twice is the first pass.
    obtain ⟨single, wholeFound, same⟩ := survey_finished reject reject found 0 rest surveyed
    rw [StripFlags.union_self, found] at wholeFound
    cases wholeFound
    rw [either_self] at same
    exact (same 0 0).symm
  · rw [points, spared, List.filter_filter]
    simp

namespace PurgedClass

variable {data : Bytes} {flags flags' : StripFlags} {reject reject' : AttachmentPoint → Bool}

/-- Where the verdict depends on the point alone, the rejected points are removed. -/
theorem removed_of_judged {purged : PurgedClass} {first : Nat} {points : List AttachmentPoint}
    (offers : purged.offers = Offer.judged (fun _ => reject) first points) :
    purged.removed = (points.filter reject).map (·.removal) := by
  rw [removed, offers, ← Offer.filter_rejected_judged reject first, List.map_map]
  rfl

/-- A purge of what is left of a class that was read, given what a survey of that finds. -/
theorem ofBytes_layout_of_remains {file left : ClassFile} {name : String} {rest : Purgeable ClassFile}
    (parsed : ClassFile.parse data = .ok file) (named : file.name = .ok name)
    (remains : left.Remains file) (surveyed : left.survey flags = .ok rest) (decision : Decision) :
    ofBytes left.layout flags decision = .ok {
      className := dotted name.toList
      bytes := if rest.left decision 0 = left then none else some (rest.left decision 0).layout
      offers := Offer.judged decision 0 rest.points } := by
  rw [ofBytes_eq, parse_layout_of_remains parsed remains, ok_bind, remains.name, named, ok_bind,
    surveyed]
  rfl

/-- Where two purges in a row succeed, one with the rules of both does what they do together. -/
theorem exists_single_purge {first second : PurgedClass}
    (firstSucceeds : ofBytes data flags (fun _ => reject) = .ok first)
    (secondSucceeds : ofBytes (first.bytes.getD data) flags' (fun _ => reject') = .ok second) :
    ∃ whole, ofBytes data (flags.union flags') (fun _ => either reject reject') = .ok whole ∧
      whole.bytes.getD data = second.bytes.getD (first.bytes.getD data) ∧
      whole.removed.Perm (first.removed ++ second.removed) := by
  obtain ⟨file, name, part, parsed, named, found, rfl⟩ := ofBytes_eq_ok firstSucceeds
  have remains := ClassFile.survey_remains found (fun _ => reject) 0
  have reparsed := parse_layout_of_remains parsed remains
  rw [getD_bytes_eq_layout parsed] at secondSucceeds ⊢
  obtain ⟨left, leftName, rest, leftParsed, -, surveyed, rfl⟩ := ofBytes_eq_ok secondSucceeds
  rw [reparsed] at leftParsed
  cases leftParsed
  obtain ⟨single, wholeFound, same⟩ :=
    ClassFile.survey_finished reject reject' found 0 rest surveyed
  refine ⟨_, by rw [ofBytes_eq, parsed, ok_bind, named, ok_bind, wholeFound]; rfl, ?_, ?_⟩
  · rw [getD_bytes_eq_layout parsed, getD_bytes_eq_layout reparsed, same 0 0]
  · have points : single.points = part.points := by
      have counted := (ClassFile.survey_points wholeFound).symm.trans (ClassFile.survey_points found)
      exact Except.ok.inj counted
    rw [removed_of_judged rfl, removed_of_judged rfl, removed_of_judged rfl, points,
      ClassFile.survey_left_points reject found surveyed, ← List.map_append]
    exact (filter_either_perm reject reject' part.points).map _

/-- A purge whose verdicts depend on the point alone leaves a class in which it finds nothing to do. -/
theorem purge_idempotent (data : Bytes) (flags : StripFlags) (reject : AttachmentPoint → Bool)
    (purged : PurgedClass) (succeeds : ofBytes data flags (fun _ => reject) = .ok purged) :
    ∃ again, ofBytes (purged.bytes.getD data) flags (fun _ => reject) = .ok again ∧
      again.bytes = none ∧ again.removed = [] := by
  obtain ⟨file, name, part, parsed, named, found, rfl⟩ := ofBytes_eq_ok succeeds
  have remains := ClassFile.survey_remains found (fun _ => reject) 0
  obtain ⟨rest, surveyed, settled, noPoint⟩ := ClassFile.survey_settled reject found
  rw [getD_bytes_eq_layout parsed, ofBytes_layout_of_remains parsed named remains surveyed]
  refine ⟨_, rfl, if_pos settled, ?_⟩
  rw [removed_of_judged rfl, noPoint]
  rfl

/-- Without its source file and without every `P`, the class has nothing more to lose. -/
theorem purge_idempotent_annotatedFile :
    ∃ purged, ofBytes annotatedFile.layout { skipDebug := true }
        (fun _ point => point.annotationName == "P") = .ok purged ∧
      purged.bytes = some halvedFile.layout ∧
      ∃ again, ofBytes (purged.bytes.getD annotatedFile.layout) { skipDebug := true }
          (fun _ point => point.annotationName == "P") = .ok again ∧
        again.bytes = none ∧ again.removed = [] := by
  let purged : PurgedClass :=
    { className := "A", bytes := some halvedFile.layout
      offers := Offer.judged (fun _ point => point.annotationName == "P") 0 annotatedPoints }
  have succeeds : ofBytes annotatedFile.layout { skipDebug := true }
      (fun _ point => point.annotationName == "P") = .ok purged := by decide +kernel
  exact ⟨purged, succeeds, rfl, purge_idempotent _ _ _ purged succeeds⟩

/-- Two purges in a row, where both succeed, are one purge with the flags of both that drops what either
drops; in the opposite order, where that succeeds too, they end the same. -/
theorem purges_compose (data : Bytes) (flags flags' : StripFlags)
    (reject reject' : AttachmentPoint → Bool) (first second : PurgedClass)
    (firstSucceeds : ofBytes data flags (fun _ => reject) = .ok first)
    (secondSucceeds : ofBytes (first.bytes.getD data) flags' (fun _ => reject') = .ok second) :
    (∃ whole, ofBytes data (flags.union flags') (fun _ => either reject reject') = .ok whole ∧
      whole.bytes.getD data = second.bytes.getD (first.bytes.getD data) ∧
      whole.removed.Perm (first.removed ++ second.removed)) ∧
    ∀ other last, ofBytes data flags' (fun _ => reject') = .ok other →
      ofBytes (other.bytes.getD data) flags (fun _ => reject) = .ok last →
        last.bytes.getD (other.bytes.getD data) = second.bytes.getD (first.bytes.getD data) ∧
        (other.removed ++ last.removed).Perm (first.removed ++ second.removed) := by
  obtain ⟨whole, wholeSucceeds, sameBytes, together⟩ :=
    exists_single_purge firstSucceeds secondSucceeds
  refine ⟨⟨whole, wholeSucceeds, sameBytes, together⟩, ?_⟩
  intro other last otherSucceeds lastSucceeds
  obtain ⟨swapped, swappedSucceeds, swappedBytes, swappedTogether⟩ :=
    exists_single_purge otherSucceeds lastSucceeds
  -- The single purge does not know an order of its rules.
  rw [StripFlags.union_comm, either_comm, wholeSucceeds] at swappedSucceeds
  cases swappedSucceeds
  exact ⟨swappedBytes.symm.trans sameBytes, swappedTogether.symm.trans together⟩

/-- The class without annotations and without its source file. -/
def strippedFile : ClassFile :=
  { annotatedFile with methods := [⟨1, 6, 7, []⟩], attributes := [] }

/-- First every `P` goes and the source file, then every `Q`: both attributes are emptied in two steps. -/
theorem purges_compose_annotatedFile :
    ∃ first second, ofBytes annotatedFile.layout { skipDebug := true }
        (fun _ point => point.annotationName == "P") = .ok first ∧
      ofBytes (first.bytes.getD annotatedFile.layout) { skipCode := true }
        (fun _ point => point.annotationName == "Q") = .ok second ∧
      second.bytes = some strippedFile.layout ∧
      (∃ whole, ofBytes annotatedFile.layout
          (StripFlags.union { skipDebug := true } { skipCode := true })
          (fun _ => either (·.annotationName == "P") (·.annotationName == "Q")) = .ok whole ∧
        whole.bytes.getD annotatedFile.layout
          = second.bytes.getD (first.bytes.getD annotatedFile.layout) ∧
        whole.removed.Perm (first.removed ++ second.removed)) ∧
      ∀ other last, ofBytes annotatedFile.layout { skipCode := true }
          (fun _ point => point.annotationName == "Q") = .ok other →
        ofBytes (other.bytes.getD annotatedFile.layout) { skipDebug := true }
            (fun _ point => point.annotationName == "P") = .ok last →
          last.bytes.getD (other.bytes.getD annotatedFile.layout)
            = second.bytes.getD (first.bytes.getD annotatedFile.layout) ∧
          (other.removed ++ last.removed).Perm (first.removed ++ second.removed) := by
  let first : PurgedClass :=
    { className := "A", bytes := some halvedFile.layout
      offers := Offer.judged (fun _ point => point.annotationName == "P") 0 annotatedPoints }
  let second : PurgedClass :=
    { className := "A", bytes := some strippedFile.layout
      offers := Offer.judged (fun _ point => point.annotationName == "Q") 0
        (annotatedPoints.filter (·.annotationName == "Q")) }
  have firstSucceeds : ofBytes annotatedFile.layout { skipDebug := true }
      (fun _ point => point.annotationName == "P") = .ok first := by decide +kernel
  have secondSucceeds : ofBytes (first.bytes.getD annotatedFile.layout) { skipCode := true }
      (fun _ point => point.annotationName == "Q") = .ok second := by decide +kernel
  exact ⟨first, second, firstSucceeds, secondSucceeds, rfl,
    purges_compose _ _ _ _ _ first second firstSucceeds secondSucceeds⟩

end PurgedClass

end Unannotate
