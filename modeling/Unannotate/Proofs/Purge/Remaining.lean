import Unannotate.Proofs.Purge.Points

/-!
# A purged class has the points that were not rejected

When a decision looks at the point alone, the points of what is left of a part are the points of the part
that it does not reject, with everything about them as it was. This goes from one annotation, which is
kept as it is, up to the class file: an attribute that goes away with its last annotation had no other
points, a parameter that loses its annotations keeps its number, and what the flags drop had no points.
-/
set_option autoImplicit false

namespace Unannotate

open Reader

/-- A purge under `later` opens no code body that one under `flags` neither opened nor dropped. -/
def StripFlags.Settles (flags later : StripFlags) : Prop :=
  (later.skipDebug || later.skipFrames) = true →
    (flags.skipCode || (flags.skipDebug || flags.skipFrames)) = true

theorem StripFlags.settles_none (flags : StripFlags) : flags.Settles {} := by
  intro opens
  cases opens

theorem StripFlags.settles_self (flags : StripFlags) : flags.Settles flags := by
  intro opens
  rw [opens, Bool.or_true]

/-- The points that are left when some are rejected. -/
def spared (reject : AttachmentPoint → Bool) (points : List AttachmentPoint) :
    List AttachmentPoint := points.filter fun point => !reject point

namespace Purgeable

variable {α β : Type}

/-- Surveying again what is left of a part finds the points that were spared. -/
def Prunes (reject : AttachmentPoint → Bool) (again : α → Except Malformation (Purgeable β))
    (part : Purgeable α) : Prop :=
  ∀ first, ∃ rest, again (part.left (fun _ => reject) first) = .ok rest ∧
    rest.points = spared reject part.points

/-- The same for a part that can go away, which then must not take a spared point with it. -/
def PrunesOrDrops (reject : AttachmentPoint → Bool) (again : α → Except Malformation (Purgeable β))
    (part : Purgeable (Option α)) : Prop :=
  ∀ first, (part.left (fun _ => reject) first = none → spared reject part.points = []) ∧
    ∀ value, part.left (fun _ => reject) first = some value →
      ∃ rest, again value = .ok rest ∧ rest.points = spared reject part.points

end Purgeable

namespace Survey

variable {α β γ : Type} (reject : AttachmentPoint → Bool)

/-- The first item and the others, surveyed again one after the other. -/
theorem cons_prunes {again : β → Except Malformation (Purgeable γ)}
    {againEach againList : List β → Except Malformation (Purgeable (List γ))}
    (alike : ∀ value rest, againList (value :: rest) = map₂ List.cons (again value) (againEach rest))
    {head : Purgeable β} {tail : Purgeable (List β)} (headPrunes : head.Prunes reject again)
    (tailPrunes : tail.Prunes reject againEach) :
    (head.map₂ List.cons tail).Prunes reject againList := by
  intro first
  obtain ⟨headAgain, headSurveyed, headPoints⟩ := headPrunes first
  obtain ⟨tailAgain, tailSurveyed, tailPoints⟩ := tailPrunes (first + head.points.length)
  refine ⟨headAgain.map₂ List.cons tailAgain, (alike _ _).trans ?_, ?_⟩
  · exact map₂_eq_ok_iff.mpr ⟨headAgain, tailAgain, headSurveyed, tailSurveyed, rfl⟩
  · show headAgain.points ++ tailAgain.points = spared reject (head.points ++ tail.points)
    rw [headPoints, tailPoints, spared, spared, spared, List.filter_append]

theorem traverse_prunes {find : α → Except Malformation (Purgeable β)}
    {again : β → Except Malformation (Purgeable γ)}
    (each : ∀ item part, find item = .ok part → part.Prunes reject again) (list : List α)
    (part : Purgeable (List β)) (found : traverse find list = .ok part) :
    part.Prunes reject (traverse again) := by
  induction list generalizing part with
  | nil =>
    cases found
    intro first
    exact ⟨_, rfl, rfl⟩
  | cons item rest ih =>
    obtain ⟨head, tail, headFound, tailFound, rfl⟩ := map₂_eq_ok_iff.mp found
    exact cons_prunes reject (fun _ _ => rfl) (each item head headFound) (ih tail tailFound)

theorem filterMap_prunes {find : α → Except Malformation (Purgeable (Option β))}
    {again : β → Except Malformation (Purgeable (Option γ))}
    (each : ∀ item part, find item = .ok part → part.PrunesOrDrops reject again) (list : List α)
    (part : Purgeable (List β)) (found : filterMap find list = .ok part) :
    part.Prunes reject (filterMap again) := by
  induction list generalizing part with
  | nil =>
    cases found
    intro first
    exact ⟨_, rfl, rfl⟩
  | cons item rest ih =>
    obtain ⟨head, tail, headFound, tailFound, rfl⟩ := map₂_eq_ok_iff.mp found
    intro first
    obtain ⟨drops, keeps⟩ := each item head headFound first
    obtain ⟨tailAgain, tailSurveyed, tailPoints⟩ :=
      ih tail tailFound (first + head.points.length)
    have points : spared reject (head.points ++ tail.points)
        = spared reject head.points ++ tailAgain.points := by
      rw [tailPoints, spared, spared, spared, List.filter_append]
    show ∃ rest, filterMap again ((head.left (fun _ => reject) first).toList ++ _) = .ok rest ∧
      rest.points = spared reject (head.points ++ tail.points)
    rw [points]
    cases fate : head.left (fun _ => reject) first with
    | none =>
      -- An item that goes away had no spared points.
      rw [drops fate]
      exact ⟨tailAgain, tailSurveyed, rfl⟩
    | some value =>
      obtain ⟨headAgain, headSurveyed, headPoints⟩ := keeps value fate
      refine ⟨_, map₂_eq_ok_iff.mpr ⟨headAgain, tailAgain, headSurveyed, tailSurveyed, rfl⟩, ?_⟩
      show headAgain.points ++ tailAgain.points = spared reject head.points ++ tailAgain.points
      rw [headPoints]

end Survey

namespace ClassContext

variable {context : ClassContext} {flags : StripFlags} {site : Site} {kind : ElementKind}
  {parameter : Option UInt8} {visible : Bool} {info : Bytes} (reject : AttachmentPoint → Bool)

/-! ## Annotations -/

theorem surveyTrees_prunes {trees : List AnnotationTree} {part : Purgeable (List AnnotationTree)}
    (found : context.surveyTrees site kind parameter visible trees = .ok part) :
    part.Prunes reject (context.surveyTrees site kind parameter visible) := by
  refine Survey.filterMap_prunes reject ?_ trees part found
  intro tree part treeFound first
  obtain ⟨point, pointFound, rfl⟩ := surveyTree_eq_ok treeFound
  show ((if reject point then none else some tree) = none → spared reject [point] = []) ∧
    ∀ value, (if reject point then none else some tree) = some value → _
  by_cases rejected : reject point
  · simp [rejected, spared]
  · rw [if_neg rejected]
    constructor
    · intro gone
      cases gone
    · intro value kept
      cases kept
      refine ⟨_, treeFound, ?_⟩
      simp [Purgeable.map, Purgeable.verdict, spared, rejected]

theorem surveyParameterLists_prunes {first : Nat} {lists : List (List AnnotationTree)}
    {part : Purgeable (List (List AnnotationTree))}
    (found : context.surveyParameterLists site visible first lists = .ok part) :
    part.Prunes reject (context.surveyParameterLists site visible first) := by
  induction lists generalizing first part with
  | nil =>
    cases found
    intro ordinal
    exact ⟨_, rfl, rfl⟩
  | cons trees rest ih =>
    obtain ⟨head, tail, headFound, tailFound, rfl⟩ := Survey.map₂_eq_ok_iff.mp found
    exact Survey.cons_prunes reject (fun _ _ => rfl) (surveyTrees_prunes reject headFound) (ih tailFound)

/-- A body that goes away has no tree left in it. -/
theorem after_eq_zero_of_gone {before after : Nat} {written : Bytes}
    (gone : remainingBody before after written = none) : after = 0 := by
  unfold remainingBody at gone
  split at gone
  · next empty => exact empty.1
  · cases gone

theorem eq_of_remainingBody {before after : Nat} {written left : Bytes}
    (remaining : remainingBody before after written = some left) : left = written := by
  unfold remainingBody at remaining
  split at remaining
  · cases remaining
  · exact (Option.some.inj remaining).symm

/-- A body that is there for its annotations, given how they are read, counted and surveyed. -/
theorem remainingBody_prunes {α : Type} (parse : Bytes → Except Malformation α) (encode : α → Bytes)
    (count : α → Nat) {find : α → Except Malformation (Purgeable α)} {before : Nat} {kept : Purgeable α}
    (prunes : kept.Prunes reject find)
    (nothing : ∀ items part, count items = 0 → find items = .ok part → part.points = [])
    (reads : ∀ first, parse (encode (kept.left (fun _ => reject) first))
      = .ok (kept.left (fun _ => reject) first)) :
    (kept.map fun left => remainingBody before (count left) (encode left)).PrunesOrDrops reject
      (fun info => do
        let items ← parse info
        Survey.map (fun left => remainingBody (count items) (count left) (encode left)) (find items)) := by
  intro first
  obtain ⟨again, surveyed, points⟩ := prunes first
  constructor
  · intro gone
    -- Nothing is left in the body now, so surveying it again finds nothing.
    show spared reject kept.points = []
    rw [← points]
    exact nothing _ _ (after_eq_zero_of_gone gone) surveyed
  · intro left remaining
    simp only [eq_of_remainingBody remaining, reads, ok_bind, surveyed]
    exact ⟨_, rfl, points⟩

theorem surveyAnnotations_prunes {part : Purgeable (Option Bytes)}
    (found : context.surveyAnnotations site kind visible info = .ok part) :
    part.PrunesOrDrops reject (context.surveyAnnotations site kind visible) := by
  obtain ⟨trees, kept, fits, written, keptFound, rfl⟩ := surveyAnnotations_eq_ok found
  refine remainingBody_prunes reject AnnotationTree.parseList AnnotationTree.encodeList List.length
    (surveyTrees_prunes reject keptFound) ?_ ?_
  · intro items again empty surveyed
    cases List.eq_nil_of_length_eq_zero empty
    cases surveyed
    rfl
  · intro first
    have sublist := surveyTrees_sublist keptFound (fun _ => reject) first
    exact (AnnotationTree.parseList_eq_ok_iff _ _).mpr ⟨CountedFits.ofSublist fits sublist, rfl⟩

/-- Where no tree is left in any list, no point is found. -/
theorem surveyParameterLists_points_of_empty {first : Nat} {lists : List (List AnnotationTree)}
    {part : Purgeable (List (List AnnotationTree))} (empty : lists.flatten = [])
    (found : context.surveyParameterLists site visible first lists = .ok part) :
    part.points = [] := by
  induction lists generalizing first part with
  | nil =>
    cases found
    rfl
  | cons trees rest ih =>
    obtain ⟨head, tail, headFound, tailFound, rfl⟩ := Survey.map₂_eq_ok_iff.mp found
    obtain ⟨noTrees, restEmpty⟩ := List.append_eq_nil_iff.mp empty
    have headFound : context.surveyTrees site .parameter (some (UInt8.ofNat first)) visible trees
        = .ok head := headFound
    rw [noTrees] at headFound
    cases headFound
    have others := ih restEmpty tailFound
    exact others

theorem surveyParameters_prunes {part : Purgeable (Option Bytes)}
    (found : context.surveyParameters site visible info = .ok part) :
    part.PrunesOrDrops reject (context.surveyParameters site visible) := by
  obtain ⟨lists, kept, fits, written, keptFound, rfl⟩ := surveyParameters_eq_ok found
  refine remainingBody_prunes reject AnnotationTree.parseParameters AnnotationTree.encodeParameters
    (fun lists => lists.flatten.length) (surveyParameterLists_prunes reject keptFound) ?_ ?_
  · intro items again empty surveyed
    exact surveyParameterLists_points_of_empty (List.eq_nil_of_length_eq_zero empty) surveyed
  · intro first
    have sublists := surveyParameterLists_sublist keptFound (fun _ => reject) first
    exact (AnnotationTree.parseParameters_eq_ok_iff _ _).mpr ⟨fits.ofForall₂ sublists, rfl⟩

/-! ## Attributes -/

theorem surveyList_prunes
    {ofBody again : String → Bytes → Except Malformation (Purgeable (Option Bytes))}
    (each : ∀ name info part, ofBody name info = .ok part → part.PrunesOrDrops reject (again name))
    {attributes : List Attribute} {part : Purgeable (List Attribute)}
    (found : context.surveyList ofBody attributes = .ok part) :
    part.Prunes reject (context.surveyList again) := by
  refine Survey.filterMap_prunes reject ?_ attributes part found
  intro item part itemFound first
  obtain ⟨name, body, named, bodyFound, rfl⟩ := surveyAttribute_eq_ok itemFound
  obtain ⟨drops, keeps⟩ := each name item.info body bodyFound first
  constructor
  · intro gone
    exact drops (Option.map_eq_none_iff.mp gone)
  · intro left remaining
    obtain ⟨info, infoLeft, rfl⟩ := Option.map_eq_some_iff.mp remaining
    obtain ⟨rest, surveyed, points⟩ := keeps info infoLeft
    rw [surveyAttribute, named, ok_bind, surveyed]
    exact ⟨_, rfl, points⟩

/-- A body without points, whose attribute has none afterwards either. -/
theorem prunesOrDrops_of_points_eq_nil {again : Bytes → Except Malformation (Purgeable (Option Bytes))}
    {part : Purgeable (Option Bytes)} (noPoints : part.points = [])
    (afterwards : ∀ first left, part.left (fun _ => reject) first = some left →
      ∃ rest, again left = .ok rest ∧ rest.points = []) :
    part.PrunesOrDrops reject again := by
  intro first
  rw [noPoints]
  exact ⟨fun _ => rfl, afterwards first⟩

theorem surveyNested_prunes (later : StripFlags) {attributes : List Attribute}
    {part : Purgeable (List Attribute)}
    (found : context.surveyNested flags attributes = .ok part) :
    part.Prunes reject (context.surveyNested later) := by
  refine surveyList_prunes reject ?_ found
  intro name info part bodyFound
  cases bodyFound
  exact prunesOrDrops_of_points_eq_nil reject rfl fun _ _ _ => ⟨_, rfl, rfl⟩

theorem surveyCode_points {part : Purgeable (Option Bytes)}
    (found : context.surveyCode flags info = .ok part) : part.points = [] := by
  obtain ⟨code, kept, -, -, keptFound, rfl⟩ := surveyCode_eq_ok found
  exact surveyNested_points keptFound

/-- What is left of a code body can be opened again. -/
theorem surveyCode_again (later : StripFlags) {part : Purgeable (Option Bytes)}
    (found : context.surveyCode flags info = .ok part) {first : Nat} {left : Bytes}
    (remaining : part.left (fun _ => reject) first = some left) :
    ∃ rest, context.surveyCode later left = .ok rest := by
  obtain ⟨code, kept, fits, -, keptFound, rfl⟩ := surveyCode_eq_ok found
  cases remaining
  have part := surveyNested_sublist keptFound (fun _ => reject) first
  have parsed := (Code.parse_eq_ok_iff _ _).mpr ⟨fits.ofSublist part, rfl⟩
  obtain ⟨rest, surveyed, -⟩ := surveyNested_prunes reject later keptFound first
  rw [surveyCode, parsed, ok_bind, surveyed]
  exact ⟨_, rfl⟩

variable {later : StripFlags} (settles : flags.Settles later)

include settles

theorem surveyBody_prunes {name : String} {part : Purgeable (Option Bytes)}
    (found : context.surveyBody flags site name info = .ok part) :
    part.PrunesOrDrops reject (context.surveyBody later site name) := by
  have unread (fate : Option Bytes) (fixed : Survey.fixed fate = .ok part) : part.points = [] := by
    cases fixed
    rfl
  cases view : AttributeView.of site name with
  | annotations kind visible =>
    rw [surveyBody_of_annotations view] at found ⊢
    exact surveyAnnotations_prunes reject found
  | parameters visible =>
    rw [surveyBody_of_parameters view] at found ⊢
    exact surveyParameters_prunes reject found
  | code =>
    rw [surveyBody_of_code view] at found
    have noPoints : part.points = [] := by
      split at found
      · exact unread _ found
      · split at found
        · exact surveyCode_points found
        · exact unread _ found
    refine prunesOrDrops_of_points_eq_nil reject noPoints ?_
    intro first left remaining
    rw [surveyBody_of_code view]
    split
    · exact ⟨_, rfl, rfl⟩
    · split
      · next opens =>
        -- The first pass did not drop the body, so it has opened it.
        split at found
        · cases found
          cases remaining
        · next keepsCode =>
          rw [if_pos (by simpa [keepsCode] using settles opens)] at found
          obtain ⟨rest, surveyed⟩ := surveyCode_again reject later found remaining
          exact ⟨rest, surveyed, surveyCode_points surveyed⟩
      · exact ⟨_, rfl, rfl⟩
  | debugInfo =>
    rw [surveyBody_of_debugInfo view] at found
    refine prunesOrDrops_of_points_eq_nil reject (unread _ found) ?_
    intro first left _
    rw [surveyBody_of_debugInfo view]
    exact ⟨_, rfl, rfl⟩
  | record =>
    rw [surveyBody_of_other (.inl view)] at found
    refine prunesOrDrops_of_points_eq_nil reject (unread _ found) ?_
    intro first left _
    rw [surveyBody_of_other (.inl view)]
    exact ⟨_, rfl, rfl⟩
  | other =>
    rw [surveyBody_of_other (.inr view)] at found
    refine prunesOrDrops_of_points_eq_nil reject (unread _ found) ?_
    intro first left _
    rw [surveyBody_of_other (.inr view)]
    exact ⟨_, rfl, rfl⟩

/-! ## Classes and what has attribute lists in them -/

theorem surveyNamed_prunes {α : Type} {place : String → String → Site}
    {nameIndex descriptorIndex : UInt16} {attributes : List Attribute} {around : List Attribute → α}
    {again : α → Except Malformation (Purgeable α)} {part : Purgeable α}
    (alike : ∀ left, ∃ after : List Attribute → α, again (around left)
      = context.surveyNamed later place nameIndex descriptorIndex left after)
    (found : context.surveyNamed flags place nameIndex descriptorIndex attributes around = .ok part) :
    part.Prunes reject again := by
  obtain ⟨name, descriptor, kept, named, described, keptFound, rfl⟩ := surveyNamed_eq_ok found
  intro first
  obtain ⟨rest, surveyed, points⟩ := surveyList_prunes reject
    (fun _ _ _ bodyFound => surveyBody_prunes reject settles bodyFound) keptFound first
  obtain ⟨after, same⟩ := alike (kept.left (fun _ => reject) first)
  simp only [Purgeable.map, same, surveyNamed, named, described, ok_bind, surveyed]
  exact ⟨_, rfl, points⟩

theorem surveyComponent_prunes {component : RecordComponent} {part : Purgeable RecordComponent}
    (found : context.surveyComponent flags component = .ok part) :
    part.Prunes reject (context.surveyComponent later) :=
  surveyNamed_prunes reject settles (fun _ => ⟨_, rfl⟩) found

theorem surveyClassBody_prunes {name : String} {part : Purgeable (Option Bytes)}
    (found : context.surveyClassBody flags name info = .ok part) :
    part.PrunesOrDrops reject (context.surveyClassBody later name) := by
  by_cases view : AttributeView.of .classBody name = .record
  · rw [surveyClassBody_of_record view] at found ⊢
    obtain ⟨components, kept, fits, written, keptFound, rfl⟩ := surveyRecord_eq_ok found
    intro first
    obtain ⟨rest, surveyed, points⟩ := Survey.traverse_prunes reject
      (fun _ _ componentFound => surveyComponent_prunes reject settles componentFound) _ kept
      keptFound first
    constructor
    · intro gone
      cases gone
    · intro left remaining
      cases remaining
      have remains := surveyComponents_remain keptFound (fun _ => reject) first
      have parsed := (RecordComponent.parseList_eq_ok_iff _ _).mpr ⟨remains.listFits fits, rfl⟩
      rw [surveyRecord, parsed, ok_bind, surveyed]
      exact ⟨_, rfl, points⟩
  · rw [surveyClassBody_of_not_record view] at found ⊢
    exact surveyBody_prunes reject settles found

theorem surveyMember_prunes {place : String → String → Site} {member : Member}
    {part : Purgeable Member} (found : context.surveyMember flags place member = .ok part) :
    part.Prunes reject (context.surveyMember later place) :=
  surveyNamed_prunes reject settles (fun _ => ⟨_, rfl⟩) found

theorem surveyFile_prunes {file : ClassFile} {part : Purgeable ClassFile}
    (found : context.surveyFile flags file = .ok part) :
    part.Prunes reject (context.surveyFile later) := by
  obtain ⟨attributes, fields, methods, attributesFound, fieldsFound, methodsFound, rfl⟩ :=
    surveyFile_eq_ok found
  intro first
  obtain ⟨own, ownSurveyed, ownPoints⟩ := surveyList_prunes reject
    (fun _ _ _ bodyFound => surveyClassBody_prunes reject settles bodyFound) attributesFound first
  obtain ⟨fieldsAgain, fieldsSurveyed, fieldPoints⟩ := Survey.traverse_prunes reject
    (fun _ _ memberFound => surveyMember_prunes reject settles memberFound) _ fields fieldsFound
    (first + attributes.points.length)
  obtain ⟨methodsAgain, methodsSurveyed, methodPoints⟩ := Survey.traverse_prunes reject
    (fun _ _ memberFound => surveyMember_prunes reject settles memberFound) _ methods methodsFound
    (first + attributes.points.length + fields.points.length)
  refine ⟨_, Survey.map₂_eq_ok_iff.mpr ⟨own, fieldsAgain.map₂ Prod.mk methodsAgain, ownSurveyed,
    Survey.map₂_eq_ok_iff.mpr ⟨fieldsAgain, methodsAgain, fieldsSurveyed, methodsSurveyed, rfl⟩,
    rfl⟩, ?_⟩
  show own.points ++ (fieldsAgain.points ++ methodsAgain.points)
    = spared reject (attributes.points ++ (fields.points ++ methods.points))
  rw [ownPoints, fieldPoints, methodPoints]
  simp only [spared, List.filter_append]

end ClassContext

/-- A class file that is left is surveyed with the name and the pool that it had. -/
theorem ClassFile.survey_prunes_under (reject : AttachmentPoint → Bool) {flags later : StripFlags}
    (settles : flags.Settles later) {file : ClassFile} {part : Purgeable ClassFile}
    (found : file.survey flags = .ok part) : part.Prunes reject (ClassFile.survey later) := by
  intro first
  have remains := survey_remains found (fun _ => reject) first
  obtain ⟨context, read, fileFound⟩ := outcome_bind_ok_iff.mp found
  obtain ⟨rest, surveyed, points⟩ := ClassContext.surveyFile_prunes reject settles fileFound first
  refine ⟨rest, ?_, points⟩
  rw [survey, remains.context, read, ok_bind, surveyed]

/-- Without flags any class file that is left can be surveyed. -/
theorem ClassFile.survey_prunes (reject : AttachmentPoint → Bool) {flags : StripFlags}
    {file : ClassFile} {part : Purgeable ClassFile} (found : file.survey flags = .ok part) :
    part.Prunes reject (ClassFile.survey {}) :=
  survey_prunes_under reject flags.settles_none found

theorem Offer.map_point_judged (decision : Decision) (first : Nat) (points : List AttachmentPoint) :
    (judged decision first points).map (·.point) = points := by
  rw [judged, List.map_map]
  exact List.zipIdx_map_fst first points

/-- The rejected points, where the verdict depends on the point alone. -/
theorem Offer.filter_rejected_judged (reject : AttachmentPoint → Bool) (first : Nat)
    (points : List AttachmentPoint) :
    ((judged (fun _ => reject) first points).filter (·.rejected)).map (·.point)
      = points.filter reject := by
  induction points generalizing first with
  | nil => rfl
  | cons point rest ih =>
    have others := ih (first + 1)
    simp only [judged, List.zipIdx_cons, List.map_cons, List.filter_cons] at others ⊢
    cases reject point
    · exact others
    · exact congrArg (point :: ·) others

namespace PurgedClass

/-- Whether written again or not, what a purge leaves are the bytes of the reference edit. -/
theorem getD_bytes_eq_layout {data : Bytes} {file left : ClassFile}
    (parsed : ClassFile.parse data = .ok file) :
    (if left = file then none else some left.layout).getD data = left.layout := by
  obtain ⟨-, -, rfl⟩ := (ClassFile.parse_eq_ok_iff data file).mp parsed
  by_cases unchanged : left = file
  · rw [if_pos unchanged, unchanged]
    rfl
  · rw [if_neg unchanged]
    rfl

/-- A purge drops exactly the points of the class that its decision rejects, which are the same under any
flags, and offering what it leaves again offers exactly the others. -/
theorem purge_splits_points (data : Bytes) (flags : StripFlags) (reject : AttachmentPoint → Bool)
    (purged : PurgedClass) (succeeds : ofBytes data flags (fun _ => reject) = .ok purged) :
    ∃ points : List AttachmentPoint,
      (∀ otherFlags otherDecide other, ofBytes data otherFlags otherDecide = .ok other →
        other.offers.map (·.point) = points) ∧
      purged.removed = (points.filter reject).map (·.removal) ∧
      ∀ decision, ∃ again, ofBytes (purged.bytes.getD data) {} decision = .ok again ∧
        again.offers.map (·.point) = points.filter fun point => !reject point := by
  obtain ⟨file, name, part, parsed, named, found, rfl⟩ := ofBytes_eq_ok succeeds
  refine ⟨part.points, ?_, ?_, ?_⟩
  · intro otherFlags otherDecide other otherSucceeds
    obtain ⟨otherFile, otherName, otherPart, otherParsed, -, otherFound, rfl⟩ :=
      ofBytes_eq_ok otherSucceeds
    rw [parsed] at otherParsed
    cases otherParsed
    have points := ClassFile.survey_points found
    rw [ClassFile.survey_points otherFound] at points
    rw [Offer.map_point_judged]
    exact Except.ok.inj points
  · show ((Offer.judged (fun _ => reject) 0 part.points).filter (·.rejected)).map (·.point.removal) = _
    rw [← Offer.filter_rejected_judged reject 0, List.map_map]
    rfl
  · intro decision
    have remains := ClassFile.survey_remains found (fun _ => reject) 0
    have reparsed := parse_layout_of_remains parsed remains
    obtain ⟨rest, surveyed, points⟩ := ClassFile.survey_prunes reject found 0
    rw [getD_bytes_eq_layout parsed, ofBytes_eq, reparsed, ok_bind, remains.name, named, ok_bind,
      surveyed]
    refine ⟨_, rfl, ?_⟩
    rw [Offer.map_point_judged]
    exact points

/-- Of the four annotations of the class the two `P` go, whatever else the flags drop, and the two `Q`
stay, one of them on the second parameter still. -/
theorem purge_splits_points_annotatedFile :
    ∃ purged, ofBytes annotatedFile.layout { skipDebug := true }
        (fun _ point => point.annotationName == "P") = .ok purged ∧
      ∃ points : List AttachmentPoint,
        (∀ otherFlags otherDecide other,
          ofBytes annotatedFile.layout otherFlags otherDecide = .ok other →
            other.offers.map (·.point) = points) ∧
        purged.removed
          = (points.filter fun point => point.annotationName == "P").map (·.removal) ∧
        ∀ decision, ∃ again,
          ofBytes (purged.bytes.getD annotatedFile.layout) {} decision = .ok again ∧
            again.offers.map (·.point)
              = points.filter fun point => !(point.annotationName == "P") := by
  let purged : PurgedClass :=
    { className := "A", bytes := some halvedFile.layout
      offers := Offer.judged (fun _ point => point.annotationName == "P") 0 annotatedPoints }
  have succeeds : ofBytes annotatedFile.layout { skipDebug := true }
      (fun _ point => point.annotationName == "P") = .ok purged := by decide +kernel
  exact ⟨purged, succeeds, purge_splits_points _ _ _ purged succeeds⟩

end PurgedClass

end Unannotate
