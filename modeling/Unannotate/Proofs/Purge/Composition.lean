import Unannotate.Proofs.Purge.Remaining

/-!
# Two purges in a row are one purge

When decisions look at the point alone, a purge of what another purge has left ends where a single one
ends that takes the flags of both and rejects what either rejects. For each part of a class this is a
statement about three surveys: of the part under the first flags, of what is left of it under the
second, and of the part under both. From it follow that a second purge with the same rules has nothing
left to do, and that the order of two purges does not matter.
-/
set_option autoImplicit false

namespace Unannotate

open Reader

/-! ## Rules of both -/

/-- Rejected by one of two decisions. -/
def either (reject reject' : AttachmentPoint → Bool) (point : AttachmentPoint) : Bool :=
  reject point || reject' point

theorem either_comm (reject reject' : AttachmentPoint → Bool) :
    either reject reject' = either reject' reject := by
  funext point
  exact Bool.or_comm ..

theorem either_self (reject : AttachmentPoint → Bool) : either reject reject = reject := by
  funext point
  exact Bool.or_self ..

namespace StripFlags

/-- All flags that are set on either side. -/
def union (flags flags' : StripFlags) : StripFlags where
  skipDebug := flags.skipDebug || flags'.skipDebug
  skipCode := flags.skipCode || flags'.skipCode
  skipFrames := flags.skipFrames || flags'.skipFrames
  expandFrames := flags.expandFrames || flags'.expandFrames

theorem contains_union (flags flags' : StripFlags) (flag : StripFlag) :
    (flags.union flags').contains flag = (flags.contains flag || flags'.contains flag) := by
  cases flag <;> rfl

theorem union_comm (flags flags' : StripFlags) : flags.union flags' = flags'.union flags := by
  simp only [union, Bool.or_comm]

theorem union_self (flags : StripFlags) : flags.union flags = flags := by
  simp only [union, Bool.or_self]

theorem skipCode_union (flags flags' : StripFlags) :
    (flags.union flags').skipCode = (flags.skipCode || flags'.skipCode) := rfl

theorem opens_union (flags flags' : StripFlags) :
    ((flags.union flags').skipDebug || (flags.union flags').skipFrames)
      = ((flags.skipDebug || flags.skipFrames) || (flags'.skipDebug || flags'.skipFrames)) := by
  simp only [union, Bool.or_assoc, Bool.or_left_comm]

theorem stripsFromCode_union (flags flags' : StripFlags) (name : String) :
    (flags.union flags').stripsFromCode name
      = (flags.stripsFromCode name || flags'.stripsFromCode name) := by
  simp only [stripsFromCode, union, Bool.and_or_distrib_right, Bool.or_assoc, Bool.or_left_comm,
    Bool.or_comm]

/-- Flags that open no code body strip nothing from it. -/
theorem stripsFromCode_of_not_opens {flags : StripFlags}
    (closed : ¬ (flags.skipDebug || flags.skipFrames) = true) (name : String) :
    flags.stripsFromCode name = false := by
  rw [Bool.or_eq_true, not_or, Bool.not_eq_true, Bool.not_eq_true] at closed
  simp [stripsFromCode, closed]

end StripFlags

/-! ## What a second pass finishes -/

/-- Where a second pass over what is left succeeds, a single one leaves the same. -/
def Purgeable.FinishedBy {α γ : Type} (reject reject' : AttachmentPoint → Bool)
    (again : α → Except Malformation (Purgeable γ)) (whole : Except Malformation (Purgeable γ))
    (part : Purgeable α) : Prop :=
  ∀ first rest, again (part.left (fun _ => reject) first) = .ok rest →
    ∃ single, whole = .ok single ∧ ∀ ordinal ordinal',
      single.left (fun _ => either reject reject') ordinal = rest.left (fun _ => reject') ordinal'

/-- A part of which the same is left whatever is decided. -/
def Purgeable.Steady {α : Type} (part : Purgeable α) : Prop :=
  ∀ decision first decision' first', part.left decision first = part.left decision' first'

namespace Survey

variable {α β γ : Type} (reject reject' : AttachmentPoint → Bool)

/-- A second pass over what may be gone, which then stays gone. -/
def orGone (again : α → Except Malformation (Purgeable (Option γ))) :
    Option α → Except Malformation (Purgeable (Option γ))
  | none => fixed none
  | some left => again left

/-- The first item and the others, surveyed again one after the other. -/
theorem cons_finished {again : α → Except Malformation (Purgeable γ)}
    {whole : Except Malformation (Purgeable γ)}
    {againEach againList : List α → Except Malformation (Purgeable (List γ))}
    {wholeList : Except Malformation (Purgeable (List γ))}
    (alike : ∀ value rest, againList (value :: rest)
      = map₂ List.cons (again value) (againEach rest))
    {head : Purgeable α} {tail : Purgeable (List α)}
    (headFinished : head.FinishedBy reject reject' again whole)
    (tailFinished : tail.FinishedBy reject reject' againEach wholeList) :
    (head.map₂ List.cons tail).FinishedBy reject reject' againList
      (map₂ List.cons whole wholeList) := by
  intro first rest surveyed
  have surveyed := (alike _ _).symm.trans surveyed
  obtain ⟨headRest, tailRest, headSurveyed, tailSurveyed, rfl⟩ := map₂_eq_ok_iff.mp surveyed
  obtain ⟨single, wholeFound, same⟩ := headFinished first headRest headSurveyed
  obtain ⟨others, othersFound, othersSame⟩ := tailFinished _ tailRest tailSurveyed
  refine ⟨_, map₂_eq_ok_iff.mpr ⟨single, others, wholeFound, othersFound, rfl⟩, ?_⟩
  intro ordinal ordinal'
  exact congrArg₂ List.cons (same ordinal ordinal') (othersSame _ _)

theorem traverse_finished {find : α → Except Malformation (Purgeable β)}
    {again : β → Except Malformation (Purgeable γ)} {whole : α → Except Malformation (Purgeable γ)}
    (each : ∀ item part, find item = .ok part → part.FinishedBy reject reject' again (whole item))
    (list : List α) (part : Purgeable (List β)) (found : traverse find list = .ok part) :
    part.FinishedBy reject reject' (traverse again) (traverse whole list) := by
  induction list generalizing part with
  | nil =>
    cases found
    intro first rest surveyed
    cases surveyed
    exact ⟨_, rfl, fun _ _ => rfl⟩
  | cons item items ih =>
    obtain ⟨head, tail, headFound, tailFound, rfl⟩ := map₂_eq_ok_iff.mp found
    exact cons_finished reject reject' (fun _ _ => rfl) (each item head headFound)
      (ih tail tailFound)

theorem filterMap_finished {find : α → Except Malformation (Purgeable (Option β))}
    {again : β → Except Malformation (Purgeable (Option γ))}
    {whole : α → Except Malformation (Purgeable (Option γ))}
    (each : ∀ item part, find item = .ok part →
      part.FinishedBy reject reject' (orGone again) (whole item))
    (list : List α) (part : Purgeable (List β)) (found : filterMap find list = .ok part) :
    part.FinishedBy reject reject' (filterMap again) (filterMap whole list) := by
  induction list generalizing part with
  | nil =>
    cases found
    intro first rest surveyed
    cases surveyed
    exact ⟨_, rfl, fun _ _ => rfl⟩
  | cons item items ih =>
    obtain ⟨head, tail, headFound, tailFound, rfl⟩ := map₂_eq_ok_iff.mp found
    intro first rest surveyed
    have each := each item head headFound first
    have surveyed : filterMap again ((head.left (fun _ => reject) first).toList
        ++ tail.left (fun _ => reject) (first + head.points.length)) = .ok rest := surveyed
    cases fate : head.left (fun _ => reject) first with
    | none =>
      rw [fate] at each surveyed
      obtain ⟨single, wholeFound, same⟩ := each _ rfl
      obtain ⟨others, othersFound, othersSame⟩ := ih tail tailFound _ rest surveyed
      refine ⟨_, map₂_eq_ok_iff.mpr ⟨single, others, wholeFound, othersFound, rfl⟩, ?_⟩
      intro ordinal ordinal'
      show (single.left _ ordinal).toList ++ others.left _ _ = rest.left _ ordinal'
      rw [same ordinal ordinal', othersSame _ ordinal']
      rfl
    | some value =>
      rw [fate] at each surveyed
      obtain ⟨headRest, tailRest, headSurveyed, tailSurveyed, rfl⟩ := map₂_eq_ok_iff.mp surveyed
      obtain ⟨single, wholeFound, same⟩ := each headRest headSurveyed
      obtain ⟨others, othersFound, othersSame⟩ := ih tail tailFound _ tailRest tailSurveyed
      refine ⟨_, map₂_eq_ok_iff.mpr ⟨single, others, wholeFound, othersFound, rfl⟩, ?_⟩
      intro ordinal ordinal'
      show (single.left _ ordinal).toList ++ others.left _ _
        = (headRest.left _ ordinal').toList ++ tailRest.left _ _
      rw [same ordinal ordinal', othersSame]

end Survey

namespace ClassContext

variable {context : ClassContext} {flags flags' : StripFlags} {site : Site} {kind : ElementKind}
  {parameter : Option UInt8} {visible : Bool} {info : Bytes}
  (reject reject' : AttachmentPoint → Bool)

/-! ## Annotations -/

theorem surveyTrees_finished {trees : List AnnotationTree} {part : Purgeable (List AnnotationTree)}
    (found : context.surveyTrees site kind parameter visible trees = .ok part) :
    part.FinishedBy reject reject' (context.surveyTrees site kind parameter visible)
      (context.surveyTrees site kind parameter visible trees) := by
  refine Survey.filterMap_finished reject reject' ?_ trees part found
  intro tree part treeFound first rest surveyed
  obtain ⟨point, pointFound, rfl⟩ := surveyTree_eq_ok treeFound
  refine ⟨_, treeFound, ?_⟩
  intro ordinal ordinal'
  have surveyed : Survey.orGone (context.surveyTree site kind parameter visible)
      (if reject point then none else some tree) = .ok rest := surveyed
  show (if either reject reject' point then none else some tree) = rest.left _ ordinal'
  cases rejected : reject point with
  | true =>
    rw [rejected] at surveyed
    cases surveyed
    simp [either, rejected, Purgeable.fixed]
  | false =>
    rw [rejected] at surveyed
    have same : Except.ok rest = .ok _ := surveyed.symm.trans treeFound
    cases same
    simp only [either, rejected, Bool.false_or]
    rfl

theorem surveyParameterLists_finished {first : Nat} {lists : List (List AnnotationTree)}
    {part : Purgeable (List (List AnnotationTree))}
    (found : context.surveyParameterLists site visible first lists = .ok part) :
    part.FinishedBy reject reject' (context.surveyParameterLists site visible first)
      (context.surveyParameterLists site visible first lists) := by
  induction lists generalizing first part with
  | nil =>
    cases found
    intro ordinal rest surveyed
    cases surveyed
    exact ⟨_, rfl, fun _ _ => rfl⟩
  | cons trees lists ih =>
    obtain ⟨head, tail, headFound, tailFound, rfl⟩ := Survey.map₂_eq_ok_iff.mp found
    exact Survey.cons_finished reject reject' (fun _ _ => rfl)
      (surveyTrees_finished reject reject' headFound) (ih tailFound)

/-- Emptied in two steps or in one: only the trees at the start and at the end count. -/
theorem remainingBody_of_between {before between : Nat} (after : Nat) (written : Bytes)
    (fewer : between ≤ before) (stays : ¬ (between = 0 ∧ before ≠ 0)) :
    remainingBody before after written = remainingBody between after written := by
  have alike : (after = 0 ∧ before ≠ 0) ↔ (after = 0 ∧ between ≠ 0) := by omega
  simp only [remainingBody, alike]

/-- A body that is there for its annotations, given how they are read, counted and surveyed. -/
theorem remainingBody_finished {α : Type} (parse : Bytes → Except Malformation α) (encode : α → Bytes)
    (count : α → Nat) {find : α → Except Malformation (Purgeable α)} {items : α}
    {kept : Purgeable α} (found : find items = .ok kept)
    (shrinks : ∀ items part, find items = .ok part → ∀ decision ordinal,
      count (part.left decision ordinal) ≤ count items)
    (reads : ∀ first, parse (encode (kept.left (fun _ => reject) first))
      = .ok (kept.left (fun _ => reject) first))
    (again : ∀ first, ∃ rest, find (kept.left (fun _ => reject) first) = .ok rest)
    (finished : kept.FinishedBy reject reject' find (find items)) :
    (kept.map fun left => remainingBody (count items) (count left) (encode left)).FinishedBy
      reject reject'
      (Survey.orGone fun info => do
        let items ← parse info
        Survey.map (fun left => remainingBody (count items) (count left) (encode left)) (find items))
      (Survey.map (fun left => remainingBody (count items) (count left) (encode left))
        (find items)) := by
  intro first rest surveyed
  obtain ⟨others, othersFound⟩ := again first
  obtain ⟨single, wholeFound, same⟩ := finished first others othersFound
  refine ⟨_, Survey.map_eq_ok_iff.mpr ⟨single, wholeFound, rfl⟩, ?_⟩
  intro ordinal ordinal'
  have fewer := shrinks items kept found (fun _ => reject) first
  have none' := shrinks _ others othersFound (fun _ => reject') ordinal'
  have surveyed : Survey.orGone _ (remainingBody (count items)
    (count (kept.left (fun _ => reject) first)) (encode (kept.left (fun _ => reject) first)))
      = .ok rest := surveyed
  show remainingBody (count items) (count (single.left _ ordinal)) (encode (single.left _ ordinal)) = _
  rw [same ordinal ordinal']
  by_cases gone : count (kept.left (fun _ => reject) first) = 0 ∧ count items ≠ 0
  · rw [remainingBody, if_pos gone] at surveyed
    cases surveyed
    rw [remainingBody, if_pos ⟨by omega, gone.2⟩]
    rfl
  · rw [remainingBody, if_neg gone] at surveyed
    simp only [Survey.orGone, reads, ok_bind, othersFound] at surveyed
    cases surveyed
    exact remainingBody_of_between _ _ fewer gone

theorem surveyAnnotations_finished {part : Purgeable (Option Bytes)}
    (found : context.surveyAnnotations site kind visible info = .ok part) :
    part.FinishedBy reject reject' (Survey.orGone (context.surveyAnnotations site kind visible))
      (context.surveyAnnotations site kind visible info) := by
  obtain ⟨trees, kept, fits, written, keptFound, rfl⟩ := surveyAnnotations_eq_ok found
  have parsed := (AnnotationTree.parseList_eq_ok_iff info trees).mpr ⟨fits, written⟩
  have body := remainingBody_finished reject reject' AnnotationTree.parseList
    AnnotationTree.encodeList List.length keptFound
    (fun _ _ surveyed decision ordinal => (surveyTrees_sublist surveyed decision ordinal).length_le)
    ?_ ?_ (surveyTrees_finished reject reject' keptFound)
  · simp only [surveyAnnotations, parsed, ok_bind]
    exact body
  · intro first
    have sublist := surveyTrees_sublist keptFound (fun _ => reject) first
    exact (AnnotationTree.parseList_eq_ok_iff _ _).mpr ⟨CountedFits.ofSublist fits sublist, rfl⟩
  · intro first
    obtain ⟨rest, surveyed, -⟩ := surveyTrees_prunes reject keptFound first
    exact ⟨rest, surveyed⟩

theorem surveyParameters_finished {part : Purgeable (Option Bytes)}
    (found : context.surveyParameters site visible info = .ok part) :
    part.FinishedBy reject reject' (Survey.orGone (context.surveyParameters site visible))
      (context.surveyParameters site visible info) := by
  obtain ⟨lists, kept, fits, written, keptFound, rfl⟩ := surveyParameters_eq_ok found
  have parsed := (AnnotationTree.parseParameters_eq_ok_iff info lists).mpr ⟨fits, written⟩
  have body := remainingBody_finished reject reject' AnnotationTree.parseParameters
    AnnotationTree.encodeParameters (fun lists => lists.flatten.length) keptFound
    (fun _ _ surveyed decision ordinal =>
      (PassRules.flatten_sublist (surveyParameterLists_sublist surveyed decision ordinal)).length_le)
    ?_ ?_ (surveyParameterLists_finished reject reject' keptFound)
  · simp only [surveyParameters, parsed, ok_bind]
    exact body
  · intro first
    have sublists := surveyParameterLists_sublist keptFound (fun _ => reject) first
    exact (AnnotationTree.parseParameters_eq_ok_iff _ _).mpr ⟨fits.ofForall₂ sublists, rfl⟩
  · intro first
    obtain ⟨rest, surveyed, -⟩ := surveyParameterLists_prunes reject keptFound first
    exact ⟨rest, surveyed⟩

/-! ## Attributes -/

theorem surveyList_finished
    {ofBody again whole : String → Bytes → Except Malformation (Purgeable (Option Bytes))}
    (each : ∀ name info part, ofBody name info = .ok part →
      part.FinishedBy reject reject' (Survey.orGone (again name)) (whole name info))
    {attributes : List Attribute} {part : Purgeable (List Attribute)}
    (found : context.surveyList ofBody attributes = .ok part) :
    part.FinishedBy reject reject' (context.surveyList again)
      (context.surveyList whole attributes) := by
  refine Survey.filterMap_finished reject reject' ?_ attributes part found
  intro item part itemFound first rest surveyed
  obtain ⟨name, body, named, bodyFound, rfl⟩ := surveyAttribute_eq_ok itemFound
  -- The attribute that is left has the name of the one that was there.
  have bodySurveyed : ∃ bodyRest,
      Survey.orGone (again name) (body.left (fun _ => reject) first) = .ok bodyRest ∧
      rest = bodyRest.map (Option.map fun info => { item with info }) := by
    have surveyed : Survey.orGone (context.surveyAttribute again)
      ((body.left (fun _ => reject) first).map fun info => { item with info }) = .ok rest := surveyed
    cases fate : body.left (fun _ => reject) first with
    | none =>
      rw [fate] at surveyed
      cases surveyed
      exact ⟨_, rfl, rfl⟩
    | some info =>
      rw [fate] at surveyed
      simp only [Option.map_some, Survey.orGone, surveyAttribute, named, ok_bind] at surveyed
      exact Survey.map_eq_ok_iff.mp surveyed
  obtain ⟨bodyRest, againFound, rfl⟩ := bodySurveyed
  obtain ⟨single, wholeFound, same⟩ := each name item.info body bodyFound first bodyRest againFound
  refine ⟨_, by rw [surveyAttribute, named, ok_bind, wholeFound]; rfl, ?_⟩
  intro ordinal ordinal'
  exact congrArg (Option.map fun info => { item with info }) (same ordinal ordinal')

theorem surveyNested_finished {attributes : List Attribute} {part : Purgeable (List Attribute)}
    (found : context.surveyNested flags attributes = .ok part) :
    part.FinishedBy reject reject' (context.surveyNested flags')
      (context.surveyNested (flags.union flags') attributes) := by
  refine surveyList_finished reject reject' ?_ found
  intro name info part bodyFound first rest surveyed
  cases bodyFound
  refine ⟨_, rfl, ?_⟩
  intro ordinal ordinal'
  rw [StripFlags.stripsFromCode_union]
  have surveyed : Survey.orGone _ (if flags.stripsFromCode name then none else some info)
    = .ok rest := surveyed
  cases strips : flags.stripsFromCode name with
  | true =>
    rw [strips] at surveyed
    cases surveyed
    rfl
  | false =>
    rw [strips] at surveyed
    cases surveyed
    rfl

theorem surveyCode_finished {part : Purgeable (Option Bytes)}
    (found : context.surveyCode flags info = .ok part) :
    part.FinishedBy reject reject' (Survey.orGone (context.surveyCode flags'))
      (context.surveyCode (flags.union flags') info) := by
  obtain ⟨code, kept, fits, written, keptFound, rfl⟩ := surveyCode_eq_ok found
  intro first rest surveyed
  have sublist := surveyNested_sublist keptFound (fun _ => reject) first
  have parsed := (Code.parse_eq_ok_iff info code).mpr ⟨fits, written⟩
  have reparsed := (Code.parse_eq_ok_iff _ _).mpr ⟨fits.ofSublist sublist, rfl⟩
  have surveyed : context.surveyCode flags'
    ({ code with attributes := kept.left (fun _ => reject) first } : Code).layout = .ok rest := surveyed
  rw [surveyCode, reparsed, ok_bind] at surveyed
  obtain ⟨nested, nestedFound, rfl⟩ := Survey.map_eq_ok_iff.mp surveyed
  obtain ⟨single, wholeFound, same⟩ :=
    surveyNested_finished reject reject' keptFound first nested nestedFound
  refine ⟨_, by rw [surveyCode, parsed, ok_bind, wholeFound]; rfl, ?_⟩
  intro ordinal ordinal'
  show some _ = some _
  rw [same ordinal ordinal']

/-- Nothing is decided about a code body, so what is left of it does not depend on the decision. -/
theorem surveyNested_steady {attributes : List Attribute} {part : Purgeable (List Attribute)}
    (found : context.surveyNested flags attributes = .ok part) : part.Steady := by
  induction attributes generalizing part with
  | nil =>
    cases found
    exact fun _ _ _ _ => rfl
  | cons nested rest ih =>
    obtain ⟨head, tail, headFound, tailFound, rfl⟩ := Survey.map₂_eq_ok_iff.mp found
    obtain ⟨name, body, -, bodyFound, rfl⟩ := surveyAttribute_eq_ok headFound
    cases bodyFound
    intro decision first decision' first'
    exact congrArg (_ ++ ·) (ih tailFound decision _ decision' _)

theorem surveyCode_steady {part : Purgeable (Option Bytes)}
    (found : context.surveyCode flags info = .ok part) : part.Steady := by
  obtain ⟨code, kept, -, -, keptFound, rfl⟩ := surveyCode_eq_ok found
  intro decision first decision' first'
  have same := surveyNested_steady keptFound decision first decision' first'
  simp only [Purgeable.map, same]

theorem surveyCode_congr (alike : ∀ name, flags.stripsFromCode name = flags'.stripsFromCode name) :
    context.surveyCode flags = context.surveyCode flags' := by
  funext info
  simp only [surveyCode, surveyNested, alike]

/-- A code body that the first pass has opened. -/
theorem surveyBody_opened_finished {name : String} (view : AttributeView.of site name = .code)
    (keeps : flags.skipCode = false) (opens : (flags.skipDebug || flags.skipFrames) = true)
    {part : Purgeable (Option Bytes)} (found : context.surveyCode flags info = .ok part) :
    part.FinishedBy reject reject' (Survey.orGone (context.surveyBody flags' site name))
      (context.surveyBody (flags.union flags') site name info) := by
  intro first rest surveyed
  obtain ⟨left, leaves⟩ : ∃ left, part.left (fun _ => reject) first = some left := by
    obtain ⟨code, kept, -, -, -, rfl⟩ := surveyCode_eq_ok found
    exact ⟨_, rfl⟩
  have second := surveyed
  rw [leaves, Survey.orGone, surveyBody_of_code view] at second
  rw [surveyBody_of_code view, StripFlags.skipCode_union, StripFlags.opens_union, keeps, opens,
    Bool.false_or, Bool.true_or, if_pos rfl]
  cases drops' : flags'.skipCode with
  | true =>
    rw [drops'] at second
    cases second
    exact ⟨_, rfl, fun _ _ => rfl⟩
  | false =>
    rw [drops', if_neg Bool.false_ne_true] at second
    rw [if_neg Bool.false_ne_true]
    by_cases opens' : (flags'.skipDebug || flags'.skipFrames) = true
    · rw [if_pos opens'] at second
      refine surveyCode_finished reject reject' found first rest ?_
      rw [leaves]
      exact second
    · rw [if_neg opens'] at second
      cases second
      have alike (name : String) :
          (flags.union flags').stripsFromCode name = flags.stripsFromCode name := by
        rw [StripFlags.stripsFromCode_union, StripFlags.stripsFromCode_of_not_opens opens',
          Bool.or_false]
      refine ⟨part, by rw [surveyCode_congr alike, found], ?_⟩
      intro ordinal ordinal'
      rw [surveyCode_steady found _ _ (fun _ => reject) first, leaves]
      rfl

/-- A code body that the first pass has left alone. -/
theorem surveyBody_closed_finished {name : String} (view : AttributeView.of site name = .code)
    (keeps : flags.skipCode = false) (closed : (flags.skipDebug || flags.skipFrames) = false) :
    (Purgeable.fixed (some info)).FinishedBy reject reject'
      (Survey.orGone (context.surveyBody flags' site name))
      (context.surveyBody (flags.union flags') site name info) := by
  intro first rest surveyed
  have alike (name : String) :
      (flags.union flags').stripsFromCode name = flags'.stripsFromCode name := by
    rw [StripFlags.stripsFromCode_union, StripFlags.stripsFromCode_of_not_opens (by simp [closed]),
      Bool.false_or]
  have whole : context.surveyBody (flags.union flags') site name info
      = context.surveyBody flags' site name info := by
    rw [surveyBody_of_code view, surveyBody_of_code view, StripFlags.skipCode_union,
      StripFlags.opens_union, keeps, closed, Bool.false_or, Bool.false_or, surveyCode_congr alike]
  have second : context.surveyBody flags' site name info = .ok rest := surveyed
  refine ⟨rest, by rw [whole, second], ?_⟩
  intro ordinal ordinal'
  rw [surveyBody_of_code view] at second
  split at second
  · cases second
    rfl
  · split at second
    · exact surveyCode_steady second _ _ _ _
    · cases second
      rfl

/-- Both passes leave a body that is not looked into as it is, or one of them drops it. -/
theorem fixed_finished (dropped dropped' : Bool)
    {again : Bytes → Except Malformation (Purgeable (Option Bytes))}
    (alike : again info = Survey.fixed (if dropped' then none else some info)) :
    (Purgeable.fixed (if dropped then none else some info)).FinishedBy reject reject'
      (Survey.orGone again)
      (Survey.fixed (if dropped || dropped' then none else some info)) := by
  intro first rest surveyed
  have surveyed : Survey.orGone again (if dropped then none else some info) = .ok rest := surveyed
  cases dropped with
  | true =>
    cases surveyed
    exact ⟨_, rfl, fun _ _ => rfl⟩
  | false =>
    have same : Except.ok rest = .ok _ := surveyed.symm.trans alike
    cases same
    exact ⟨_, rfl, fun _ _ => rfl⟩

theorem surveyBody_finished {name : String} {part : Purgeable (Option Bytes)}
    (found : context.surveyBody flags site name info = .ok part) :
    part.FinishedBy reject reject' (Survey.orGone (context.surveyBody flags' site name))
      (context.surveyBody (flags.union flags') site name info) := by
  cases view : AttributeView.of site name with
  | annotations kind visible =>
    rw [surveyBody_of_annotations view] at found
    rw [surveyBody_of_annotations view, surveyBody_of_annotations view]
    exact surveyAnnotations_finished reject reject' found
  | parameters visible =>
    rw [surveyBody_of_parameters view] at found
    rw [surveyBody_of_parameters view, surveyBody_of_parameters view]
    exact surveyParameters_finished reject reject' found
  | code =>
    rw [surveyBody_of_code view] at found
    cases drops : flags.skipCode with
    | true =>
      rw [drops, if_pos rfl] at found
      cases found
      intro first rest surveyed
      cases surveyed
      rw [surveyBody_of_code view, StripFlags.skipCode_union, drops]
      exact ⟨_, rfl, fun _ _ => rfl⟩
    | false =>
      rw [drops, if_neg Bool.false_ne_true] at found
      cases opens : (flags.skipDebug || flags.skipFrames) with
      | true =>
        rw [opens, if_pos rfl] at found
        exact surveyBody_opened_finished reject reject' view drops opens found
      | false =>
        rw [opens, if_neg Bool.false_ne_true] at found
        cases found
        exact surveyBody_closed_finished reject reject' view drops opens
  | debugInfo =>
    rw [surveyBody_of_debugInfo view] at found ⊢
    cases found
    exact fixed_finished reject reject' _ _ (surveyBody_of_debugInfo view info)
  | record =>
    rw [surveyBody_of_other (.inl view)] at found ⊢
    cases found
    exact fixed_finished reject reject' false false (surveyBody_of_other (.inl view) info)
  | other =>
    rw [surveyBody_of_other (.inr view)] at found ⊢
    cases found
    exact fixed_finished reject reject' false false (surveyBody_of_other (.inr view) info)

/-! ## Classes and what has attribute lists in them -/

theorem surveyNamed_finished {α : Type} {place : String → String → Site}
    {nameIndex descriptorIndex : UInt16} {attributes : List Attribute} {around : List Attribute → α}
    {again : α → Except Malformation (Purgeable α)} {part : Purgeable α}
    (alike : ∀ left, again (around left)
      = context.surveyNamed flags' place nameIndex descriptorIndex left around)
    (found : context.surveyNamed flags place nameIndex descriptorIndex attributes around = .ok part) :
    part.FinishedBy reject reject' again
      (context.surveyNamed (flags.union flags') place nameIndex descriptorIndex attributes around) := by
  obtain ⟨name, descriptor, kept, named, described, keptFound, rfl⟩ := surveyNamed_eq_ok found
  intro first rest surveyed
  have surveyed : again (around (kept.left (fun _ => reject) first)) = .ok rest := surveyed
  rw [alike, surveyNamed, named, ok_bind, described, ok_bind] at surveyed
  obtain ⟨others, othersFound, rfl⟩ := Survey.map_eq_ok_iff.mp surveyed
  obtain ⟨single, wholeFound, same⟩ := surveyList_finished reject reject'
    (fun _ _ _ bodyFound => surveyBody_finished reject reject' bodyFound) keptFound first others
    othersFound
  refine ⟨single.map around, ?_, ?_⟩
  · rw [surveyNamed, named, ok_bind, described, ok_bind, wholeFound]
    rfl
  · intro ordinal ordinal'
    exact congrArg around (same ordinal ordinal')

theorem surveyComponent_finished {component : RecordComponent} {part : Purgeable RecordComponent}
    (found : context.surveyComponent flags component = .ok part) :
    part.FinishedBy reject reject' (context.surveyComponent flags')
      (context.surveyComponent (flags.union flags') component) :=
  surveyNamed_finished reject reject' (fun _ => rfl) found

theorem surveyMember_finished {place : String → String → Site} {member : Member}
    {part : Purgeable Member} (found : context.surveyMember flags place member = .ok part) :
    part.FinishedBy reject reject' (context.surveyMember flags' place)
      (context.surveyMember (flags.union flags') place member) :=
  surveyNamed_finished reject reject' (fun _ => rfl) found

theorem surveyRecord_finished {part : Purgeable (Option Bytes)}
    (found : context.surveyRecord flags info = .ok part) :
    part.FinishedBy reject reject' (Survey.orGone (context.surveyRecord flags'))
      (context.surveyRecord (flags.union flags') info) := by
  obtain ⟨components, kept, fits, written, keptFound, rfl⟩ := surveyRecord_eq_ok found
  intro first rest surveyed
  have remains := surveyComponents_remain keptFound (fun _ => reject) first
  have parsed := (RecordComponent.parseList_eq_ok_iff info components).mpr ⟨fits, written⟩
  have reparsed := (RecordComponent.parseList_eq_ok_iff _ _).mpr ⟨remains.listFits fits, rfl⟩
  have surveyed : context.surveyRecord flags'
    (RecordComponent.listLayout (kept.left (fun _ => reject) first)) = .ok rest := surveyed
  rw [surveyRecord, reparsed, ok_bind] at surveyed
  obtain ⟨others, othersFound, rfl⟩ := Survey.map_eq_ok_iff.mp surveyed
  obtain ⟨single, wholeFound, same⟩ := Survey.traverse_finished reject reject'
    (fun _ _ componentFound => surveyComponent_finished reject reject' componentFound) components
    kept keptFound first others othersFound
  refine ⟨_, by rw [surveyRecord, parsed, ok_bind, wholeFound]; rfl, ?_⟩
  intro ordinal ordinal'
  show some _ = some _
  rw [same ordinal ordinal']

theorem surveyClassBody_finished {name : String} {part : Purgeable (Option Bytes)}
    (found : context.surveyClassBody flags name info = .ok part) :
    part.FinishedBy reject reject' (Survey.orGone (context.surveyClassBody flags' name))
      (context.surveyClassBody (flags.union flags') name info) := by
  by_cases view : AttributeView.of .classBody name = .record
  · rw [surveyClassBody_of_record view] at found
    rw [surveyClassBody_of_record view, surveyClassBody_of_record view]
    exact surveyRecord_finished reject reject' found
  · rw [surveyClassBody_of_not_record view] at found
    rw [surveyClassBody_of_not_record view, surveyClassBody_of_not_record view]
    exact surveyBody_finished reject reject' found

theorem surveyFile_finished {file : ClassFile} {part : Purgeable ClassFile}
    (found : context.surveyFile flags file = .ok part) :
    part.FinishedBy reject reject' (context.surveyFile flags')
      (context.surveyFile (flags.union flags') file) := by
  obtain ⟨attributes, fields, methods, attributesFound, fieldsFound, methodsFound, rfl⟩ :=
    surveyFile_eq_ok found
  intro first rest surveyed
  obtain ⟨ownRest, fieldsRest, methodsRest, ownSurveyed, fieldsSurveyed, methodsSurveyed, rfl⟩ :=
    surveyFile_eq_ok surveyed
  obtain ⟨own, ownFound, ownSame⟩ := surveyList_finished reject reject'
    (fun _ _ _ bodyFound => surveyClassBody_finished reject reject' bodyFound) attributesFound _
    ownRest ownSurveyed
  obtain ⟨fieldsLeft, fieldsLeftFound, fieldsSame⟩ := Survey.traverse_finished reject reject'
    (fun _ _ memberFound => surveyMember_finished reject reject' memberFound) _ fields fieldsFound _
    fieldsRest fieldsSurveyed
  obtain ⟨methodsLeft, methodsLeftFound, methodsSame⟩ := Survey.traverse_finished reject reject'
    (fun _ _ memberFound => surveyMember_finished reject reject' memberFound) _ methods methodsFound _
    methodsRest methodsSurveyed
  refine ⟨_, Survey.map₂_eq_ok_iff.mpr ⟨own, fieldsLeft.map₂ Prod.mk methodsLeft, ownFound,
    Survey.map₂_eq_ok_iff.mpr ⟨fieldsLeft, methodsLeft, fieldsLeftFound, methodsLeftFound, rfl⟩,
    rfl⟩, ?_⟩
  intro ordinal ordinal'
  simp only [Purgeable.map₂]
  rw [ownSame _ ordinal', fieldsSame, methodsSame]

end ClassContext

/-- What is left of a class file is surveyed with the name and the pool of the whole. -/
theorem ClassFile.survey_finished (reject reject' : AttachmentPoint → Bool)
    {flags flags' : StripFlags} {file : ClassFile} {part : Purgeable ClassFile}
    (found : file.survey flags = .ok part) :
    part.FinishedBy reject reject' (ClassFile.survey flags')
      (file.survey (flags.union flags')) := by
  intro first rest surveyed
  have remains := survey_remains found (fun _ => reject) first
  obtain ⟨context, read, fileFound⟩ := outcome_bind_ok_iff.mp found
  rw [survey, remains.context, read, ok_bind] at surveyed
  rw [survey, read, ok_bind]
  exact ClassContext.surveyFile_finished reject reject' fileFound first rest surveyed

end Unannotate
