import Unannotate.Proofs.Purge.PassBodies

/-!
# The pass over a class file makes the reference edit

From attribute lists over record components and members up to the whole class file, a pass performs the
survey of what it is given and reports a change exactly when something else is left than was there.
`PurgedClass.ofBytes` is therefore the reference edit of the class that was read, written by its layout.
-/
set_option autoImplicit false

namespace Unannotate

open Reader

/-- What is left of something, and whether that differs from it. -/
def compared {α : Type} [DecidableEq α] (before left : α) : α × Bool :=
  (left, decide (left ≠ before))

namespace PassRules

variable (rules : PassRules)

/-! ## Attribute lists -/

/-- How the fate of one attribute and what is left of the rest make what is left of the list. -/
def joined (item : Attribute) (fate : Disposition) (rest : List Attribute × Bool) :
    List Attribute × Bool :=
  match fate with
  | .keep => (item :: rest.1, rest.2)
  | .drop => (rest.1, true)
  | .replace info => ({ item with info } :: rest.1, true)

theorem filterList_cons (disposition : AttributeRole → Bytes → Pass Disposition) (item : Attribute)
    (rest : List Attribute) :
    rules.filterList disposition (item :: rest) = (do
      let name ← rules.lookUp item.nameIndex
      let fate ← disposition (.ofName name) item.info
      let others ← rules.filterList disposition rest
      return joined item fate others) := by
  rw [filterList]
  apply bind_congr
  intro name
  apply bind_congr
  intro fate
  apply bind_congr
  intro others
  cases fate <;> rfl

theorem joined_compared (item : Attribute) (rest kept : List Attribute)
    (shorter : kept.length ≤ rest.length) (body : Option Bytes) :
    joined item (.between item.info body) (compared rest kept)
      = compared (item :: rest) ((body.map fun info => { item with info }).toList ++ kept) := by
  cases body with
  | none =>
    -- What is left of the rest is too short to be the whole list.
    have differs : kept ≠ item :: rest := by
      intro same
      rw [same, List.length_cons] at shorter
      omega
    simp [joined, compared, Disposition.between, differs]
  | some info =>
    by_cases same : info = item.info
    · simp [joined, compared, Disposition.between, same]
    · have differs : ({ item with info } : Attribute) ≠ item := by
        intro equal
        exact same (congrArg Attribute.info equal)
      simp [joined, compared, Disposition.between, same, differs]

theorem performs_filterList {disposition : AttributeRole → Bytes → Pass Disposition}
    {ofBody : String → Bytes → Except Malformation (Purgeable (Option Bytes))}
    (shrinks : ClassContext.Shrinks ofBody)
    (performs : ∀ name info, Pass.Performs rules.decide (disposition (.ofName name) info)
      (Survey.map (.between info) (ofBody name info)))
    (attributes : List Attribute) :
    Pass.Performs rules.decide (rules.filterList disposition attributes)
      (Survey.map (compared attributes) (rules.context.surveyList ofBody attributes)) := by
  induction attributes with
  | nil => exact Pass.performs_pure _
  | cons item rest ih =>
    rw [filterList_cons, ClassContext.surveyList, Survey.filterMap, Survey.collect_cons,
      ClassContext.surveyAttribute, Survey.map₂_bind, Survey.map_bind]
    apply Pass.performs_lookUp
    intro name _
    -- The body is treated before the rest of the list, and both before they are joined.
    have step := Pass.performs_map₂ (joined item) (performs name item.info) ih
    rw [Survey.map₂_map] at step
    rw [Survey.map₂_map_left, Survey.map_map₂]
    have same : Survey.map₂
          (fun body kept => joined item (.between item.info body) (compared rest kept))
          (ofBody name item.info) (rules.context.surveyList ofBody rest) =
        Survey.map₂
          (fun body kept => compared (item :: rest)
            ((body.map fun info => { item with info }).toList ++ kept))
          (ofBody name item.info) (rules.context.surveyList ofBody rest) := by
      apply Survey.map₂_congr
      intro part partFound body decision first
      have remains := ClassContext.surveyList_remains shrinks partFound decision first
      exact joined_compared item rest _ remains.length_le body
    rw [same] at step
    exact step

theorem performs_memberAttributes (site : Site) (attributes : List Attribute) :
    Pass.Performs rules.decide (rules.memberAttributes site attributes)
      (Survey.map (compared attributes)
        (rules.context.surveyList (rules.context.surveyBody rules.flags site) attributes)) :=
  rules.performs_filterList ClassContext.shrinks_surveyBody
    (rules.performs_plainDisposition site) attributes

/-! ## Record components, fields and methods -/

/-- A pass over a list that treats each item alike. -/
theorem performs_each {α : Type} [DecidableEq α] {pass : List α → Pass (List α × Bool)}
    (one : α → Pass (α × Bool)) {find : α → Except Malformation (Purgeable α)}
    {decision : Decision}
    (nil : pass [] = pure ([], false))
    (cons : ∀ item rest, pass (item :: rest) = (do
      let head ← one item
      let tail ← pass rest
      return (head.1 :: tail.1, head.2 || tail.2)))
    (each : ∀ item, Pass.Performs decision (one item) (Survey.map (compared item) (find item)))
    (list : List α) :
    Pass.Performs decision (pass list) (Survey.map (compared list) (Survey.traverse find list)) := by
  induction list with
  | nil =>
    rw [nil]
    exact Pass.performs_pure _
  | cons item rest ih =>
    rw [cons, Survey.traverse, Survey.collect_cons, Survey.map_map₂]
    have step := Pass.performs_map₂
      (fun (head : α × Bool) (tail : List α × Bool) => (head.1 :: tail.1, head.2 || tail.2))
      (each item) ih
    rw [Survey.map₂_map] at step
    have same : (fun head tail => ((compared item head).1 :: (compared rest tail).1,
          (compared item head).2 || (compared rest tail).2))
        = fun head tail => compared (item :: rest) (head :: tail) := by
      funext head tail
      simp only [compared, Prod.mk.injEq, true_and, ne_eq, List.cons.injEq]
      by_cases sameHead : head = item <;> by_cases sameTail : tail = rest <;>
        simp [sameHead, sameTail]
    rw [same] at step
    exact step

/-- The pass over what has a name, a type and a list of attributes. -/
def named {α : Type} (place : String → String → Site) (nameIndex descriptorIndex : UInt16)
    (attributes : List Attribute) (around : List Attribute → α) : Pass (α × Bool) := do
  let name ← rules.lookUp nameIndex
  let descriptor ← rules.lookUp descriptorIndex
  let left ← rules.memberAttributes (place name descriptor) attributes
  return (around left.1, left.2)

theorem performs_named {α : Type} [DecidableEq α] (place : String → String → Site)
    (nameIndex descriptorIndex : UInt16) (attributes : List Attribute) (around : List Attribute → α)
    (whole : α) (same : ∀ left, around left = whole ↔ left = attributes) :
    Pass.Performs rules.decide (rules.named place nameIndex descriptorIndex attributes around)
      (Survey.map (compared whole)
        (rules.context.surveyNamed rules.flags place nameIndex descriptorIndex attributes around)) := by
  unfold named ClassContext.surveyNamed
  simp only [Survey.map_bind]
  apply Pass.performs_lookUp
  intro name _
  apply Pass.performs_lookUp
  intro descriptor _
  have step := Pass.performs_map (fun left : List Attribute × Bool => (around left.1, left.2))
    (rules.performs_memberAttributes (place name descriptor) attributes)
  rw [Survey.map_map] at step ⊢
  have equal : (fun left => (around (compared attributes left).1, (compared attributes left).2))
      = fun left => compared whole (around left) := by
    funext left
    simp [compared, same]
  rw [equal] at step
  exact step

theorem performs_components (list : List RecordComponent) :
    Pass.Performs rules.decide (rules.components list)
      (Survey.map (compared list)
        (Survey.traverse (rules.context.surveyComponent rules.flags) list)) := by
  apply performs_each fun component => rules.named .component component.nameIndex
    component.descriptorIndex component.attributes fun attributes => { component with attributes }
  · rfl
  · intro component rest
    simp only [components, named, bind_assoc, pure_bind]
  · intro component
    apply rules.performs_named
    intro left
    constructor
    · exact congrArg RecordComponent.attributes
    · intro same
      rw [same]

theorem performs_members (place : String → String → Site) (list : List Member) :
    Pass.Performs rules.decide (rules.members place list)
      (Survey.map (compared list)
        (Survey.traverse (rules.context.surveyMember rules.flags place) list)) := by
  apply performs_each fun member => rules.named place member.nameIndex member.descriptorIndex
    member.attributes fun attributes => { member with attributes }
  · rfl
  · intro member rest
    simp only [members, named, bind_assoc, pure_bind]
  · intro member
    apply rules.performs_named
    intro left
    constructor
    · exact congrArg Member.attributes
    · intro same
      rw [same]

/-! ## The class -/

theorem listLayout_eq_iff {kept components : List RecordComponent}
    (remains : RecordComponent.ListRemains kept components)
    (fits : RecordComponent.ListFits components) :
    RecordComponent.listLayout kept = RecordComponent.listLayout components ↔ kept = components := by
  constructor
  · exact Reader.eq_of_layout_eq
      ((RecordComponent.parseList_eq_ok_iff _ _).mpr ⟨remains.listFits fits, rfl⟩)
      ((RecordComponent.parseList_eq_ok_iff _ _).mpr ⟨fits, rfl⟩)
  · intro same
    rw [same]

theorem performs_record (info : Bytes) :
    Pass.Performs rules.decide (rules.record info)
      (Survey.map (.between info) (rules.context.surveyRecord rules.flags info)) := by
  unfold record ClassContext.surveyRecord
  rw [Survey.map_bind]
  apply Pass.performs_lookUp
  intro components parsed
  obtain ⟨fits, rfl⟩ := (RecordComponent.parseList_eq_ok_iff info components).mp parsed
  have step := Pass.performs_then
    (fun left : List RecordComponent × Bool =>
      if left.2 then do
        let encoded ← liftM (RecordComponent.encodeList left.1)
        return Disposition.replace encoded
      else pure .keep)
    (fun left => Disposition.between (RecordComponent.listLayout components)
      (some (RecordComponent.listLayout left.1)))
    (rules.performs_components components) ?_
  · rw [Survey.map_map] at step ⊢
    exact step
  · intro part partFound first
    obtain ⟨kept, keptFound, rfl⟩ := Survey.map_eq_ok_iff.mp partFound
    -- Components that lost bytes still fit, so that writing them again cannot fail.
    have remains := ClassContext.surveyComponents_remain keptFound rules.decide first
    have same := listLayout_eq_iff remains fits
    have written := (RecordComponent.writes_encodeList _ _).mpr ⟨remains.listFits fits, rfl⟩
    simp only [Purgeable.map, compared, Disposition.between, same, written]
    by_cases unchanged : kept.left rules.decide first = components
    · simp [unchanged]
    · simp [unchanged]
      rfl

theorem performs_classAttributes (attributes : List Attribute) :
    Pass.Performs rules.decide (rules.classAttributes attributes)
      (Survey.map (compared attributes)
        (rules.context.surveyList (rules.context.surveyClassBody rules.flags) attributes)) := by
  apply rules.performs_filterList ClassContext.shrinks_surveyClassBody
  intro name info
  unfold ClassContext.surveyClassBody
  rw [view_eq]
  have plain := rules.performs_plainDisposition .classBody name info
  cases role : AttributeRole.ofName name with
  | record => exact rules.performs_record info
  | _ =>
    rw [role] at plain
    exact plain

theorem edited_eq_iff (file : ClassFile) (attributes : List Attribute) (fields methods : List Member) :
    ({ file with attributes, fields, methods } : ClassFile) = file ↔
      attributes = file.attributes ∧ fields = file.fields ∧ methods = file.methods := by
  constructor
  · intro same
    exact ⟨congrArg ClassFile.attributes same, congrArg ClassFile.fields same,
      congrArg ClassFile.methods same⟩
  · rintro ⟨rfl, rfl, rfl⟩
    rfl

theorem performs_classFile (file : ClassFile) :
    Pass.Performs rules.decide (rules.classFile file)
      (Survey.map (compared file) (rules.context.surveyFile rules.flags file)) := by
  have members := Pass.performs_map₂ Prod.mk (rules.performs_members .field file.fields)
    (rules.performs_members .method file.methods)
  rw [Survey.map₂_map, ← Survey.map_map₂ Prod.mk
    fun pair => (compared file.fields pair.1, compared file.methods pair.2)] at members
  have whole := Pass.performs_map₂
    (fun attributes members =>
      ({ file with attributes := Prod.fst attributes, fields := members.1.1, methods := members.2.1 },
        attributes.2 || members.1.2 || members.2.2))
    (rules.performs_classAttributes file.attributes) members
  rw [Survey.map₂_map] at whole
  simp only [bind_assoc, pure_bind] at whole
  unfold ClassContext.surveyFile
  rw [Survey.map_map₂]
  have same : (fun attributes (members : List Member × List Member) =>
        (({ file with attributes := (compared file.attributes attributes).1,
                      fields := (compared file.fields members.1).1,
                      methods := (compared file.methods members.2).1 } : ClassFile),
          (compared file.attributes attributes).2 || (compared file.fields members.1).2
            || (compared file.methods members.2).2))
      = fun attributes members =>
        compared file { file with attributes, fields := members.1, methods := members.2 } := by
    funext attributes members
    simp only [compared, ne_eq, edited_eq_iff]
    by_cases sameAttributes : attributes = file.attributes <;>
      by_cases sameFields : members.1 = file.fields <;>
      by_cases sameMethods : members.2 = file.methods <;>
      simp [sameAttributes, sameFields, sameMethods]
  rw [same] at whole
  exact whole

end PassRules

/-- The pass over a class file makes the reference edit of it and offers its points, and the class is
written again exactly when the edit changes it. -/
theorem PurgedClass.ofBytes_eq (data : Bytes) (flags : StripFlags) (decision : Decision) :
    ofBytes data flags decision = (do
      let file ← ClassFile.parse data
      let name ← file.name
      let part ← file.survey flags
      return {
        className := dotted name.toList
        bytes := if part.left decision 0 = file then none else some (part.left decision 0).layout
        offers := Offer.judged decision 0 part.points }) := by
  cases parsed : ClassFile.parse data with
  | error fault => simp [ofBytes, parsed, bind, Except.bind]
  | ok file =>
    obtain ⟨fits, -, -⟩ := (ClassFile.parse_eq_ok_iff data file).mp parsed
    cases named : file.name with
    | error fault => simp [ofBytes, parsed, named, bind, Except.bind]
    | ok name =>
      let rules : PassRules :=
        { pool := file.pool, className := dotted name.toList, flags, decide := decision }
      have performs := rules.performs_classFile file #[]
      have found : file.survey flags = rules.context.surveyFile flags file := by
        simp [ClassFile.survey, ClassFile.context, named, rules, PassRules.context]
        rfl
      cases surveyed : rules.context.surveyFile flags file with
      | error fault =>
        rw [surveyed] at performs found
        simp only [ofBytes, parsed, named, found, ok_bind]
        rw [performs]
        rfl
      | ok part =>
        rw [surveyed] at performs found
        have remains := ClassFile.survey_remains found decision 0
        have written := ClassFile.encode_of_fits (remains.fits fits)
        simp only [ofBytes, parsed, named, found, ok_bind]
        rw [performs]
        by_cases unchanged : part.left decision 0 = file
        · simp [ok_bind, Survey.map, Except.map, Purgeable.map, compared, rules, unchanged]
        · simp [ok_bind, Survey.map, Except.map, Purgeable.map, compared, rules, unchanged,
            written]
          rfl

end Unannotate
