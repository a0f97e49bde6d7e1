import Mathlib.Tactic.Basic
import Unannotate.ClassFile.Layout

/-!
# The layout check reads a body alike wherever it stands

`LayoutCheck.Carries` says that what one check finds in a byte string on its own, another finds in it
behind and in front of any other bytes: that it gets through a part of it, or a fault in what stands
there. Only faults about the end of the bytes are not carried over, since more may follow. Every check
carries over to itself with more levels, as long as it has a level for each byte.
-/
set_option autoImplicit false

namespace Unannotate

/-- A fault about where the bytes end, and not about what they are. -/
def LayoutFault.isAboutEnd : LayoutFault → Bool
  | overflow _ _ | outOfBounds _ _ | notAllRead _ _ => true
  | _ => false

namespace LayoutCheck

variable {α β : Type} {bound : Nat}

/-- What `check` finds in at most `bound` bytes on their own, `check'` finds in them anywhere. -/
structure Carries (bound : Nat) (check check' : LayoutCheck α) : Prop where
  passes : ∀ {passed front value next}, front.length ≤ bound →
    check ⟨passed, front⟩ = .ok (value, next) →
      ∃ taken, front = taken ++ next.rest ∧ ∀ passed' rest, check' ⟨passed', front ++ rest⟩
        = .ok (value, ⟨taken.reverseAux passed', next.rest ++ rest⟩)
  faults : ∀ {passed front fault}, front.length ≤ bound → fault.isAboutEnd = false →
    check ⟨passed, front⟩ = .error fault →
      ∀ passed' rest, check' ⟨passed', front ++ rest⟩ = .error fault

/-- A check that needs a byte finds nothing without one. -/
theorem carries_zero {check check' : LayoutCheck α}
    (needs : ∀ passed, ∃ offset size, check ⟨passed, []⟩ = .error (.overflow offset size)) :
    Carries 0 check check' where
  passes {passed front value next} short checked := by
    cases List.eq_nil_of_length_eq_zero (Nat.le_zero.mp short)
    obtain ⟨offset, size, faults⟩ := needs passed
    rw [faults] at checked
    cases checked
  faults {passed front fault} short inside checked := by
    cases List.eq_nil_of_length_eq_zero (Nat.le_zero.mp short)
    obtain ⟨offset, size, faults⟩ := needs passed
    rw [faults] at checked
    cases checked
    cases inside

/-! ## Sequencing -/

theorem bind_apply (check : LayoutCheck α) (next : α → LayoutCheck β) (cursor : Cursor) :
    (check >>= next) cursor = (check cursor).bind fun result => next result.1 result.2 := rfl

theorem carries_pure (value : α) : Carries bound (pure value) (pure value) where
  passes {passed front result next} _ checked := by
    have same : Except.ok (value, (⟨passed, front⟩ : Cursor)) = .ok (result, next) := checked
    cases same
    exact ⟨[], rfl, fun _ _ => rfl⟩
  faults {passed front fault} _ _ checked := by
    have same : Except.ok (value, (⟨passed, front⟩ : Cursor)) = .error fault := checked
    cases same

theorem carries_fail (fault : LayoutFault) : Carries bound (fail fault : LayoutCheck α) (fail fault) where
  passes {passed front result next} _ checked := by
    have same : Except.error fault = .ok (result, next) := checked
    cases same
  faults {passed front found} _ _ checked := by
    have same : (Except.error fault : Except LayoutFault (α × Cursor)) = .error found := checked
    cases same
    exact fun _ _ => rfl

/-- The second check is left with what the first has not taken. -/
theorem carries_bind_within {check check' : LayoutCheck α} {next next' : α → LayoutCheck β}
    {after : Nat} (first : Carries bound check check')
    (takes : ∀ {passed front value cursor}, front.length ≤ bound →
      check ⟨passed, front⟩ = .ok (value, cursor) → cursor.rest.length ≤ after)
    (second : ∀ value, Carries after (next value) (next' value)) :
    Carries bound (check >>= next) (check' >>= next') where
  passes {passed front value last} short checked := by
    rw [bind_apply] at checked
    cases outcome : check ⟨passed, front⟩ with
    | error fault =>
      rw [outcome] at checked
      cases checked
    | ok result =>
      obtain ⟨part, middle⟩ := result
      rw [outcome] at checked
      obtain ⟨upper, frontSplit, carried⟩ := first.passes short outcome
      obtain ⟨lower, middleSplit, carriedOn⟩ := (second part).passes (takes short outcome) checked
      refine ⟨upper ++ lower, ?_, ?_⟩
      · rw [List.append_assoc, ← middleSplit, ← frontSplit]
      · intro passed' rest
        rw [bind_apply, carried passed' rest]
        show next' part ⟨upper.reverseAux passed', middle.rest ++ rest⟩ = _
        rw [carriedOn]
        simp [List.reverseAux_eq]
  faults {passed front fault} short inside checked := by
    intro passed' rest
    rw [bind_apply] at checked
    cases outcome : check ⟨passed, front⟩ with
    | error found =>
      rw [outcome] at checked
      cases checked
      rw [bind_apply, first.faults short inside outcome passed' rest]
      rfl
    | ok result =>
      obtain ⟨part, middle⟩ := result
      rw [outcome] at checked
      obtain ⟨upper, -, carried⟩ := first.passes short outcome
      rw [bind_apply, carried passed' rest]
      exact (second part).faults (takes short outcome) inside checked _ rest

/-- No check gives back bytes. -/
theorem Carries.length_le {check check' : LayoutCheck α} (carries : Carries bound check check')
    {passed front : Bytes} {value : α} {next : Cursor} (short : front.length ≤ bound)
    (checked : check ⟨passed, front⟩ = .ok (value, next)) : next.rest.length ≤ front.length := by
  obtain ⟨taken, split, -⟩ := carries.passes short checked
  rw [split, List.length_append]
  exact Nat.le_add_left ..

theorem carries_bind {check check' : LayoutCheck α} {next next' : α → LayoutCheck β}
    (first : Carries bound check check') (second : ∀ value, Carries bound (next value) (next' value)) :
    Carries bound (check >>= next) (check' >>= next') :=
  carries_bind_within first
    (fun short checked => Nat.le_trans (first.length_le short checked) short) second

theorem carries_discard {check check' : LayoutCheck α} (carries : Carries bound check check') :
    Carries bound (discard check) (discard check') := by
  have unfolded (check : LayoutCheck α) : discard check = check >>= fun _ => pure () := by
    rw [discard, bind_pure_comp]
    rfl
  rw [unfolded, unfolded]
  exact carries_bind carries fun _ => carries_pure ()

/-! ## Bytes -/

/-- A block of bytes is taken wherever it stands. -/
theorem take?_anywhere {width : Nat} {passed front taken : Bytes} {next : Cursor}
    (success : Cursor.take? width ⟨passed, front⟩ = some (taken, next)) (passed' rest : Bytes) :
    Cursor.take? width ⟨passed', front ++ rest⟩
      = some (taken, ⟨taken.reverseAux passed', next.rest ++ rest⟩) := by
  obtain ⟨rfl, split, -⟩ := Cursor.take?_eq_some success
  have split : front = taken ++ next.rest := split
  rw [split, List.append_assoc]
  exact Cursor.take?_append passed' taken (next.rest ++ rest)

/-- A check that takes a block and makes something of it, and that finds only its end where it is short. -/
theorem carries_take {width : Nat} {check : LayoutCheck α} {value : Bytes → α} {lacks : Cursor → LayoutFault}
    (takes : ∀ cursor, check cursor = match cursor.take? width with
      | some (taken, next) => .ok (value taken, next)
      | none => .error (lacks cursor))
    (ends : ∀ cursor, (lacks cursor).isAboutEnd = true) : Carries bound check check where
  passes {passed front found next} _ checked := by
    rw [takes] at checked
    split at checked
    · next taken after success =>
      cases checked
      refine ⟨taken, (Cursor.take?_eq_some success).2.1, ?_⟩
      intro passed' rest
      simp only [takes, take?_anywhere success]
    · cases checked
  faults {passed front fault} _ inside checked := by
    rw [takes] at checked
    split at checked
    · cases checked
    · cases checked
      rw [ends] at inside
      cases inside

theorem carries_integer (width : Nat) : Carries bound (integer width) (integer width) :=
  carries_take (fun _ => rfl) (fun _ => rfl)

theorem carries_block (length : Nat) : Carries bound (block length) (block length) :=
  carries_take (fun _ => rfl) (fun _ => rfl)

theorem carries_room (length : Nat) : Carries bound (room length) (room length) where
  passes {passed front value next} _ checked := by
    unfold room at checked
    split at checked
    · next result success =>
      obtain ⟨taken, after⟩ := result
      cases checked
      refine ⟨[], rfl, ?_⟩
      intro passed' rest
      simp only [room, take?_anywhere success]
      rfl
    · cases checked
  faults {passed front fault} _ inside checked := by
    unfold room at checked
    split at checked
    · cases checked
    · cases checked
      cases inside

/-- Behind an integer there is at least a byte less. -/
theorem carries_integer_bind {width : Nat} {next next' : Nat → LayoutCheck β} (wide : 0 < width)
    (second : ∀ value, Carries bound (next value) (next' value)) :
    Carries (bound + 1) (integer width >>= next) (integer width >>= next') := by
  refine carries_bind_within (carries_integer width) ?_ second
  intro passed front value cursor short checked
  unfold integer at checked
  split at checked
  · next taken after success =>
    cases checked
    obtain ⟨length, split, -⟩ := Cursor.take?_eq_some success
    have split : front = taken ++ cursor.rest := split
    rw [split, List.length_append] at short
    omega
  · cases checked

/-! ## Repetition -/

theorem carries_times {item item' : LayoutCheck Unit} (carries : Carries bound item item')
    (count : Nat) : Carries bound (times item count) (times item' count) := by
  induction count with
  | zero => exact carries_pure ()
  | succ count ih => exact carries_bind carries fun _ => ih

theorem carries_u8 : Carries bound u8 u8 := carries_integer 1

theorem carries_u16 : Carries bound u16 u16 := carries_integer 2

theorem carries_counted {item item' : LayoutCheck Unit} (carries : Carries bound item item') :
    Carries bound (counted item) (counted item') :=
  carries_bind carries_u16 fun count => carries_times carries count

theorem carries_words (count : Nat) : Carries bound (words count) (words count) :=
  carries_times (carries_discard carries_u16) count

theorem carries_ite {condition : Prop} [Decidable condition] {check check' other other' : LayoutCheck α}
    (first : Carries bound check check') (second : Carries bound other other') :
    Carries bound (if condition then check else other) (if condition then check' else other') := by
  split
  · exact first
  · exact second

/-! ## Annotations -/

theorem carries_annotationBody {value value' : LayoutCheck Unit} (carries : Carries bound value value') :
    Carries bound (annotationBody value) (annotationBody value') :=
  carries_bind (carries_discard carries_u16) fun _ =>
    carries_counted (carries_bind (carries_discard carries_u16) fun _ => carries)

/-- By induction on the levels: a nested value stands behind the tag of the one that it is in. -/
theorem carries_elementValue {levels levels' : Nat} (within : levels ≤ levels') :
    Carries levels (elementValue levels) (elementValue levels') := by
  induction levels generalizing levels' with
  | zero =>
    -- Without bytes there is no tag to read.
    exact carries_zero fun passed => ⟨passed.length, passed.length, rfl⟩
  | succ levels ih =>
    obtain ⟨levels', rfl⟩ : ∃ more, levels' = more + 1 := ⟨levels' - 1, by omega⟩
    have nested := ih (Nat.le_of_succ_le_succ within)
    exact carries_integer_bind Nat.one_pos fun tag =>
      carries_ite (carries_discard carries_u16) (carries_ite (carries_words 2)
        (carries_ite (carries_annotationBody nested) (carries_ite (carries_counted nested)
          (carries_fail _))))

theorem carries_targetInfo (type : Nat) : Carries bound (targetInfo type) (targetInfo type) :=
  carries_ite (carries_discard carries_u8) (carries_ite (carries_discard carries_u16)
    (carries_ite (carries_bind (carries_discard carries_u8) fun _ => carries_discard carries_u8)
      (carries_ite (carries_pure ()) (carries_ite (carries_counted (carries_words 3))
        (carries_ite
          (carries_bind (carries_discard carries_u16) fun _ => carries_discard carries_u8)
          (carries_fail _))))))

theorem carries_typeAnnotationItem {levels levels' : Nat}
    (values : Carries bound (elementValue levels) (elementValue levels')) :
    Carries bound (typeAnnotationItem levels) (typeAnnotationItem levels') :=
  carries_bind carries_u8 fun type => carries_bind (carries_targetInfo type) fun _ =>
    carries_bind carries_u8 fun pathLength => carries_bind
      (carries_times (carries_bind (carries_discard carries_u8) fun _ => carries_discard carries_u8)
        pathLength) fun _ => carries_annotationBody values

/-! ## Stack maps -/

theorem carries_verificationType : Carries bound verificationType verificationType :=
  carries_bind carries_u8 fun _ => carries_ite (carries_pure ())
    (carries_ite (carries_discard carries_u16) (carries_fail _))

theorem carries_stackFrame : Carries bound stackFrame stackFrame := by
  have verified : Carries bound verificationType verificationType := carries_verificationType
  have offset : Carries bound (discard u16) (discard u16) := carries_discard carries_u16
  exact carries_bind carries_u8 fun _ => carries_ite (carries_pure ()) (carries_ite verified
    (carries_ite (carries_fail _) (carries_ite (carries_bind offset fun _ => verified)
      (carries_ite offset (carries_ite (carries_bind offset fun _ => carries_times verified _)
        (carries_bind offset fun _ => carries_bind (carries_counted verified) fun _ =>
          carries_counted verified))))))

/-! ## Attributes -/

/-- The body of an attribute of any name; an unknown one stops the check. -/
def body (levels : Nat) (attributes : LayoutCheck Unit) (length : Nat) (name : String) :
    LayoutCheck Unit :=
  (body? levels attributes length name).getD (fail (.unmatchedAttribute name))

theorem carries_body {levels levels' : Nat} {attributes attributes' : LayoutCheck Unit}
    (values : Carries bound (elementValue levels) (elementValue levels'))
    (nested : Carries bound attributes attributes') (length : Nat) (name : String) :
    Carries bound (body levels attributes length name) (body levels' attributes' length name) := by
  have annotations := carries_counted (carries_annotationBody values)
  have typeAnnotations := carries_counted (carries_typeAnnotationItem values)
  have code : Carries bound (do words 2; block (← u32); counted (words 4); attributes)
      (do words 2; block (← u32); counted (words 4); attributes') :=
    carries_bind (carries_words 2) fun _ => carries_bind (carries_integer 4) fun _ =>
      carries_bind (carries_block _) fun _ => carries_bind (carries_counted (carries_words 4))
        fun _ => nested
  have fields (count : Nat) : Carries bound (words count) (words count) := carries_words count
  have record := carries_counted (carries_bind (fields 2) fun _ => nested)
  have bootstrap := carries_counted (carries_bind (fields 1) fun _ => carries_counted (fields 1))
  unfold body body?
  split
  all_goals simp only [Option.getD_some, Option.getD_none]
  all_goals first
    | exact carries_words _
    | exact carries_counted (carries_words _)
    | exact code
    | exact record
    | exact bootstrap
    | exact carries_pure ()
    | exact carries_block _
    | exact carries_fail _
    | exact annotations
    | exact typeAnnotations
    | exact carries_counted carries_stackFrame
    | exact carries_bind (carries_room _) fun _ => annotations
    | exact carries_bind (carries_room _) fun _ => values
    | exact carries_bind carries_u8 fun _ => carries_times annotations _
    | exact carries_bind carries_u8 fun _ => carries_times (carries_words 2) _

theorem carries_attributeName (pool : ConstantPool) (index : Nat) :
    Carries bound (attributeName pool index) (attributeName pool index) := by
  unfold attributeName
  split
  · exact carries_fail _
  · exact carries_fail _
  · split
    · split
      · exact carries_pure _
      · exact carries_fail _
    · exact carries_fail _

/-- One attribute with its name and its announced length, which is not used. -/
def oneAttribute (pool : ConstantPool) (levels : Nat) : LayoutCheck Unit := do
  let index ← u16
  let length ← u32
  let name ← attributeName pool index
  body levels (attributes pool levels) length name

theorem attributes_succ (pool : ConstantPool) (levels : Nat) :
    attributes pool (levels + 1) = counted (oneAttribute pool levels) := by
  refine congrArg counted ?_
  refine bind_congr fun index => bind_congr fun length => bind_congr fun name => ?_
  unfold body
  cases body? levels (attributes pool levels) length name <;> rfl

/-- By induction on the levels: a nested list stands behind the name of the attribute that it is in. -/
theorem carries_attributes (pool : ConstantPool) {levels levels' : Nat} (within : levels ≤ levels') :
    Carries levels (attributes pool levels) (attributes pool levels') := by
  induction levels generalizing levels' with
  | zero => exact carries_zero fun passed => ⟨passed.length, passed.length, rfl⟩
  | succ levels ih =>
    obtain ⟨levels', rfl⟩ : ∃ more, levels' = more + 1 := ⟨levels' - 1, by omega⟩
    have within := Nat.le_of_succ_le_succ within
    rw [attributes_succ, attributes_succ]
    exact carries_counted (carries_integer_bind Nat.two_pos fun _ =>
      carries_bind (carries_integer 4) fun length => carries_bind (carries_attributeName pool _)
        fun name => carries_body (carries_elementValue within) (ih within) length name)

end LayoutCheck

end Unannotate
