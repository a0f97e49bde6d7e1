import Unannotate.Proofs.Outcomes
import Unannotate.Work

/-!
# Work that succeeds

The outcome of a piece of work is taken apart step by step: what each step gave when the whole succeeded.
The journal has no part in this; it is that of the steps up to the first that fails. Work on every item of
a list gives a list that corresponds to it.
-/
set_option autoImplicit false

namespace Unannotate

namespace Work

variable {α β : Type}

@[simp] theorem outcome_pure (value : α) : (pure value : Work α).outcome = .ok value := rfl

@[simp] theorem outcome_report (events : List Event) : (report events).outcome = .ok () := rfl

@[simp] theorem outcome_count (summary : Summary) : (count summary).outcome = .ok () := rfl

@[simp] theorem outcome_fail (failure : Failure) : (fail failure : Work α).outcome = .error failure :=
  rfl

@[simp] theorem outcome_ofOutcome (outcome : Except Failure α) : (ofOutcome outcome).outcome = outcome :=
  rfl

theorem ofArtifact_ok (context : Context) (value : α) : ofArtifact context (.ok value) = pure value := rfl

theorem bind_of_error {work : Work α} {failure : Failure} (failed : work.outcome = .error failure)
    (next : α → Work β) : (work >>= next) = ⟨work.journal, .error failure⟩ := by
  change Work.bind work next = _
  simp only [Work.bind, failed]

theorem bind_of_ok {work : Work α} {value : α} (succeeded : work.outcome = .ok value)
    (next : α → Work β) :
    (work >>= next) = ⟨work.journal ++ (next value).journal, (next value).outcome⟩ := by
  change Work.bind work next = _
  simp only [Work.bind, succeeded]

theorem summary_bind {work : Work α} {value : α} (succeeded : work.outcome = .ok value)
    (next : α → Work β) :
    (work >>= next).journal.summary = work.journal.summary ++ (next value).journal.summary := by
  rw [bind_of_ok succeeded]
  rfl

theorem outcome_then {work : Work α} {value : α} (succeeded : work.outcome = .ok value)
    (next : α → Work β) : (work >>= next).outcome = (next value).outcome := by
  rw [bind_of_ok succeeded]

instance : LawfulMonad Work := by
  refine LawfulMonad.mk' Work ?_ (fun value next => Work.bind_pure value next)
    (fun work next last => Work.bind_assoc work next last)
  rintro α ⟨journal, outcome⟩
  cases outcome with
  | error failure => rfl
  | ok value => exact congrArg (Work.mk · (.ok value)) (Journal.append_empty journal)

theorem bind_ok_iff {work : Work α} {next : α → Work β} {value : β} :
    (work >>= next).outcome = .ok value ↔
      ∃ first, work.outcome = .ok first ∧ (next first).outcome = .ok value := by
  change (Work.bind work next).outcome = .ok value ↔ _
  cases found : work.outcome with
  | error failure => simp [Work.bind, found]
  | ok first => simp [Work.bind, found]

theorem map_ok_iff {work : Work α} {give : α → β} {value : β} :
    (give <$> work).outcome = .ok value ↔ ∃ first, work.outcome = .ok first ∧ give first = value := by
  rw [← bind_pure_comp, bind_ok_iff]
  simp

theorem bind_error_iff {work : Work α} {next : α → Work β} {failure : Failure} :
    (work >>= next).outcome = .error failure ↔ work.outcome = .error failure ∨
      ∃ first, work.outcome = .ok first ∧ (next first).outcome = .error failure := by
  change (Work.bind work next).outcome = .error failure ↔ _
  cases found : work.outcome with
  | error other => simp [Work.bind, found]
  | ok first => simp [Work.bind, found]

theorem ofArtifact_ok_iff {context : Context} {result : Except Malformation α} {value : α} :
    (ofArtifact context result).outcome = .ok value ↔ result = .ok value := by
  cases result with
  | error fault => simp [ofArtifact]
  | ok found => simp [ofArtifact, Work.pure]

theorem within_ok_iff {context : Context} {work : Work α} {value : α} :
    (within context work).outcome = .ok value ↔ work.outcome = .ok value := by
  cases found : work.outcome <;> simp [within, whileDoing, found]

/-- When every item was worked on, each has given its value. -/
theorem each_ok_iff {items : List β} {work : β → Work α} {values : List α} :
    (each items work).outcome = .ok values ↔
      List.Forall₂ (fun item value => (work item).outcome = .ok value) items values := by
  induction items generalizing values with
  | nil =>
    rw [List.forall₂_nil_left_iff]
    change Except.ok [] = Except.ok values ↔ _
    simp [eq_comm]
  | cons item rest ih =>
    rw [each, bind_ok_iff]
    constructor
    · rintro ⟨value, first, remaining⟩
      obtain ⟨others, second, finished⟩ := bind_ok_iff.mp remaining
      cases finished
      exact .cons first (ih.mp second)
    · rintro (_ | ⟨first, others⟩)
      exact ⟨_, first, bind_ok_iff.mpr ⟨_, ih.mpr others, rfl⟩⟩

theorem each_congr {items : List β} {work other : β → Work α}
    (same : ∀ item ∈ items, work item = other item) : each items work = each items other := by
  induction items with
  | nil => rfl
  | cons item rest ih =>
    rw [List.forall_mem_cons] at same
    rw [each, each, same.1, ih same.2]

end Work

end Unannotate
