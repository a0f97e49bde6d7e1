import Mathlib.Data.List.Forall2

/-!
# Outcomes of steps and of lists of steps

What was given when a sequence of fallible steps succeeded, taken apart step by step, and for a list item
by item: its results correspond to its items.
-/
set_option autoImplicit false

namespace Unannotate

/-! ## Lists that correspond -/

section Pairs

variable {α β : Type} {related : α → β → Prop} {items : List α} {others : List β}

theorem exists_related_of_mem (pairs : List.Forall₂ related items others) {item : α}
    (member : item ∈ items) : ∃ other ∈ others, related item other := by
  induction pairs with
  | nil => cases member
  | cons here _ ih =>
    cases member with
    | head => exact ⟨_, List.mem_cons_self, here⟩
    | tail _ later =>
      obtain ⟨other, found, matching⟩ := ih later
      exact ⟨other, List.mem_cons_of_mem _ found, matching⟩

theorem exists_forall₂ (every : ∀ item ∈ items, ∃ other, related item other) :
    ∃ others, List.Forall₂ related items others := by
  induction items with
  | nil => exact ⟨[], .nil⟩
  | cons item rest ih =>
    rw [List.forall_mem_cons] at every
    obtain ⟨other, here⟩ := every.1
    obtain ⟨others, later⟩ := ih every.2
    exact ⟨other :: others, .cons here later⟩

/-- A property of the items of one list is a property of the items of the other. -/
theorem forall_mem_iff_of_forall₂ {first : α → Prop} {second : β → Prop}
    (pairs : List.Forall₂ related items others)
    (same : ∀ item other, related item other → (first item ↔ second other)) :
    (∀ item ∈ items, first item) ↔ ∀ other ∈ others, second other := by
  induction pairs with
  | nil => simp
  | cons here _ ih => rw [List.forall_mem_cons, List.forall_mem_cons, same _ _ here, ih]

/-- Items that correspond by way of a third list. -/
theorem forall₂_of_forall₂_map {γ δ : Type} {given : γ → δ → Prop} {result : α → δ → Prop} {made : β → γ}
    {last : List δ} (first : List.Forall₂ related items others)
    (second : List.Forall₂ given (others.map made) last)
    (joined : ∀ item ∈ items, ∀ other final, related item other → given (made other) final →
      result item final) : List.Forall₂ result items last := by
  induction first generalizing last with
  | nil =>
    cases second
    exact .nil
  | @cons item other items others here _ ih =>
    rw [List.map_cons] at second
    cases second with
    | cons there rest =>
      rw [List.forall_mem_cons] at joined
      exact .cons (joined.1 _ _ here there) (ih rest joined.2)

/-- Results for all items are results item by item. -/
theorem mapM_eq_some_iff {give : α → Option β} {results : List β} :
    items.mapM give = some results ↔
      List.Forall₂ (fun item result => give item = some result) items results := by
  induction items generalizing results with
  | nil => simp [eq_comm]
  | cons item rest ih =>
    rw [List.mapM_cons]
    constructor
    · intro made
      obtain ⟨first, here, later⟩ := Option.bind_eq_some_iff.mp made
      obtain ⟨others, each, returned⟩ := Option.bind_eq_some_iff.mp later
      cases returned
      exact .cons here (ih.mp each)
    · intro pairs
      cases pairs with
      | cons here later =>
        apply Option.bind_eq_some_iff.mpr
        exact ⟨_, here, Option.bind_eq_some_iff.mpr ⟨_, ih.mpr later, rfl⟩⟩

end Pairs

/-! ## Outcomes -/

theorem outcome_bind_ok_iff {ε α β : Type} {first : Except ε α} {next : α → Except ε β} {value : β} :
    (first >>= next) = .ok value ↔ ∃ part, first = .ok part ∧ next part = .ok value := by
  cases first with
  | error fault => simp [bind, Except.bind]
  | ok part => simp [bind, Except.bind]

theorem mapError_eq_ok_iff {ε δ α : Type} {change : ε → δ} {result : Except ε α} {value : α} :
    result.mapError change = .ok value ↔ result = .ok value := by
  cases result <;> simp [Except.mapError]

/-- Every item gives its own result. -/
theorem mapM_eq_ok_iff_forall₂ {ε α β : Type} {give : α → Except ε β} {items : List α} {results : List β} :
    items.mapM give = .ok results ↔
      List.Forall₂ (fun item result => give item = .ok result) items results := by
  induction items generalizing results with
  | nil => simp [pure, Except.pure, eq_comm]
  | cons item rest ih =>
    rw [List.mapM_cons, outcome_bind_ok_iff]
    constructor
    · rintro ⟨first, here, later⟩
      obtain ⟨others, made, returned⟩ := outcome_bind_ok_iff.mp later
      cases returned
      exact .cons here (ih.mp made)
    · rintro (_ | ⟨here, later⟩)
      exact ⟨_, here, outcome_bind_ok_iff.mpr ⟨_, ih.mpr later, rfl⟩⟩

end Unannotate
