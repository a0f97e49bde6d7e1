import Mathlib.Data.List.TakeWhile

/-!
# Texts cut at marks

What stands in front of the first mark of a text is found by passing all other characters, and pieces
with a mark between them hold no other characters than the pieces do.
-/
set_option autoImplicit false

namespace Unannotate

variable {front text : List Char} {mark letter : Char}

/-- Passing stops at the first character that is not passed. -/
theorem takeWhile_stopped {passes : Char → Bool} (inside : ∀ letter ∈ front, passes letter)
    (stops : passes mark = false) (back : List Char) :
    (front ++ mark :: back).takeWhile passes = front := by
  rw [List.takeWhile_append_of_pos inside, List.takeWhile_cons_of_neg (by simp [stops]),
    List.append_nil]

theorem takeWhile_ne_append (absent : mark ∉ front) (back : List Char) :
    (front ++ mark :: back).takeWhile (· ≠ mark) = front := by
  refine takeWhile_stopped ?_ (by simp) back
  intro letter member
  have differs : letter ≠ mark := fun equal => absent (equal ▸ member)
  simpa using differs

theorem takeWhile_ne_eq_self (absent : mark ∉ text) : text.takeWhile (· ≠ mark) = text := by
  apply List.takeWhile_eq_self_iff.mpr
  intro letter member
  have differs : letter ≠ mark := fun equal => absent (equal ▸ member)
  simpa using differs

/-- The first mark ends the front, so a text is cut there in one way only. -/
theorem eq_of_append_mark {other back rest : List Char} (absent : mark ∉ front) (absent' : mark ∉ other)
    (same : front ++ mark :: back = other ++ mark :: rest) : front = other ∧ back = rest := by
  have fronts : front = other := by
    rw [← takeWhile_ne_append absent back, same, takeWhile_ne_append absent' rest]
  subst fronts
  exact ⟨rfl, by simpa using same⟩

theorem mem_intercalate {pieces : List (List Char)} (member : letter ∈ [mark].intercalate pieces) :
    letter = mark ∨ ∃ piece ∈ pieces, letter ∈ piece := by
  induction pieces with
  | nil => simp [List.intercalate] at member
  | cons first rest ih =>
    cases rest with
    | nil => exact .inr ⟨first, by simp, by simpa [List.intercalate] using member⟩
    | cons second rest =>
      rw [List.intercalate_cons_cons, List.append_assoc, List.mem_append, List.mem_append,
        List.mem_singleton] at member
      obtain inFirst | isMark | inRest := member
      · exact .inr ⟨first, by simp, inFirst⟩
      · exact .inl isMark
      · obtain isMark | ⟨piece, held, inPiece⟩ := ih inRest
        · exact .inl isMark
        · exact .inr ⟨piece, List.mem_cons_of_mem _ held, inPiece⟩

theorem mem_intercalate_of_mem {pieces : List (List Char)} {piece : List Char} (held : piece ∈ pieces)
    (member : letter ∈ piece) : letter ∈ [mark].intercalate pieces := by
  induction pieces with
  | nil => cases held
  | cons first rest ih =>
    cases rest with
    | nil =>
      obtain rfl := List.mem_singleton.mp held
      simpa [List.intercalate] using member
    | cons second rest =>
      rw [List.intercalate_cons_cons, List.append_assoc, List.mem_append, List.mem_append]
      obtain rfl | later := List.mem_cons.mp held
      · exact .inl member
      · exact .inr (.inr (ih later))

theorem mem_of_mem_splitOn {piece : List Char} (held : piece ∈ text.splitOn mark)
    (member : letter ∈ piece) : letter ∈ text := by
  have whole : [mark].intercalate (text.splitOn mark) = text := List.intercalate_splitOn mark
  rw [← whole]
  exact mem_intercalate_of_mem held member

theorem not_mem_of_mem_splitOn {piece : List Char} (member : piece ∈ text.splitOn mark) :
    mark ∉ piece := by
  induction text generalizing piece with
  | nil =>
    rw [List.splitOn_nil, List.mem_singleton] at member
    simp [member]
  | cons first rest ih =>
    rw [List.splitOn_cons_eq_if_modifyHead] at member
    split at member
    next same =>
      rcases List.mem_cons.mp member with rfl | later
      · simp
      · exact ih later
    next other =>
      obtain ⟨head, tail, shape⟩ := List.exists_cons_of_ne_nil (List.splitOn_ne_nil mark rest)
      rw [shape, List.modifyHead_cons, List.mem_cons] at member
      rcases member with rfl | later
      · have absent : mark ∉ head := ih (by rw [shape]; exact List.mem_cons_self)
        have differs : mark ≠ first := by
          rintro rfl
          simp at other
        simp [differs, absent]
      · exact ih (by rw [shape]; exact List.mem_cons_of_mem _ later)

end Unannotate
