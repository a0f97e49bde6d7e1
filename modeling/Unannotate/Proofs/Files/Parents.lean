import Mathlib.Data.List.DropRight
import Unannotate.Proofs.Files.Places

/-!
# The steps above a path

The steps to the parent of a path are its own steps but the last one, up to steps that lead nowhere,
`filter_parentSteps`. So each place that a path leaves behind lies on the way of these steps, unless it is the
one that the path ends at, `mem_way_of_mem_passedBy`.
-/
set_option autoImplicit false

namespace Unannotate

namespace Path

/-! ## Pieces without idle ones -/

theorem mem_of_mem_trimEnd {piece : String} {pieces : List String} (member : piece ∈ trimEnd pieces) :
    piece ∈ pieces := by
  cases pieces with
  | nil => exact member
  | cons first rest => exact List.mem_cons.mpr ((List.mem_cons.mp member).imp_right
      fun later => (List.rdropWhile_prefix isIdle rest).subset later)

/-- Only idle pieces are taken from the end. -/
theorem filter_trimEnd (pieces : List String) :
    (trimEnd pieces).filter (!isIdle ·) = pieces.filter (!isIdle ·) := by
  have taken (rest : List String) :
      (rest.rdropWhile isIdle).filter (!isIdle ·) = rest.filter (!isIdle ·) := by
    induction rest using List.reverseRecOn with
    | nil => rfl
    | append_singleton rest last ih =>
      rw [List.rdropWhile_concat]
      split
      next idle => simp [ih, idle]
      next => rfl
  cases pieces with
  | nil => rfl
  | cons first rest =>
    change (first :: rest.rdropWhile isIdle).filter (!isIdle ·) = _
    rw [List.filter_cons, List.filter_cons, taken]

/-- Without idle pieces at the end, the last piece is the last one that is not idle. -/
theorem filter_dropLast_trimEnd (pieces : List String) :
    (trimEnd pieces).dropLast.filter (!isIdle ·) = (pieces.filter (!isIdle ·)).dropLast := by
  rw [← filter_trimEnd pieces]
  cases pieces with
  | nil => rfl
  | cons first rest =>
    change (first :: rest.rdropWhile isIdle).dropLast.filter (!isIdle ·)
      = ((first :: rest.rdropWhile isIdle).filter (!isIdle ·)).dropLast
    rcases List.eq_nil_or_concat' (rest.rdropWhile isIdle) with nothing | ⟨front, last, shape⟩
    · rw [nothing]
      by_cases idle : isIdle first = true
      · simp [idle]
      · simp [idle]
    · have moves : ¬isIdle last = true := by
        have kept := List.rdropWhile_last_not isIdle rest (by simp [shape])
        simpa [shape] using kept
      rw [shape, ← List.cons_append, List.dropLast_concat, List.filter_append]
      simp [moves]

/-! ## The parent -/

theorem pieces_ofNames {names : List String} (named : names ≠ [])
    (plain : ∀ name ∈ names, '/' ∉ name.toList) : (⟨ofNames names⟩ : Path).pieces = names := by
  have text : (ofNames names).toList = ['/'].intercalate (names.map String.toList) := by
    simp [ofNames]
  unfold pieces
  rw [text, List.splitOn_intercalate '/' _ (by simpa using named)]
  · simp
  · simpa using plain

theorem eq_nil_of_ofNames_eq_empty {names : List String} (empty : ofNames names = "") :
    names = [] ∨ names = [""] := by
  match names with
  | [] => exact .inl rfl
  | [name] => exact .inr (by simpa [ofNames] using empty)
  | first :: second :: rest =>
    have text := congrArg String.toList empty
    simp [ofNames] at text

/-- The steps to the parent are all steps but the last one. -/
theorem filter_parentSteps (path : Path) :
    path.parentSteps.filter (!isIdle ·) = (path.pieces.filter (!isIdle ·)).dropLast := by
  have shape : (trimEnd (trimEnd path.pieces).dropLast).filter (!isIdle ·)
      = (path.pieces.filter (!isIdle ·)).dropLast := by
    rw [filter_trimEnd, filter_dropLast_trimEnd]
  have plain : ∀ name ∈ trimEnd (trimEnd path.pieces).dropLast, '/' ∉ name.toList :=
    fun name member => FileTree.separator_not_mem_of_mem_pieces
      (mem_of_mem_trimEnd ((List.dropLast_subset _) (mem_of_mem_trimEnd member)))
  rw [← shape]
  unfold parentSteps parent
  split
  next top =>
    rw [top]
    decide
  next names =>
    by_cases empty : ofNames (trimEnd (trimEnd path.pieces).dropLast) = ""
    · rw [if_pos empty]
      rcases eq_nil_of_ofNames_eq_empty empty with nothing | one
      · rw [nothing]
      · exact absurd one names
    · rw [if_neg empty, pieces_ofNames _ plain]
      intro nothing
      rw [nothing] at empty
      exact empty rfl

end Path

namespace FileTree

/-! ## Ways -/

theorem mem_way_self (start : Place) (steps : List String) : start ∈ way start steps := by
  cases steps with
  | nil => exact List.mem_singleton.mpr rfl
  | cons piece rest => exact List.mem_cons_self

/-- Idle steps lead through no other places. -/
theorem mem_way_filter {start place : Place} {steps : List String} :
    place ∈ way start (steps.filter (!Path.isIdle ·)) ↔ place ∈ way start steps := by
  induction steps generalizing start with
  | nil => rfl
  | cons piece rest ih =>
    by_cases idle : Path.isIdle piece = true
    · rw [List.filter_cons_of_neg (by simp [idle]), ih, way_cons, step_idle idle, List.mem_cons]
      constructor
      · exact .inr
      · rintro (rfl | later)
        · exact mem_way_self place rest
        · exact later
    · rw [List.filter_cons_of_pos (by simp [idle]), way_cons, way_cons, List.mem_cons, List.mem_cons, ih]

theorem way_concat (start : Place) (steps : List String) (piece : String) :
    way start (steps ++ [piece]) = way start steps ++ [(steps ++ [piece]).foldl step start] := by
  induction steps generalizing start with
  | nil => rfl
  | cons first rest ih => simp [way_cons, ih]

/-- What a path leaves behind lies on the way to its parent, or is where the path ends. -/
theorem mem_way_of_mem_passedBy {tree : FileTree} {path : Path} {left : Place}
    (member : left ∈ tree.passedBy path) :
    left ∈ way (tree.startOf path) path.parentSteps ∨ left = tree.placeOf path := by
  have through : left ∈ way (tree.startOf path) (path.pieces.filter (!Path.isIdle ·)) :=
    mem_way_filter.mpr (List.mem_append_left _ member)
  have above := path.filter_parentSteps
  rcases List.eq_nil_or_concat' (path.pieces.filter (!Path.isIdle ·)) with nothing | ⟨front, last, shape⟩
  · rw [nothing] at through
    rw [List.mem_singleton.mp through]
    exact .inl (mem_way_self _ _)
  · rw [shape, way_concat, ← shape, foldl_step_filter] at through
    rcases List.mem_append.mp through with before | here
    · rw [shape, List.dropLast_concat] at above
      rw [← above] at before
      exact .inl (mem_way_filter.mp before)
    · exact .inr (List.mem_singleton.mp here)

end FileTree

end Unannotate
