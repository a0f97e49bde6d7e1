import Unannotate.Proofs.Files.Below

/-!
# Paths joined with names

A path that is joined with names as directories list them has the components of the path and then the names,
`components_join`. So joined paths are the same only for the same names, the path is found again in front of
them, and joining one name after another comes to the same as joining all at once.
-/
set_option autoImplicit false

namespace Unannotate.Path

variable {directory : Path} {names : List String}

theorem isName_ne_empty {name : String} (named : IsName name) : name ≠ "" := by
  rintro rfl
  exact absurd named.1 (by decide)

theorem plain_ofNames (below : names ≠ []) (named : ∀ name ∈ names, IsName name) :
    (⟨ofNames names⟩ : Path).plain = names := by
  rw [plain, pieces_ofNames below fun name member => (named name member).2.2]
  exact List.filter_eq_self.mpr fun name member => by simp [(named name member).1]

theorem components_ofNames (below : names ≠ []) (named : ∀ name ∈ names, IsName name) :
    (⟨ofNames names⟩ : Path).components = names := by
  have noDot : (⟨ofNames names⟩ : Path).pieces.head? ≠ some "." := by
    rw [pieces_ofNames below fun name member => (named name member).2.2]
    intro dot
    exact absurd (named "." (List.mem_of_head? dot)).1 (by decide)
  rw [components_eq, plain_ofNames below named, lead, if_neg (by simp [isAbsolute_ofNames below named]),
    if_neg noDot, List.nil_append]

theorem pieces_ne_nil (path : Path) : path.pieces ≠ [] := by
  simp [pieces]

/-- Behind a separator components are added. -/
theorem components_slash (front rest : String) :
    (⟨front ++ "/" ++ rest⟩ : Path).components
      = (⟨front ++ "/" ++ ""⟩ : Path).components ++ (⟨rest⟩ : Path).plain := by
  have head : (⟨front ++ "/" ++ rest⟩ : Path).lead = (⟨front ++ "/" ++ ""⟩ : Path).lead := by
    rw [lead, lead, isAbsolute_slash front rest "", pieces_slash, pieces_slash,
      List.head?_append_of_ne_nil _ (pieces_ne_nil _), List.head?_append_of_ne_nil _ (pieces_ne_nil _)]
  have empty : (⟨""⟩ : Path).plain = [] := by decide
  rw [components_eq, components_eq, head, plain, plain, pieces_slash, pieces_slash, List.filter_append,
    List.filter_append, ← plain, ← plain, ← plain, empty, List.append_nil, List.append_assoc]

theorem join_of_getLast? {final : Char} (last : directory.text.toList.getLast? = some final)
    (noSlash : final ≠ '/') (rest : String) : directory.join rest = ⟨directory.text ++ "/" ++ rest⟩ := by
  rw [join, last]
  split
  · next none => cases none
  · next same => exact absurd (Option.some.inj same) noSlash
  · rfl

/-- Joining puts the rest behind a separator that ends the directory. -/
theorem exists_front_of_join (spelled : directory.text ≠ "") : ∃ front,
    (∀ rest, directory.join rest = ⟨front ++ "/" ++ rest⟩) ∧
      (⟨front ++ "/" ++ ""⟩ : Path).components = directory.components := by
  cases last : directory.text.toList.getLast? with
  | none =>
    rw [List.getLast?_eq_none_iff] at last
    exact absurd (by simpa using last) spelled
  | some final =>
    obtain ⟨shorter, text⟩ : ∃ shorter, directory.text.toList = shorter ++ [final] :=
      ⟨_, (List.dropLast_append_getLast? final last).symm⟩
    by_cases slash : final = '/'
    · subst slash
      have same : directory.text = String.ofList shorter ++ "/" := by
        rw [← String.toList_inj, text]
        simp
      refine ⟨String.ofList shorter, fun rest => ?_, ?_⟩
      · rw [join, last]
        show (⟨directory.text ++ rest⟩ : Path) = _
        rw [same]
      · rw [String.append_empty, ← same]
    · refine ⟨directory.text, join_of_getLast? last slash, ?_⟩
      · have absolute : (⟨directory.text ++ "/" ++ ""⟩ : Path).isAbsolute = directory.isAbsolute := by
          rw [isAbsolute, isAbsolute, String.toList_append, String.toList_append, List.append_assoc,
            List.head?_append_of_ne_nil _ (by simp [text])]
        have head : (⟨directory.text ++ "/" ++ ""⟩ : Path).lead = directory.lead := by
          rw [lead, lead, absolute, pieces_slash, List.head?_append_of_ne_nil _ (pieces_ne_nil _)]
        have empty : (⟨""⟩ : Path).plain = [] := by decide
        rw [components_eq, components_eq, head, plain, pieces_slash, List.filter_append, ← plain, ← plain,
          empty, List.append_nil]

theorem components_join (directory : Path) (below : names ≠ []) (named : ∀ name ∈ names, IsName name) :
    (directory.join (ofNames names)).components = directory.components ++ names := by
  by_cases spelled : directory.text = ""
  · obtain rfl : directory = ⟨""⟩ := by rw [← spelled]
    exact components_ofNames below named
  · obtain ⟨front, joined, same⟩ := exists_front_of_join spelled
    rw [joined, components_slash, same, plain_ofNames below named]

/-- Names that were joined are told apart by the paths. -/
theorem join_same_iff {other : List String} (below : names ≠ []) (named : ∀ name ∈ names, IsName name)
    (below' : other ≠ []) (named' : ∀ name ∈ other, IsName name) :
    (directory.join (ofNames names)).same (directory.join (ofNames other)) = true ↔ names = other := by
  rw [same, components_join directory below named, components_join directory below' named', beq_iff_eq,
    List.append_cancel_left_eq]

theorem below?_eq_some_iff {path : Path} :
    directory.below? path = some names ↔ path.components = directory.components ++ names := by
  unfold below?
  constructor
  · intro below
    split at below
    · next front =>
      rw [← Option.some.inj below]
      exact (List.prefix_iff_eq_append.mp (List.isPrefixOf_iff_prefix.mp front)).symm
    · cases below
  · intro same
    have front : directory.components.isPrefixOf path.components = true :=
      List.isPrefixOf_iff_prefix.mpr ⟨names, same.symm⟩
    rw [if_pos front, same, List.drop_left]

/-- The names that were joined are those that lead down from the directory. -/
theorem below?_join (directory : Path) (below : names ≠ []) (named : ∀ name ∈ names, IsName name) :
    directory.below? (directory.join (ofNames names)) = some names :=
  below?_eq_some_iff.mpr (components_join directory below named)

theorem fileName?_join (directory : Path) (below : names ≠ []) (named : ∀ name ∈ names, IsName name) :
    (directory.join (ofNames names)).fileName? = names.getLast? := by
  rw [fileName?, components_join directory below named, List.getLast?_append_of_ne_nil _ below]
  cases last : names.getLast? with
  | none => rfl
  | some name =>
    have isName := named name (List.mem_of_getLast? last)
    have noMark := not_isMark_of_isName isName
    simp only [isMark, Bool.or_eq_false_iff, beq_eq_false_iff_ne] at noMark
    simp [noMark.1, noMark.2, isName.2.1]

/-- What stands in front of the rest does not depend on it. -/
theorem exists_text_join (directory : Path) :
    ∃ front, ∀ rest, directory.join rest = ⟨front ++ rest⟩ := by
  by_cases spelled : directory.text = ""
  · obtain rfl : directory = ⟨""⟩ := by rw [← spelled]
    exact ⟨"", fun rest => by simp [join]⟩
  · obtain ⟨front, joined, -⟩ := exists_front_of_join spelled
    exact ⟨front ++ "/", joined⟩

theorem ofNames_concat (below : names ≠ []) (name : String) :
    ofNames (names ++ [name]) = ofNames names ++ "/" ++ name := by
  rw [ofNames, String.intercalate_append_of_ne_nil below (List.cons_ne_nil name []), String.intercalate_singleton,
    ← ofNames]

theorem getLast?_toList_ofNames (below : names ≠ []) (named : ∀ name ∈ names, IsName name) (front : String) :
    ∃ final, (front ++ ofNames names).toList.getLast? = some final ∧ final ≠ '/' := by
  obtain none | ⟨others, last, rfl⟩ := List.eq_nil_or_concat' names
  · exact absurd none below
  · have isName := named last (by simp)
    have spelled : last.toList ≠ [] := by simpa using isName_ne_empty isName
    obtain ⟨text, ends⟩ : ∃ text, ofNames (others ++ [last]) = text ++ last := by
      by_cases first : others = []
      · subst first
        exact ⟨"", by simp [ofNames]⟩
      · exact ⟨_, ofNames_concat first last⟩
    refine ⟨last.toList.getLast spelled, ?_, ?_⟩
    · rw [ends, String.toList_append, String.toList_append, List.getLast?_append_of_ne_nil _ (by simp [spelled]),
        List.getLast?_append_of_ne_nil _ spelled, List.getLast?_eq_some_getLast spelled]
    · intro slash
      exact isName.2.2 (slash ▸ List.getLast_mem spelled)

/-- Joining another name behind those that were joined comes to the same as joining them all. -/
theorem join_join (directory : Path) (below : names ≠ []) (named : ∀ name ∈ names, IsName name)
    (name : String) :
    (directory.join (ofNames names)).join name = directory.join (ofNames (names ++ [name])) := by
  obtain ⟨front, joined⟩ := directory.exists_text_join
  obtain ⟨final, last, noSlash⟩ := getLast?_toList_ofNames below named front
  rw [joined, joined, join_of_getLast? last noSlash, ofNames_concat below]
  simp only [String.append_assoc]

end Unannotate.Path
