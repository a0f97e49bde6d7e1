import Unannotate.Proofs.Files.Parents

/-!
# Places below a directory

Names as a directory lists them lead straight down, so a path that is joined with names, or that is spelled
behind another one, leads to the place of the other and the names below it. A directory lists its files in
an order that depends on their names alone: what is listed apart from some files is the same in two trees
that differ in those files only.
-/
set_option autoImplicit false

namespace Unannotate

/-! ## Names -/

namespace Path

/-- What a directory lists is not empty, no dots that lead elsewhere, and without separators. -/
def IsName (name : String) : Prop := isIdle name = false ∧ name ≠ ".." ∧ '/' ∉ name.toList

instance (name : String) : Decidable (IsName name) :=
  inferInstanceAs (Decidable (isIdle name = false ∧ name ≠ ".." ∧ '/' ∉ name.toList))

end Path

namespace FileTree

theorem foldl_step_names {names : List String} (named : ∀ name ∈ names, Path.IsName name)
    (place : Place) : names.foldl step place = place ++ names := by
  induction names generalizing place with
  | nil => exact (List.append_nil place).symm
  | cons name rest ih =>
    obtain ⟨first, others⟩ := List.forall_mem_cons.mp named
    have down : step place name = place ++ [name] := by simp [step, first.1, first.2.1]
    rw [List.foldl_cons, ih others, down, List.append_assoc, List.singleton_append]

end FileTree

/-! ## Joined paths -/

namespace Path

theorem pieces_slash (front rest : String) :
    (⟨front ++ "/" ++ rest⟩ : Path).pieces = (⟨front⟩ : Path).pieces ++ (⟨rest⟩ : Path).pieces := by
  have text : (front ++ "/" ++ rest).toList = front.toList ++ '/' :: rest.toList := by simp
  unfold pieces
  rw [text, List.splitOn_append_cons_self, List.map_append]

theorem isAbsolute_slash (front rest rest' : String) :
    (⟨front ++ "/" ++ rest⟩ : Path).isAbsolute = (⟨front ++ "/" ++ rest'⟩ : Path).isAbsolute := by
  have text (rest : String) : (front ++ "/" ++ rest).toList = front.toList ++ '/' :: rest.toList := by simp
  rw [isAbsolute, isAbsolute, text, text, List.head?_append, List.head?_append]
  rfl

/-- In front of its first separator an absolute path has nothing. -/
theorem head?_pieces_of_isAbsolute {path : Path} (absolute : path.isAbsolute = true) :
    path.pieces.head? = some "" := by
  obtain ⟨rest, text⟩ : ∃ rest, path.text.toList = '/' :: rest := by
    unfold isAbsolute at absolute
    cases shape : path.text.toList with
    | nil => simp [shape] at absolute
    | cons first rest =>
      rw [shape] at absolute
      obtain rfl : first = '/' := by simpa using absolute
      exact ⟨rest, rfl⟩
  unfold pieces
  rw [text, ← List.nil_append ('/' :: rest), List.splitOn_append_cons_self]
  rfl

/-- The names of a directory are a relative path. -/
theorem isAbsolute_ofNames {names : List String} (some : names ≠ [])
    (named : ∀ name ∈ names, IsName name) : (⟨ofNames names⟩ : Path).isAbsolute = false := by
  by_contra absolute
  have head := head?_pieces_of_isAbsolute (by simpa using absolute)
  rw [pieces_ofNames some fun name member => (named name member).2.2] at head
  have first := named "" (List.mem_of_mem_head? head)
  exact absurd first.1 (by decide)

end Path

namespace FileTree

theorem startOf_of_isAbsolute {tree : FileTree} {path other : Path}
    (same : path.isAbsolute = other.isAbsolute) : tree.startOf path = tree.startOf other := by
  rw [startOf, startOf, same]

/-- A path joined with names leads to the place of the path and the names below it. -/
theorem placeOf_join (tree : FileTree) (directory : Path) {names : List String} (some : names ≠ [])
    (named : ∀ name ∈ names, Path.IsName name) :
    tree.placeOf (directory.join (Path.ofNames names)) = tree.placeOf directory ++ names := by
  have pieces : (⟨Path.ofNames names⟩ : Path).pieces = names :=
    Path.pieces_ofNames some fun name member => (named name member).2.2
  -- Behind a separator the names are followed from where the front leads.
  have behind (front : String) : tree.placeOf ⟨front ++ "/" ++ Path.ofNames names⟩
      = tree.placeOf ⟨front ++ "/" ++ ""⟩ ++ names := by
    rw [placeOf, placeOf, Path.pieces_slash, Path.pieces_slash, pieces, List.foldl_append,
      foldl_step_names named, List.foldl_append,
      startOf_of_isAbsolute (Path.isAbsolute_slash front (Path.ofNames names) "")]
    congr 1
  unfold Path.join
  cases last : directory.text.toList.getLast? with
  | none =>
    have empty : directory = ⟨""⟩ := by
      obtain ⟨text⟩ := directory
      rw [List.getLast?_eq_none_iff] at last
      simpa using last
    subst empty
    have relative : (⟨Path.ofNames names⟩ : Path).isAbsolute = (⟨""⟩ : Path).isAbsolute :=
      Path.isAbsolute_ofNames some named
    show tree.placeOf ⟨Path.ofNames names⟩ = tree.placeOf ⟨""⟩ ++ names
    rw [placeOf, pieces, foldl_step_names named, startOf_of_isAbsolute relative]
    rfl
  | some final =>
    obtain ⟨front, text⟩ : ∃ front, directory.text.toList = front ++ [final] :=
      ⟨_, (List.dropLast_append_getLast? final last).symm⟩
    by_cases slash : final = '/'
    · subst slash
      have spelled : directory = ⟨String.ofList front ++ "/" ++ ""⟩ := by
        obtain ⟨written⟩ := directory
        rw [Path.mk.injEq, ← String.toList_inj, text]
        simp
      have shorter : directory.text = String.ofList front ++ "/" := by
        rw [spelled]
        simp
      show tree.placeOf ⟨directory.text ++ Path.ofNames names⟩ = _
      rw [shorter, behind, ← spelled]
    · have whole : tree.placeOf ⟨directory.text ++ "/" ++ ""⟩ = tree.placeOf directory := by
        have head : (⟨directory.text ++ "/" ++ ""⟩ : Path).isAbsolute = directory.isAbsolute := by
          rw [Path.isAbsolute, Path.isAbsolute, String.toList_append, String.toList_append,
            List.append_assoc, List.head?_append_of_ne_nil _ (by simp [text])]
        rw [placeOf, placeOf, Path.pieces_slash, List.foldl_append, startOf_of_isAbsolute head]
        have idle : Path.isIdle "" = true := by decide
        exact step_idle idle
      rw [← whole, ← behind]
      split
      · next none => cases none
      · next same => exact absurd (Option.some.inj same) slash
      · rfl

end FileTree

/-! ## Paths behind other paths -/

namespace Path

/-- What stands in front of the pieces that lead somewhere. -/
def lead (path : Path) : List String :=
  if path.isAbsolute then ["/"] else if path.pieces.head? = some "." then ["."] else []

/-- The pieces that lead somewhere. -/
def plain (path : Path) : List String := path.pieces.filter (!isIdle ·)

theorem components_eq (path : Path) : path.components = path.lead ++ path.plain := rfl

/-- Only the lead of a path can have one of these components. -/
def isMark (component : String) : Bool := component == "/" || component == "."

theorem filter_lead (path : Path) : path.lead.filter isMark = path.lead := by
  unfold lead
  split
  · rfl
  · split <;> rfl

theorem not_isMark_of_isName {name : String} (named : IsName name) : isMark name = false := by
  obtain ⟨moves, -, clean⟩ := named
  have noSeparator : name ≠ "/" := by
    rintro rfl
    exact clean (by decide)
  have noDot : name ≠ "." := by
    rintro rfl
    exact absurd moves (by decide)
  simp [isMark, noSeparator, noDot]

theorem not_isMark_of_mem_plain {path : Path} {piece : String} (member : piece ∈ path.plain) :
    isMark piece = false := by
  obtain ⟨inPieces, moves⟩ := List.mem_filter.mp member
  have noSeparator : piece ≠ "/" := by
    rintro rfl
    exact FileTree.separator_not_mem_of_mem_pieces inPieces (by decide)
  have noDot : piece ≠ "." := by
    rintro rfl
    exact absurd moves (by decide)
  simp [isMark, noSeparator, noDot]

theorem isName_of_fileName? {path : Path} {name : String} (last : path.fileName? = some name) :
    IsName name := by
  unfold fileName? at last
  split at last
  · cases last
  · next final ends =>
    split at last
    · cases last
    · next leads =>
      cases last
      obtain ⟨noDot, noDots, noSeparator⟩ : name ≠ "." ∧ name ≠ ".." ∧ name ≠ "/" := by
        simpa [not_or] using leads
      have member := List.mem_of_getLast? ends
      rw [components_eq, List.mem_append] at member
      obtain inLead | inPlain := member
      · -- The lead has no component that is a name.
        unfold lead at inLead
        split at inLead
        · exact absurd (List.mem_singleton.mp inLead) noSeparator
        · split at inLead
          · exact absurd (List.mem_singleton.mp inLead) noDot
          · cases inLead
      · obtain ⟨inPieces, moves⟩ := List.mem_filter.mp inPlain
        exact ⟨by simpa using moves, noDots, FileTree.separator_not_mem_of_mem_pieces inPieces⟩

theorem isAbsolute_iff_lead {path : Path} : path.isAbsolute = true ↔ path.lead = ["/"] := by
  unfold lead
  split
  · next absolute => simp [absolute]
  · next relative =>
    split <;> simp [relative]

/-- A path behind another one has the lead of the other, and leads on by the names. -/
theorem of_below? {base path : Path} {names : List String} (below : base.below? path = some names)
    (named : ∀ name ∈ names, IsName name) :
    path.isAbsolute = base.isAbsolute ∧ path.plain = base.plain ++ names := by
  unfold below? at below
  split at below
  · next front =>
    have whole : base.components ++ path.components.drop base.components.length = path.components :=
      List.prefix_iff_eq_append.mp (List.isPrefixOf_iff_prefix.mp front)
    rw [Option.some.inj below, components_eq, components_eq] at whole
    have clear : ∀ name ∈ base.plain ++ names, isMark name = false := by
      intro name member
      obtain inBase | behind := List.mem_append.mp member
      · exact not_isMark_of_mem_plain inBase
      · exact not_isMark_of_isName (named name behind)
    have plainClear : ∀ piece ∈ path.plain, isMark piece = false := fun _ => not_isMark_of_mem_plain
    -- The marks on both sides are the leads, so they are the same.
    have leads := congrArg (List.filter isMark) whole
    rw [List.append_assoc, List.filter_append, filter_lead, List.filter_append path.lead, filter_lead,
      List.filter_eq_nil_iff.mpr (by simpa using clear),
      List.filter_eq_nil_iff.mpr (by simpa using plainClear), List.append_nil, List.append_nil] at leads
    rw [List.append_assoc, leads] at whole
    refine ⟨?_, (List.append_cancel_left whole).symm⟩
    rw [Bool.eq_iff_iff, isAbsolute_iff_lead, isAbsolute_iff_lead, leads]
  · cases below

end Path

namespace FileTree

theorem placeOf_of_below? {tree : FileTree} {base path : Path} {names : List String}
    (below : base.below? path = some names) (named : ∀ name ∈ names, Path.IsName name) :
    tree.placeOf path = tree.placeOf base ++ names := by
  obtain ⟨absolute, plain⟩ := Path.of_below? below named
  have followed (path : Path) : tree.placeOf path = path.plain.foldl step (tree.startOf path) :=
    (foldl_step_filter _ _).symm
  rw [followed, followed, plain, List.foldl_append, foldl_step_names named, startOf_of_isAbsolute absolute]

/-! ## The order of a listing -/

theorem inOrder_total (place other : Place) : (inOrder place other || inOrder other place) = true := by
  induction place generalizing other with
  | nil => cases other <;> rfl
  | cons first rest ih =>
    cases other with
    | nil => rfl
    | cons first' rest' =>
      unfold inOrder
      by_cases same : first = first'
      · subst same
        simpa using ih rest'
      · rw [if_neg same, if_neg (Ne.symm same), Bool.or_eq_true, decide_eq_true_iff, decide_eq_true_iff]
        by_contra neither
        obtain ⟨notBefore, notBehind⟩ := not_or.mp neither
        exact same (String.le_antisymm (String.not_lt.mp notBehind) (String.not_lt.mp notBefore))

theorem inOrder_antisymm {place other : Place} (one : inOrder place other = true)
    (two : inOrder other place = true) : place = other := by
  induction place generalizing other with
  | nil =>
    cases other with
    | nil => rfl
    | cons => cases two
  | cons first rest ih =>
    cases other with
    | nil => cases one
    | cons first' rest' =>
      unfold inOrder at one two
      by_cases same : first = first'
      · subst same
        rw [if_pos rfl] at one two
        rw [ih one two]
      · rw [if_neg same, decide_eq_true_iff] at one
        rw [if_neg (Ne.symm same), decide_eq_true_iff] at two
        exact absurd two (String.lt_asymm one)

theorem inOrder_trans {first second third : Place} (one : inOrder first second = true)
    (two : inOrder second third = true) : inOrder first third = true := by
  induction first generalizing second third with
  | nil => rfl
  | cons name rest ih =>
    cases second with
    | nil => cases one
    | cons name' rest' =>
      cases third with
      | nil => cases two
      | cons name'' rest'' =>
        unfold inOrder at one two ⊢
        split at one
        · next same =>
          subst same
          split at two
          · next same =>
            subst same
            rw [if_pos rfl]
            exact ih one two
          · next differ =>
            rw [if_neg differ]
            exact two
        · next differ =>
          split at two
          · next same =>
            subst same
            rw [if_neg differ]
            exact one
          · next differ' =>
            rw [decide_eq_true_iff] at one two
            have before := String.lt_trans one two
            have differ : name ≠ name'' := by
              rintro rfl
              exact String.lt_irrefl name before
            rw [if_neg differ]
            exact decide_eq_true before

/-- What is listed of some names depends on these names only. -/
theorem filter_mergeSort_congr {names names' : List Place} {chosen : Place → Bool}
    (same : (names.filter chosen).Perm (names'.filter chosen)) :
    (names.mergeSort inOrder).filter chosen = (names'.mergeSort inOrder).filter chosen := by
  have sorted (names : List Place) : (names.mergeSort inOrder).Pairwise (inOrder · · = true) := by
    refine List.pairwise_mergeSort ?_ inOrder_total names
    intro first second third one two
    exact inOrder_trans one two
  have perm : ((names.mergeSort inOrder).filter chosen).Perm ((names'.mergeSort inOrder).filter chosen) :=
    ((List.mergeSort_perm names inOrder).filter chosen).trans
      (same.trans ((List.mergeSort_perm names' inOrder).filter chosen).symm)
  exact perm.eq_of_pairwise (fun _ _ _ _ => inOrder_antisymm) ((sorted names).filter chosen)
    ((sorted names').filter chosen)

end FileTree

end Unannotate
