import Unannotate.Files.FileTree
import Unannotate.Proofs.Marks

/-!
# Places that paths lead to

A path leads through places to a last one, and which places these are does not depend on what stands there:
following the path only asks for a directory at each of them but the last. So paths with the same components
lead to the same place, and what a path leads to in a tree is also found in a tree that has grown: one where
every directory is still a directory and every file still a file.
-/
set_option autoImplicit false

namespace Unannotate.FileTree

/-- The place that a path leads to where nothing is in the way. -/
def placeOf (tree : FileTree) (path : Path) : Place := path.pieces.foldl step (tree.startOf path)

/-- The places that steps leave behind. -/
def passed : Place → List String → List Place
  | _, [] => []
  | place, piece :: rest => place :: passed (step place piece) rest

/-- The places that steps lead through, with the last one. -/
def way (place : Place) (steps : List String) : List Place :=
  passed place steps ++ [steps.foldl step place]

/-- The places that a path leaves behind. A directory has to stand at each of them. -/
def passedBy (tree : FileTree) (path : Path) : List Place := passed (tree.startOf path) path.pieces

/-- What the file at a place holds, if there is one. -/
def content? (tree : FileTree) (place : Place) : Option Bytes :=
  match tree.lookup? place with
  | some (.file content _) => some content
  | _ => none

@[simp] theorem way_cons (start : Place) (piece : String) (rest : List String) :
    way start (piece :: rest) = start :: way (step start piece) rest := rfl

theorem mem_way_iff {start place : Place} {steps : List String} :
    place ∈ way start steps ↔ ∃ done ahead, steps = done ++ ahead ∧ place = done.foldl step start := by
  induction steps generalizing start with
  | nil =>
    simp only [way, passed, List.nil_append, List.foldl_nil, List.mem_singleton]
    constructor
    · intro here
      exact ⟨[], [], rfl, here⟩
    · rintro ⟨done, ahead, split, reached⟩
      rw [(List.append_eq_nil_iff.mp split.symm).1] at reached
      exact reached
  | cons piece rest ih =>
    rw [way_cons, List.mem_cons, ih]
    constructor
    · rintro (here | ⟨done, ahead, split, reached⟩)
      · exact ⟨[], piece :: rest, rfl, here⟩
      · exact ⟨piece :: done, ahead, by rw [split]; rfl, reached⟩
    · rintro ⟨done, ahead, split, reached⟩
      cases done with
      | nil => exact .inl reached
      | cons first done =>
        obtain ⟨rfl, later⟩ := List.cons.inj split
        exact .inr ⟨done, ahead, later, reached⟩

/-- Following steps asks for a directory at each place that is left behind, and for nothing at the last. -/
theorem follow?_eq_some_iff {tree : FileTree} {start place : Place} {steps : List String} :
    tree.follow? start steps = some place ↔
      place = steps.foldl step start ∧ ∀ left ∈ passed start steps, tree.isDirectory left := by
  induction steps generalizing start with
  | nil =>
    rw [follow?, Option.some_inj, List.foldl_nil]
    exact ⟨fun here => ⟨here.symm, fun _ member => absurd member List.not_mem_nil⟩, fun both => both.1.symm⟩
  | cons piece rest ih =>
    unfold follow?
    by_cases stands : tree.isDirectory start = true
    · rw [if_pos stands, ih]
      simp [passed, stands]
    · rw [if_neg stands]
      simp [passed, stands]

theorem resolve?_eq_placeOf {tree : FileTree} {path : Path} {place : Place}
    (leads : tree.resolve? path = some place) : place = tree.placeOf path := by
  unfold resolve? at leads
  split at leads
  · cases leads
  · exact (follow?_eq_some_iff.mp leads).1

/-! ## Spellings -/

@[simp] theorem step_idle {place : Place} {piece : String} (idle : Path.isIdle piece = true) :
    step place piece = place := by
  simp [step, idle]

theorem foldl_step_filter (place : Place) (pieces : List String) :
    (pieces.filter (!Path.isIdle ·)).foldl step place = pieces.foldl step place := by
  induction pieces generalizing place with
  | nil => rfl
  | cons piece rest ih =>
    by_cases idle : Path.isIdle piece = true
    · simp [idle, ih]
    · simp [idle, ih]

/-- No piece holds a separator. -/
theorem separator_not_mem_of_mem_pieces {path : Path} {piece : String} (member : piece ∈ path.pieces) :
    '/' ∉ piece.toList := by
  obtain ⟨characters, found, rfl⟩ := List.mem_map.mp member
  simpa using not_mem_of_mem_splitOn found

/-- Paths with the same components lead to the same place. -/
theorem placeOf_eq_of_same (tree : FileTree) {first second : Path} (same : first.same second = true) :
    tree.placeOf first = tree.placeOf second := by
  have components : first.components = second.components := by simpa [Path.same] using same
  have relative (path : Path) : "/" ∉ (if path.pieces.head? = some "." then ["."] else [])
      ++ path.pieces.filter (!Path.isIdle ·) := by
    intro member
    rcases List.mem_append.mp member with lead | piece
    · split at lead <;> simp at lead
    · exact separator_not_mem_of_mem_pieces (List.mem_filter.mp piece).1 (by simp)
  have dotless (path : Path) : "." ∉ path.pieces.filter (!Path.isIdle ·) := by
    intro member
    have moves := (List.mem_filter.mp member).2
    simp [Path.isIdle] at moves
  have steps : first.isAbsolute = second.isAbsolute ∧
      first.pieces.filter (!Path.isIdle ·) = second.pieces.filter (!Path.isIdle ·) := by
    have known := relative first
    have other := relative second
    have plain := dotless first
    have clear := dotless second
    unfold Path.components at components
    cases one : first.isAbsolute <;> cases two : second.isAbsolute <;>
      simp only [one, two, Bool.false_eq_true, if_true, if_false] at components
    · refine ⟨rfl, ?_⟩
      split at components <;> split at components <;>
        simp only [List.cons_append, List.nil_append] at components
      · exact (List.cons.inj components).2
      · exact absurd (components ▸ List.mem_cons_self) clear
      · exact absurd (components ▸ List.mem_cons_self) plain
      · exact components
    · exact absurd (components ▸ List.mem_cons_self) known
    · exact absurd (components ▸ List.mem_cons_self) other
    · exact ⟨rfl, (List.cons.inj components).2⟩
  unfold placeOf startOf
  rw [steps.1, ← foldl_step_filter, ← foldl_step_filter _ second.pieces, steps.2]

/-! ## What is found at a path -/

theorem startOf_eq_of_base {before after : FileTree} (base : after.base = before.base) (path : Path) :
    after.startOf path = before.startOf path := by
  simp [startOf, base]

theorem placeOf_eq_of_base {before after : FileTree} (base : after.base = before.base) (path : Path) :
    after.placeOf path = before.placeOf path := by
  simp [placeOf, startOf, base]

theorem lookup?_startOf {tree : FileTree} (based : tree.lookup? tree.base = some .directory) (path : Path) :
    tree.lookup? (tree.startOf path) = some .directory := by
  unfold startOf
  split
  · rfl
  · exact based

theorem find?_eq_some_iff {tree : FileTree} {path : Path} {node : Node} :
    tree.find? path = some node ↔
      (tree.resolve? path).isSome ∧ tree.lookup? (tree.placeOf path) = some node := by
  unfold find?
  cases leads : tree.resolve? path with
  | none => simp
  | some place => simp [resolve?_eq_placeOf leads]

theorem modified?_of_find? {tree : FileTree} {path : Path} {content : Bytes} {time : Nat}
    (found : tree.find? path = some (.file content time)) : tree.modified? path = some time := by
  obtain ⟨place, leads, stands⟩ := Option.bind_eq_some_iff.mp found
  rw [modified?, leads, Option.bind_some, changed?, stands]
  rfl

theorem modified?_of_absent {tree : FileTree} {path : Path}
    (absent : tree.lookup? (tree.placeOf path) = none) : tree.modified? path = none := by
  unfold modified?
  cases leads : tree.resolve? path with
  | none => rfl
  | some place =>
    rw [resolve?_eq_placeOf leads]
    simp [changed?, absent]

theorem read?_eq_some_iff {tree : FileTree} {path : Path} {content : Bytes} :
    tree.read? path = some content ↔ ∃ time, tree.find? path = some (.file content time) := by
  unfold read?
  cases tree.find? path with
  | none => simp
  | some node => cases node <;> simp

/-! ## Trees that grow -/

/-- Directories are still directories and files still files. -/
structure Grows (before after : FileTree) : Prop where
  base : after.base = before.base
  directory : ∀ place, before.lookup? place = some .directory → after.lookup? place = some .directory
  file : ∀ place content time, before.lookup? place = some (.file content time) →
    ∃ content time, after.lookup? place = some (.file content time)

theorem Grows.refl (tree : FileTree) : Grows tree tree :=
  ⟨rfl, fun _ stands => stands, fun _ content time stands => ⟨content, time, stands⟩⟩

theorem Grows.trans {first second third : FileTree} (one : Grows first second)
    (two : Grows second third) : Grows first third where
  base := two.base.trans one.base
  directory place stands := two.directory place (one.directory place stands)
  file place content time stands := by
    obtain ⟨content, time, stands⟩ := one.file place content time stands
    exact two.file place content time stands

theorem isDirectory_iff {tree : FileTree} {place : Place} :
    tree.isDirectory place = true ↔ tree.lookup? place = some .directory := by
  unfold isDirectory
  split <;> simp_all

/-- A path leads somewhere when a directory stands at each place that it leaves behind. -/
theorem resolve?_isSome_iff {tree : FileTree} {path : Path} :
    (tree.resolve? path).isSome ↔ path.text ≠ "" ∧
      ∀ left ∈ tree.passedBy path, tree.lookup? left = some .directory := by
  unfold resolve? passedBy
  by_cases empty : path.text = ""
  · simp [empty]
  · simp [empty, Option.isSome_iff_exists, follow?_eq_some_iff, isDirectory_iff]

theorem Grows.resolve? {before after : FileTree} (grows : Grows before after) {path : Path} {place : Place}
    (leads : before.resolve? path = some place) : after.resolve? path = some place := by
  unfold FileTree.resolve? at leads ⊢
  split at leads
  · cases leads
  · next spelled =>
    obtain ⟨reached, directories⟩ := follow?_eq_some_iff.mp leads
    rw [if_neg spelled, startOf_eq_of_base grows.base]
    exact follow?_eq_some_iff.mpr ⟨reached, fun left member =>
      isDirectory_iff.mpr (grows.directory left (isDirectory_iff.mp (directories left member)))⟩

theorem Grows.find? {before after : FileTree} (grows : Grows before after) {path : Path} {node : Node}
    (found : before.find? path = some node)
    (same : after.lookup? (before.placeOf path) = before.lookup? (before.placeOf path)) :
    after.find? path = some node := by
  obtain ⟨leads, there⟩ := find?_eq_some_iff.mp found
  obtain ⟨place, leads⟩ := Option.isSome_iff_exists.mp leads
  refine find?_eq_some_iff.mpr ⟨by simp [grows.resolve? leads], ?_⟩
  rw [placeOf_eq_of_base grows.base, same, there]

/-! ## Changes to a tree -/

section Changes

variable {tree next : FileTree}

@[simp] theorem lookup?_create_self {place : Place} (below : place ≠ []) (node : Node) :
    (tree.create place node).lookup? place = some node :=
  lookup?_insert_self tree below node

theorem lookup?_create_of_ne {place other : Place} (node : Node) (different : other ≠ place) :
    (tree.create place node).lookup? other = tree.lookup? other :=
  lookup?_insert_of_ne tree node different

theorem ne_nil_of_absent {place : Place} (absent : tree.lookup? place = none) : place ≠ [] := by
  rintro rfl
  simp [lookup?] at absent

/-- A directory is made where nothing was, unless one was there. -/
theorem makeDirectory?_eq_some {place : Place} (made : tree.makeDirectory? place = some next) :
    next = tree ∧ tree.lookup? place = some .directory ∨
      tree.lookup? place = none ∧ next = tree.create place .directory := by
  unfold makeDirectory? at made
  split at made
  next stands => exact .inl ⟨(Option.some.inj made).symm, stands⟩
  next => cases made
  next absent => exact .inr ⟨absent, (Option.some.inj made).symm⟩

theorem lookup?_makeDirectory? {place : Place} (made : tree.makeDirectory? place = some next) :
    next.lookup? place = some .directory := by
  rcases makeDirectory?_eq_some made with ⟨rfl, stands⟩ | ⟨absent, rfl⟩
  · exact stands
  · exact lookup?_create_self (ne_nil_of_absent absent) _

theorem lookup?_makeDirectory?_of_ne {place other : Place} (made : tree.makeDirectory? place = some next)
    (different : other ≠ place) : next.lookup? other = tree.lookup? other := by
  rcases makeDirectory?_eq_some made with ⟨rfl, -⟩ | ⟨-, rfl⟩
  · rfl
  · exact lookup?_create_of_ne _ different

theorem grows_makeDirectory? {place : Place} (made : tree.makeDirectory? place = some next) :
    Grows tree next := by
  rcases makeDirectory?_eq_some made with ⟨rfl, -⟩ | ⟨absent, rfl⟩
  · exact .refl next
  · have elsewhere (other : Place) (node : Node) (stands : tree.lookup? other = some node) :
        (tree.create place .directory).lookup? other = some node := by
      rw [lookup?_create_of_ne, stands]
      rintro rfl
      rw [absent] at stands
      cases stands
    exact ⟨rfl, fun other stands => elsewhere other _ stands,
      fun other content time stands => ⟨content, time, elsewhere other _ stands⟩⟩

/-- Only a file is in the way of a directory. -/
theorem makeDirectory?_eq_none {place : Place} (inTheWay : tree.makeDirectory? place = none) :
    ∃ content time, tree.lookup? place = some (.file content time) := by
  unfold makeDirectory? at inTheWay
  split at inTheWay
  next => cases inTheWay
  next content time stands => exact ⟨content, time, stands⟩
  next => cases inTheWay

theorem put?_eq_none {path : Path} {content : Bytes} (fails : tree.put? path content = none) :
    tree.resolve? path = none ∨ tree.lookup? (tree.placeOf path) = some .directory := by
  unfold put? at fails
  cases leads : tree.resolve? path with
  | none => exact .inl rfl
  | some place =>
    rw [leads, Option.bind_eq_bind, Option.bind_some] at fails
    rw [← resolve?_eq_placeOf leads]
    split at fails
    next stands => exact .inr stands
    next => cases fails
    next => cases fails

/-- What is written stands at the place that the path leads to, where no directory was, and all else is as
it was. -/
theorem put?_eq_some {path : Path} {content : Bytes} (put : tree.put? path content = some next) :
    tree.resolve? path = some (tree.placeOf path) ∧
      tree.lookup? (tree.placeOf path) ≠ some .directory ∧
      next.base = tree.base ∧
      next.lookup? (tree.placeOf path) = some (.file content tree.clock) ∧
      ∀ other, other ≠ tree.placeOf path → next.lookup? other = tree.lookup? other := by
  unfold put? at put
  obtain ⟨place, leads, put⟩ := Option.bind_eq_some_iff.mp put
  rw [← resolve?_eq_placeOf leads]
  refine ⟨leads, ?_⟩
  split at put
  next => cases put
  next stands =>
    cases put
    have below : place ≠ [] := by
      rintro rfl
      simp [lookup?] at stands
    exact ⟨by simp [stands], rfl, lookup?_insert_self tree below _,
      fun other different => lookup?_insert_of_ne tree _ different⟩
  next absent =>
    cases put
    exact ⟨by simp [absent], rfl, lookup?_create_self (ne_nil_of_absent absent) _,
      fun other different => lookup?_create_of_ne _ different⟩

theorem grows_put? {path : Path} {content : Bytes} (put : tree.put? path content = some next) :
    Grows tree next := by
  obtain ⟨-, noDirectory, base, there, elsewhere⟩ := put?_eq_some put
  refine ⟨base, fun place stands => ?_, fun place old time stands => ?_⟩
  · rw [elsewhere place, stands]
    rintro rfl
    exact noDirectory stands
  · by_cases here : place = tree.placeOf path
    · exact ⟨content, tree.clock, here ▸ there⟩
    · exact ⟨old, time, (elsewhere place here).trans stands⟩

theorem find?_of_put? {path : Path} {content : Bytes} (put : tree.put? path content = some next) :
    next.find? path = some (.file content tree.clock) := by
  obtain ⟨leads, -, base, there, -⟩ := put?_eq_some put
  refine find?_eq_some_iff.mpr ⟨by simp [(grows_put? put).resolve? leads], ?_⟩
  rw [placeOf_eq_of_base base]
  exact there

end Changes

end Unannotate.FileTree
