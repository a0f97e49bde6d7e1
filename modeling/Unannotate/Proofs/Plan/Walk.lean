import Unannotate.Proofs.Files.Joined
import Unannotate.Proofs.Workers.Target

/-!
# Walking down a directory

A directory is walked entry by entry, in the order of the names, and each directory in it is walked where
it is met. This lists the files below the directory in ascending order of their paths, every one of them
once, whatever order the entries of the directories are given in: it is what the plan lists at once,
`walk_eq_filesBelow`. An entry that is the target directory is passed over, with everything below it.
-/
set_option autoImplicit false

namespace Unannotate.FileTree

/-! ## Trees as a file system has them -/

/-- Each place is named once, with names as directories list them, inside of a directory. -/
structure IsFormed (tree : FileTree) : Prop where
  named : tree.Named
  once : (tree.entries.map (·.1)).Nodup
  parents : ∀ entry ∈ tree.entries, entry.1 ≠ [] ∧ tree.lookup? entry.1.dropLast = some .directory

instance (tree : FileTree) : Decidable tree.IsFormed :=
  decidable_of_iff (tree.Named ∧ (tree.entries.map (·.1)).Nodup ∧
      ∀ entry ∈ tree.entries, entry.1 ≠ [] ∧ tree.lookup? entry.1.dropLast = some .directory)
    ⟨fun all => ⟨all.1, all.2.1, all.2.2⟩, fun formed => ⟨formed.named, formed.once, formed.parents⟩⟩

/-- A file stands at this place. -/
def IsFile (tree : FileTree) (place : Place) : Prop :=
  ∃ content time, tree.lookup? place = some (.file content time)

namespace IsFormed

variable {tree : FileTree} {place : Place} {node : Node}

theorem lookup?_eq_some_iff (formed : tree.IsFormed) (below : place ≠ []) :
    tree.lookup? place = some node ↔ (place, node) ∈ tree.entries := by
  rw [lookup?, if_neg below, Option.map_eq_some_iff]
  constructor
  · rintro ⟨⟨place', node'⟩, found, rfl⟩
    obtain rfl : place' = place := by simpa using List.find?_some found
    exact List.mem_of_find?_eq_some found
  · intro member
    cases found : tree.entries.find? (·.1 = place) with
    | none =>
      rw [List.find?_eq_none] at found
      exact absurd (decide_eq_true rfl) (found _ member)
    | some entry =>
      have same : entry.1 = (place, node).1 := by simpa using List.find?_some found
      have here := List.inj_on_of_nodup_map formed.once (List.mem_of_find?_eq_some found) member same
      exact ⟨entry, rfl, by rw [here]⟩

/-- What stands below a place stands in a directory. -/
theorem directory_above (formed : tree.IsFormed) {names : Place} (below : names ≠ [])
    (stands : tree.lookup? (place ++ names) = some node) : tree.lookup? place = some .directory := by
  induction names using List.reverseRecOn generalizing node with
  | nil => exact absurd rfl below
  | append_singleton front last ih =>
    rw [← List.append_assoc] at stands
    obtain ⟨-, parent⟩ := formed.parents _ ((formed.lookup?_eq_some_iff (by simp)).mp stands)
    rw [List.dropLast_concat] at parent
    by_cases only : front = []
    · rwa [only, List.append_nil] at parent
    · exact ih only parent

theorem isName_of_lookup? (formed : tree.IsFormed) {names : Place}
    (stands : tree.lookup? (place ++ names) = some node) : ∀ name ∈ names, Path.IsName name := by
  intro name member
  have below : place ++ names ≠ [] := List.append_ne_nil_of_right_ne_nil _ (List.ne_nil_of_mem member)
  exact formed.named _ ((formed.lookup?_eq_some_iff below).mp stands) name (List.mem_append_right _ member)

/-- The files below a directory are listed. -/
theorem mem_filesBelow_iff (formed : tree.IsFormed) (directory : tree.lookup? place = some .directory)
    {names : Place} : names ∈ tree.filesBelow place ↔ names ≠ [] ∧ tree.IsFile (place ++ names) := by
  rw [mem_filesBelow]
  constructor
  · rintro ⟨content, time, member⟩
    have stands := (formed.lookup?_eq_some_iff (formed.parents _ member).1).mpr member
    refine ⟨?_, content, time, stands⟩
    rintro rfl
    rw [List.append_nil, directory] at stands
    cases stands
  · rintro ⟨below, content, time, stands⟩
    exact ⟨content, time,
      (formed.lookup?_eq_some_iff (List.append_ne_nil_of_right_ne_nil _ below)).mp stands⟩

theorem nodup_filesBelow (formed : tree.IsFormed) (place : Place) : (tree.filesBelow place).Nodup := by
  rw [filesBelow, (List.mergeSort_perm _ _).nodup_iff, List.Nodup, List.pairwise_filterMap]
  refine (List.pairwise_map.mp formed.once).imp ?_
  rintro ⟨first, _ | ⟨_, _⟩⟩ ⟨second, _ | ⟨_, _⟩⟩ differ names listed names' listed' rfl <;> dsimp at listed listed'
  · cases listed
  · cases listed
  · cases listed'
  · split at listed
    · next front =>
      split at listed'
      · next front' =>
        refine differ ?_
        rw [← List.prefix_iff_eq_append.mp (List.isPrefixOf_iff_prefix.mp front),
          ← List.prefix_iff_eq_append.mp (List.isPrefixOf_iff_prefix.mp front'), Option.some.inj listed,
          Option.some.inj listed']
      · cases listed'
    · cases listed

end IsFormed

/-! ## The walk -/

/-- What a directory holds, by name, in any order. -/
structure Lists (tree : FileTree) (listing : Place → List (String × Node)) : Prop where
  once : ∀ place, tree.lookup? place = some .directory → ((listing place).map (·.1)).Nodup
  mem_iff : ∀ place, tree.lookup? place = some .directory → ∀ name node,
    (name, node) ∈ listing place ↔ tree.lookup? (place ++ [name]) = some node

/-- The entries of a directory, as the tree has them. -/
def entriesAt (tree : FileTree) (place : Place) : List (String × Node) :=
  tree.entries.filterMap fun entry =>
    if entry.1.dropLast = place then entry.1.getLast?.map (·, entry.2) else none

theorem IsFormed.lists_entriesAt {tree : FileTree} (formed : tree.IsFormed) : tree.Lists tree.entriesAt := by
  have gives {entry : Place × Node} {place : Place} {listed : String × Node}
      (given : (if entry.1.dropLast = place then entry.1.getLast?.map (·, entry.2) else none) = some listed) :
      entry = (place ++ [listed.1], listed.2) := by
    split at given
    · next above =>
      obtain ⟨name, last, rfl⟩ := Option.map_eq_some_iff.mp given
      rw [← above, List.dropLast_append_getLast? name last]
    · cases given
  constructor
  · intro place _
    rw [entriesAt, List.map_filterMap, List.Nodup, List.pairwise_filterMap]
    refine (List.pairwise_map.mp formed.once).imp ?_
    rintro first second differ name given name' given' rfl
    obtain ⟨listed, here, same⟩ := Option.map_eq_some_iff.mp given
    obtain ⟨listed', here', same'⟩ := Option.map_eq_some_iff.mp given'
    rw [gives here, gives here', same, same'] at differ
    exact differ rfl
  · intro place _ name node
    rw [formed.lookup?_eq_some_iff (by simp), entriesAt, List.mem_filterMap]
    constructor
    · rintro ⟨entry, member, given⟩
      rwa [gives given] at member
    · intro member
      exact ⟨_, member, by simp⟩

/-- The entries of a directory, in the order of their names. -/
def sortedEntries (entries : List (String × Node)) : List (String × Node) :=
  entries.mergeSort fun first second => first.1 ≤ second.1

/-- The files of a directory and of those below it, which are at most this many levels deep. The path leads
to the place. -/
def collect (listing : Place → List (String × Node)) (target : Option Path) :
    (levels : Nat) → Place → Path → List Path
  | 0, _, _ => []
  | levels + 1, place, path =>
    (sortedEntries (listing place)).flatMap fun (name, node) =>
      let entry := path.join name
      if target.any entry.same then []
      else match node with
        | .directory => collect listing target levels (place ++ [name]) entry
        | .file _ _ => [entry]

/-- The same walk by the names that lead down from a directory. -/
def walk (listing : Place → List (String × Node)) (skips : Place → Bool) (place : Place) :
    (levels : Nat) → Place → List Place
  | 0, _ => []
  | levels + 1, names =>
    (sortedEntries (listing (place ++ names))).flatMap fun (name, node) =>
      if skips (names ++ [name]) then []
      else match node with
        | .directory => walk listing skips place levels (names ++ [name])
        | .file _ _ => [names ++ [name]]

/-! ## What the walk lists -/

section Listed

variable {tree : FileTree} {listing : Place → List (String × Node)} {skips : Place → Bool} {place : Place}

/-- None of the places on the way down is passed over. -/
def Clear (skips : Place → Bool) (names more : Place) : Prop :=
  ∀ front, front ≠ [] → front <+: more → skips (names ++ front) = false

theorem clear_cons_iff {names more : Place} {name : String} :
    Clear skips names (name :: more) ↔ skips (names ++ [name]) = false ∧ Clear skips (names ++ [name]) more := by
  constructor
  · intro clear
    refine ⟨clear [name] (by simp) (by simp), fun front below before => ?_⟩
    rw [List.append_assoc]
    exact clear (name :: front) (by simp) ((List.prefix_cons_inj name).mpr before)
  · rintro ⟨here, later⟩ front below before
    obtain rfl | ⟨rest, rfl, behind⟩ := List.prefix_cons_iff.mp before
    · exact absurd rfl below
    · by_cases last : rest = []
      · rw [last]
        exact here
      · have clear := later rest last behind
        rwa [List.append_assoc] at clear

theorem mem_walk_iff (formed : tree.IsFormed) (lists : tree.Lists listing) {levels : Nat} {names file : Place}
    (directory : tree.lookup? (place ++ names) = some .directory) :
    file ∈ walk listing skips place levels names ↔ ∃ more, more ≠ [] ∧ more.length ≤ levels ∧
      file = names ++ more ∧ tree.IsFile (place ++ file) ∧ Clear skips names more := by
  induction levels generalizing names with
  | zero =>
    refine iff_of_false (by simp [walk]) ?_
    rintro ⟨more, below, short, -⟩
    exact below (List.length_eq_zero_iff.mp (Nat.le_zero.mp short))
  | succ levels ih =>
    rw [walk, List.mem_flatMap]
    constructor
    · rintro ⟨⟨name, node⟩, inside, walked⟩
      rw [sortedEntries, List.mem_mergeSort, lists.mem_iff _ directory, List.append_assoc] at inside
      dsimp only at walked
      split at walked
      · cases walked
      · next kept =>
        have kept := Bool.eq_false_iff.mpr kept
        cases node with
        | directory =>
          obtain ⟨more, below, short, rfl, isFile, clear⟩ := (ih inside).mp walked
          exact ⟨name :: more, by simp, by simpa using short, by simp, isFile, clear_cons_iff.mpr ⟨kept, clear⟩⟩
        | file content time =>
          obtain rfl := List.mem_singleton.mp walked
          exact ⟨[name], by simp, by simp, rfl, ⟨content, time, inside⟩, clear_cons_iff.mpr
            ⟨kept, fun front below before => absurd (List.prefix_nil.mp before) below⟩⟩
    · rintro ⟨_ | ⟨name, more⟩, below, short, rfl, isFile, clear⟩
      · exact absurd rfl below
      · obtain ⟨kept, clear⟩ := clear_cons_iff.mp clear
        obtain ⟨content, time, stands⟩ := isFile
        by_cases last : more = []
        · subst last
          refine ⟨(name, .file content time), ?_, ?_⟩
          · rw [sortedEntries, List.mem_mergeSort, lists.mem_iff _ directory, List.append_assoc]
            exact stands
          · simp [kept]
        · have inner : tree.lookup? (place ++ (names ++ [name])) = some .directory := by
            have below : tree.lookup? (place ++ (names ++ [name]) ++ more) = some (.file content time) := by
              rw [← stands]
              simp
            exact formed.directory_above last below
          refine ⟨(name, .directory), ?_, ?_⟩
          · rw [sortedEntries, List.mem_mergeSort, lists.mem_iff _ directory, List.append_assoc]
            exact inner
          · have walked : names ++ name :: more ∈ walk listing skips place levels (names ++ [name]) :=
              (ih inner).mpr ⟨more, last, by simpa using short, by simp, ⟨content, time, stands⟩, clear⟩
            simpa [kept] using walked

/-! ## The order of the walk -/

/-- One place comes before another one in component-wise order. -/
def Ahead (first second : Place) : Prop := inOrder first second = true ∧ first ≠ second

theorem inOrder_append_left (front first second : Place) :
    inOrder (front ++ first) (front ++ second) = inOrder first second := by
  induction front with
  | nil => rfl
  | cons name front ih => rw [List.cons_append, List.cons_append, inOrder, if_pos rfl, ih]

theorem ahead_append_left_iff {front first second : Place} :
    Ahead (front ++ first) (front ++ second) ↔ Ahead first second := by
  rw [Ahead, Ahead, inOrder_append_left, ne_eq, List.append_cancel_left_eq]

theorem ahead_cons {name name' : String} (before : name < name') (rest rest' : Place) :
    Ahead (name :: rest) (name' :: rest') := by
  have differ : name ≠ name' := by
    rintro rfl
    exact String.lt_irrefl name before
  constructor
  · rw [inOrder, if_neg differ]
    exact decide_eq_true before
  · exact fun same => differ (List.cons.inj same).1

theorem exists_append_of_mem_walk {levels : Nat} {names file : Place}
    (walked : file ∈ walk listing skips place levels names) : ∃ more, file = names ++ more := by
  induction levels generalizing names with
  | zero => cases walked
  | succ levels ih =>
    obtain ⟨⟨name, node⟩, -, walked⟩ := List.mem_flatMap.mp walked
    dsimp only at walked
    split at walked
    · cases walked
    · cases node with
      | directory =>
        obtain ⟨more, rfl⟩ := ih walked
        exact ⟨name :: more, by simp⟩
      | file content time => exact ⟨[name], List.mem_singleton.mp walked⟩

theorem pairwise_sortedEntries {entries : List (String × Node)} (once : (entries.map (·.1)).Nodup) :
    (sortedEntries entries).Pairwise fun first second => first.1 < second.1 := by
  have sorted : (sortedEntries entries).Pairwise fun first second => decide (first.1 ≤ second.1) = true := by
    refine List.pairwise_mergeSort ?_ ?_ entries
    · intro first second third one two
      exact decide_eq_true (String.le_trans (of_decide_eq_true one) (of_decide_eq_true two))
    · intro first second
      simpa using String.le_total first.1 second.1
  have differ : (sortedEntries entries).Pairwise fun first second => first.1 ≠ second.1 :=
    List.pairwise_map.mp (((List.mergeSort_perm entries _).map Prod.fst).nodup_iff.mpr once)
  refine (sorted.and differ).imp ?_
  rintro first second ⟨before, notSame⟩
  by_contra notLess
  exact notSame (String.le_antisymm (of_decide_eq_true before) (String.not_lt.mp notLess))

/-- The walk goes up. -/
theorem pairwise_walk (lists : tree.Lists listing) {levels : Nat} {names : Place}
    (directory : tree.lookup? (place ++ names) = some .directory) :
    (walk listing skips place levels names).Pairwise Ahead := by
  induction levels generalizing names with
  | zero => exact .nil
  | succ levels ih =>
    rw [walk, List.pairwise_flatMap]
    constructor
    · rintro ⟨name, node⟩ inside
      rw [sortedEntries, List.mem_mergeSort, lists.mem_iff _ directory, List.append_assoc] at inside
      dsimp only
      split
      · exact .nil
      · cases node with
        | directory => exact ih inside
        | file content time => exact List.pairwise_singleton _ _
    · -- What is listed of two entries differs in their names first.
      refine (pairwise_sortedEntries (lists.once _ directory)).imp ?_
      have behind {entry : String × Node} {file : Place}
          (walked : file ∈ if skips (names ++ [entry.1]) then [] else match entry.2 with
            | .directory => walk listing skips place levels (names ++ [entry.1])
            | .file _ _ => [names ++ [entry.1]]) : ∃ more, file = names ++ entry.1 :: more := by
        obtain ⟨name, node⟩ := entry
        dsimp only at walked
        split at walked
        · cases walked
        · cases node with
          | directory =>
            obtain ⟨more, rfl⟩ := exists_append_of_mem_walk walked
            exact ⟨more, by simp⟩
          | file content time => exact ⟨[], List.mem_singleton.mp walked⟩
      rintro first second before file walked file' walked'
      obtain ⟨more, rfl⟩ := behind walked
      obtain ⟨more', rfl⟩ := behind walked'
      exact ahead_append_left_iff.mpr (ahead_cons before more more')

/-! ## The walk and the plan's listing -/

theorem pairwise_filesBelow (formed : tree.IsFormed) (place : Place) :
    (tree.filesBelow place).Pairwise Ahead := by
  have sorted : (tree.filesBelow place).Pairwise (inOrder · · = true) := by
    refine List.pairwise_mergeSort ?_ inOrder_total _
    intro first second third one two
    exact inOrder_trans one two
  exact sorted.and (formed.nodup_filesBelow place)

/-- Lists that go up are the same where they hold the same places. -/
theorem eq_of_pairwise_ahead {files files' : List Place} (ascending : files.Pairwise Ahead)
    (ascending' : files'.Pairwise Ahead) (same : ∀ file, file ∈ files ↔ file ∈ files') : files = files' := by
  have once {files : List Place} (ascending : files.Pairwise Ahead) : files.Nodup := ascending.imp And.right
  have perm := (List.perm_ext_iff_of_nodup (once ascending) (once ascending')).mpr same
  refine perm.eq_of_pairwise ?_ ascending ascending'
  intro first second _ _ one two
  exact inOrder_antisymm one.1 two.1

/-- The walk lists what the plan lists at once, but for what it passes over. -/
theorem walk_eq_filesBelow (formed : tree.IsFormed) (lists : tree.Lists listing)
    (directory : tree.lookup? place = some .directory) {levels : Nat}
    (deep : ∀ entry ∈ tree.entries, entry.1.length ≤ levels) {keeps : Place → Bool}
    (kept : ∀ names, tree.IsFile (place ++ names) → (keeps names = true ↔ Clear skips [] names)) :
    walk listing skips place levels [] = (tree.filesBelow place).filter keeps := by
  have here : tree.lookup? (place ++ []) = some .directory := by rwa [List.append_nil]
  refine eq_of_pairwise_ahead (pairwise_walk lists here) ((pairwise_filesBelow formed place).filter _) ?_
  intro file
  rw [mem_walk_iff formed lists here, List.mem_filter, formed.mem_filesBelow_iff directory]
  constructor
  · rintro ⟨more, below, -, rfl, isFile, clear⟩
    exact ⟨⟨below, isFile⟩, (kept _ isFile).mpr clear⟩
  · rintro ⟨⟨below, isFile⟩, keep⟩
    refine ⟨file, below, ?_, rfl, isFile, (kept file isFile).mp keep⟩
    obtain ⟨content, time, stands⟩ := isFile
    have member := (formed.lookup?_eq_some_iff (List.append_ne_nil_of_right_ne_nil _ below)).mp stands
    have short := deep _ member
    rw [List.length_append] at short
    omega

end Listed

/-! ## Paths of the walk -/

section Paths

variable {listing : Place → List (String × Node)} {input : Path}

/-- The path of what is below an input, and of the input itself. -/
def pathBelow (input : Path) (names : Place) : Path :=
  if names = [] then input else input.join (Path.ofNames names)

theorem join_pathBelow {names : Place} (named : ∀ name ∈ names, Path.IsName name) (name : String) :
    (pathBelow input names).join name = input.join (Path.ofNames (names ++ [name])) := by
  unfold pathBelow
  split
  · next top =>
    rw [top]
    simp [Path.ofNames]
  · next below => exact input.join_join below named name

/-- The walk by paths is the walk by names. -/
theorem collect_eq_map_walk {tree : FileTree} (target : Option Path) (input : Path)
    (formed : tree.IsFormed) (lists : tree.Lists listing) {place names : Place} (levels : Nat)
    (directory : tree.lookup? (place ++ names) = some .directory) :
    collect listing target levels (place ++ names) (pathBelow input names)
      = (walk listing (fun below => target.any (pathBelow input below).same) place levels names).map
          (pathBelow input) := by
  have named := formed.isName_of_lookup? directory
  induction levels generalizing names with
  | zero => rfl
  | succ levels ih =>
    rw [collect, walk, List.map_flatMap]
    refine List.flatMap_congr ?_
    rintro ⟨name, node⟩ inside
    rw [sortedEntries, List.mem_mergeSort, lists.mem_iff _ directory, List.append_assoc] at inside
    have entry : (pathBelow input names).join name = pathBelow input (names ++ [name]) := by
      rw [join_pathBelow named, pathBelow, if_neg (by simp)]
    dsimp only
    rw [entry]
    split
    · rfl
    · cases node with
      | directory =>
        dsimp only
        rw [List.append_assoc]
        exact ih inside (formed.isName_of_lookup? inside)
      | file content time => rfl

end Paths

end Unannotate.FileTree
