import Unannotate.Bytes
import Unannotate.Failure
import Unannotate.Files.Path

/-!
File trees.

A tree maps places to nodes; a place is the list of names that lead to it from the top. Paths are followed
step by step, and every step but the last has to stand on a directory. The clock of a tree is later than
every change made so far, so what is written last is newest. A directory is changed when something new is put
into it.

A node put at a place is found there, `lookup?_insert_self`, and every other place keeps what it had,
`lookup?_insert_of_ne`.
-/
set_option autoImplicit false

namespace Unannotate

/-- Names from the top of the tree. -/
abbrev Place := List String

inductive Node
  | directory
  | file (content : Bytes) (modified : Nat)
  deriving DecidableEq, Repr

structure FileTree where
  entries : List (Place × Node) := []
  /-- Where relative paths start. -/
  base : Place := []
  clock : Nat := 0
  /-- When directories were changed, last change first. One that is not listed counts as changed just now. -/
  changes : List (Place × Nat) := []
  deriving Repr

namespace FileTree

/-- The node at a place; the top is a directory. -/
def lookup? (tree : FileTree) (place : Place) : Option Node :=
  if place = [] then some .directory
  else (tree.entries.find? (·.1 = place)).map Prod.snd

def isDirectory (tree : FileTree) (place : Place) : Bool :=
  match tree.lookup? place with
  | some .directory => true
  | _ => false

/-- When what stands at a place was changed last. -/
def changed? (tree : FileTree) (place : Place) : Option Nat :=
  (tree.lookup? place).map fun
    | .file _ modified => modified
    | .directory => ((tree.changes.find? (·.1 = place)).map Prod.snd).getD tree.clock

/-- Puts a node at a place, whatever was there. -/
def insert (tree : FileTree) (place : Place) (node : Node) : FileTree :=
  { tree with entries :=
      if tree.entries.any (·.1 = place) then
        tree.entries.map fun entry => if entry.1 = place then (place, node) else entry
      else tree.entries ++ [(place, node)] }

theorem lookup?_insert_self (tree : FileTree) {place : Place} (below : place ≠ []) (node : Node) :
    (tree.insert place node).lookup? place = some node := by
  unfold lookup? insert
  rw [if_neg below]
  by_cases known : tree.entries.any (·.1 = place) = true
  · rw [if_pos known]
    have found : ∀ entries : List (Place × Node), entries.any (·.1 = place) = true →
        ((entries.map fun entry => if entry.1 = place then (place, node) else entry).find?
          (·.1 = place)).map Prod.snd = some node := by
      intro entries
      induction entries with
      | nil => simp
      | cons first rest ih =>
        intro present
        by_cases here : first.1 = place
        · simp [here]
        · have later : rest.any (·.1 = place) = true := by simpa [here] using present
          rw [List.map_cons, if_neg here, List.find?_cons]
          simpa [here] using ih later
    exact found tree.entries known
  · rw [if_neg known]
    have absent : tree.entries.find? (·.1 = place) = none := by
      rw [List.find?_eq_none]
      intro entry member equal
      exact known (List.any_eq_true.mpr ⟨entry, member, equal⟩)
    simp [List.find?_append, absent]

theorem lookup?_insert_of_ne (tree : FileTree) {place other : Place} (node : Node)
    (different : other ≠ place) : (tree.insert place node).lookup? other = tree.lookup? other := by
  unfold lookup? insert
  by_cases top : other = []
  · rw [if_pos top, if_pos top]
  · rw [if_neg top, if_neg top]
    by_cases known : tree.entries.any (·.1 = place) = true
    · rw [if_pos known]
      have kept : ∀ entries : List (Place × Node),
          ((entries.map fun entry => if entry.1 = place then (place, node) else entry).find?
            (·.1 = other)) = entries.find? (·.1 = other) := by
        intro entries
        induction entries with
        | nil => rfl
        | cons first rest ih =>
          by_cases here : first.1 = place
          · simp [here, Ne.symm different, ih]
          · simp [here, List.find?_cons, ih]
      rw [kept]
    · rw [if_neg known]
      simp [List.find?_append, Ne.symm different]

/-- Puts a node where nothing is, which changes the directory that it is put into. -/
def create (tree : FileTree) (place : Place) (node : Node) : FileTree :=
  { tree.insert place node with
    clock := tree.clock + 1
    changes := (place, tree.clock) :: (place.dropLast, tree.clock) :: tree.changes }

/-! ## Following paths -/

/-- The place that a step leads to from a directory. -/
def step (place : Place) (piece : String) : Place :=
  if Path.isIdle piece then place
  else if piece = ".." then place.dropLast
  else place ++ [piece]

def follow? (tree : FileTree) : Place → List String → Option Place
  | place, [] => some place
  | place, piece :: rest =>
    if tree.isDirectory place then tree.follow? (step place piece) rest else none

def startOf (tree : FileTree) (path : Path) : Place := if path.isAbsolute then [] else tree.base

/-- The place that a path leads to. Nothing has to be there. -/
def resolve? (tree : FileTree) (path : Path) : Option Place :=
  if path.text = "" then none else tree.follow? (tree.startOf path) path.pieces

def find? (tree : FileTree) (path : Path) : Option Node := (tree.resolve? path).bind tree.lookup?

def modified? (tree : FileTree) (path : Path) : Option Nat := (tree.resolve? path).bind tree.changed?

def read? (tree : FileTree) (path : Path) : Option Bytes :=
  match tree.find? path with
  | some (.file content _) => some content
  | _ => none

/-! ## Listing -/

/-- Whether names come before others, or are the same. -/
def inOrder : Place → Place → Bool
  | [], _ => true
  | _ :: _, [] => false
  | first :: rest, other :: others => if first = other then inOrder rest others else first < other

/-- The names that lead from a directory to each file below it, in ascending order. -/
def filesBelow (tree : FileTree) (directory : Place) : List Place :=
  let below := tree.entries.filterMap fun entry =>
    match entry.2 with
    | .directory => none
    | .file _ _ =>
      if directory.isPrefixOf entry.1 then some (entry.1.drop directory.length) else none
  below.mergeSort inOrder

/-! ## Writing -/

/-- Makes a directory where nothing is; none where a file is in the way. -/
def makeDirectory? (tree : FileTree) (place : Place) : Option FileTree :=
  match tree.lookup? place with
  | some .directory => some tree
  | some (.file _ _) => none
  | none => some (tree.create place .directory)

/-- Makes the directories on the way of some steps as far as no file is in the way, and whether none is. -/
def makeDirectories (tree : FileTree) (place : Place) : List String → FileTree × Bool
  | [] => (tree, true)
  | piece :: rest =>
    match tree.makeDirectory? (step place piece) with
    | none => (tree, false)
    | some tree => tree.makeDirectories (step place piece) rest

/-- Gives the file that a path leads to its content; none where the path leads nowhere or to a directory. -/
def put? (tree : FileTree) (path : Path) (content : Bytes) : Option FileTree := do
  let place ← tree.resolve? path
  match tree.lookup? place with
  | some .directory => none
  | some (.file _ _) =>
    return { tree.insert place (.file content tree.clock) with clock := tree.clock + 1 }
  | none => return tree.create place (.file content tree.clock)

/-- Gives a file its content, once the directories above it are made. Those that were made stay, even if
the file cannot be written then. -/
def write (tree : FileTree) (path : Path) (content : Bytes) : FileTree × Except Failure Unit :=
  match tree.makeDirectories (tree.startOf path) path.parentSteps with
  | (tree, false) => (tree, .error ⟨[.creating path.parent.text], .io⟩)
  | (tree, true) =>
    match tree.put? path content with
    | none => (tree, .error ⟨[.writing path.text], .io⟩)
    | some tree => (tree, .ok ())

end FileTree

end Unannotate
