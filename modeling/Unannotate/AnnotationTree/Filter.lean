import Unannotate.AnnotationTree.Basic

/-!
Dropping annotations from an attribute body.

Each annotation is offered once, in order, to a decision that may keep a record of what it was asked;
the decision is therefore an action of a monad. A body that loses nothing stays as it is, and one that
loses everything goes away as a whole.
-/
set_option autoImplicit false

namespace Unannotate

/-- What remains of an attribute body. -/
inductive FilterOutcome
  | unchanged
  | replaced (info : Bytes)
  | emptied
  deriving DecidableEq, Repr

namespace AnnotationTree

variable {m : Type → Type} [Monad m]

/-- The annotations of a list that are not rejected, each asked for once and in order. -/
def survivors (reject : UInt16 → m Bool) : List AnnotationTree → m (List AnnotationTree)
  | [] => pure []
  | tree :: rest => do
    let rejected ← reject tree.typeIndex
    let kept ← survivors reject rest
    return if rejected then kept else tree :: kept

def filter (reject : UInt16 → m Bool) (trees : List AnnotationTree) : m FilterOutcome := do
  let kept ← survivors reject trees
  return if kept.length = trees.length then .unchanged
    else if kept.isEmpty then .emptied
    else .replaced (encodeList kept)

/-- Filters the annotations of a body. All of it is read before the first annotation is asked about. -/
def filterBody (reject : UInt16 → m Bool) (info : Bytes) : Except Malformation (m FilterOutcome) := do
  let trees ← parseList info
  return filter reject trees

/-- Survivors of each parameter's list; the lists are numbered from `first` on. -/
def parameterSurvivors (reject : UInt8 → UInt16 → m Bool) :
    (first : Nat) → List (List AnnotationTree) → m (List (List AnnotationTree))
  | _, [] => pure []
  | first, trees :: rest => do
    let kept ← survivors (reject (UInt8.ofNat first)) trees
    let others ← parameterSurvivors reject (first + 1) rest
    return kept :: others

/-- The number of parameters is kept; a parameter that loses all its annotations keeps an empty list. -/
def filterParameters (reject : UInt8 → UInt16 → m Bool) (parameters : List (List AnnotationTree)) :
    m FilterOutcome := do
  let kept ← parameterSurvivors reject 0 parameters
  return if kept.flatten.length = parameters.flatten.length then .unchanged
    else if kept.flatten.isEmpty then .emptied
    else .replaced (encodeParameters kept)

/-- Filters the annotations of a body that has a list of them for each parameter. -/
def filterParametersBody (reject : UInt8 → UInt16 → m Bool) (info : Bytes) :
    Except Malformation (m FilterOutcome) := do
  let parameters ← parseParameters info
  return filterParameters reject parameters

end AnnotationTree

end Unannotate
