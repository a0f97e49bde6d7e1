import Unannotate.ElementKind
import Unannotate.Text.Quoted

/-!
The element kinds that a rule applies to.
-/
set_option autoImplicit false

namespace Unannotate

inductive TargetsFault
  | unknownKind (name : String)
  | noKinds
  deriving DecidableEq, Repr

namespace TargetsFault

def detail : TargetsFault → String
  | unknownKind name =>
    "unknown element kind " ++ Text.quoted name ++ " (expected one of: " ++ ElementKind.listing ++ ")"
  | noKinds => "rule targets no element kinds"

def message (fault : TargetsFault) : String := "invalid configuration: " ++ fault.detail

end TargetsFault

def ElementKind.ofSpelling (name : String) : Except TargetsFault ElementKind :=
  match ElementKind.ofSpelling? name with
  | some kind => .ok kind
  | none => .error (.unknownKind name)

inductive Targets
  | all
  /-- The listed kinds, as written. -/
  | kinds (listed : List ElementKind)
  deriving DecidableEq, Repr

namespace Targets

/-- Each kind once, where it is listed first. -/
def withoutRepeats (seen : List ElementKind) : List ElementKind → List ElementKind
  | [] => []
  | kind :: rest =>
    if kind ∈ seen then withoutRepeats seen rest else kind :: withoutRepeats (kind :: seen) rest

def toList : Targets → List ElementKind
  | all => ElementKind.all
  | kinds listed => withoutRepeats [] listed

/-- Whether a name stands for every kind. Only ASCII letters have another case here. -/
def isAll (name : String) : Bool := String.ofList (name.toList.map Char.toLower) = "all"

/-- Kinds named before any name for all kinds; that name makes what follows irrelevant. -/
def collect : List String → Except TargetsFault Targets
  | [] => .ok (kinds [])
  | name :: rest =>
    if isAll name then .ok all
    else do
      let kind ← ElementKind.ofSpelling name
      match ← collect rest with
      | all => return all
      | kinds others => return kinds (kind :: others)

def ofNames (names : List String) : Except TargetsFault Targets := do
  match ← collect names with
  | kinds [] => .error .noKinds
  | targets => return targets

end Targets

end Unannotate
