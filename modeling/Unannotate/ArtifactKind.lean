/-!
Artifacts that are purged, told apart by the ends of their names.

A name ends in a suffix up to the case of ASCII letters, `endsWith_iff`; nothing in front of it matters.
-/
set_option autoImplicit false

namespace Unannotate

/-- Whether the last characters spell a suffix given in lower case. -/
def endsWith (suffix name : List Char) : Bool :=
  suffix.reverse.isPrefixOf (name.reverse.map Char.toLower)

def classSuffix : List Char := ".class".toList

def archiveSuffixes : List (List Char) := [".jar", ".war", ".ear", ".zip"].map String.toList

def isClass (name : String) : Bool := endsWith classSuffix name.toList

def isArchive (name : String) : Bool := archiveSuffixes.any (endsWith · name.toList)

inductive ArtifactKind
  | classFile
  | archive
  deriving DecidableEq, Repr

/-- None for a name that is left alone. -/
def ArtifactKind.ofName? (name : String) : Option ArtifactKind :=
  if isClass name then some classFile
  else if isArchive name then some archive
  else none

theorem endsWith_iff (suffix name : List Char) :
    endsWith suffix name = true ↔
      ∃ front back, name = front ++ back ∧ back.map Char.toLower = suffix := by
  rw [endsWith, List.isPrefixOf_iff_prefix, List.map_reverse, List.reverse_prefix]
  constructor
  · rintro ⟨front, shape⟩
    obtain ⟨first, second, rfl, _, lowered⟩ := List.map_eq_append_iff.mp shape.symm
    exact ⟨first, second, rfl, lowered⟩
  · rintro ⟨front, back, rfl, rfl⟩
    exact ⟨front.map Char.toLower, by simp⟩

end Unannotate
