import Mathlib.Data.Char
import Unannotate.Endpoint.Percent

/-!
# Encoded parts of addresses

What encoding writes is a percent sign or a digit, and no part of an address asks to have these encoded.
Encoding a part therefore leaves nothing to encode in it, and doing it again changes nothing. What is
not encoded in a part is visible and ends neither the part nor those around it.
-/
set_option autoImplicit false

namespace Unannotate

/-- A character that is not ignored and does not end the authority of an address. -/
def InAuthority (character : Char) : Prop := ' ' < character ∧ character ∉ "/\\?#".toList

instance (character : Char) : Decidable (InAuthority character) :=
  inferInstanceAs (Decidable (_ ∧ _))

namespace Percent

/-- Nothing is left in a text that would be encoded. -/
def IsEncoded (set : Char → Bool) (text : List Char) : Prop :=
  ∀ character ∈ text, set character = false

/-- What bytes are written with. -/
def codeCharacters : List Char := "%0123456789ABCDEF".toList

section Codes

variable {set : Char → Bool} {character : Char} {text : List Char}

theorem mem_encodeByte {byte : UInt8} (member : character ∈ encodeByte byte) :
    character ∈ codeCharacters := by
  have digit : ∀ value ∈ List.range 16, (Nat.digitChar value).toUpper ∈ codeCharacters := by
    decide
  have bound := byte.toNat_lt
  simp only [encodeByte, List.mem_cons, List.not_mem_nil, or_false] at member
  obtain rfl | rfl | rfl := member
  · decide
  · exact digit _ (List.mem_range.mpr (by omega))
  · exact digit _ (List.mem_range.mpr (by omega))

/-- An encoded text holds codes and what was not to be encoded. -/
theorem mem_encode (member : character ∈ encode set text) :
    character ∈ codeCharacters ∨ character ∈ text ∧ set character = false := by
  obtain ⟨source, held, written⟩ := List.mem_flatMap.mp member
  unfold encodeChar at written
  split at written
  · obtain ⟨byte, -, inCode⟩ := List.mem_flatMap.mp written
    exact .inl (mem_encodeByte inCode)
  · next plain =>
    obtain rfl := List.mem_singleton.mp written
    exact .inr ⟨held, by simpa using plain⟩

theorem isEncoded_encode (spares : codeCharacters.all (!set ·) = true) (text : List Char) :
    IsEncoded set (encode set text) := by
  intro character member
  obtain isCode | ⟨-, plain⟩ := mem_encode member
  · simpa using List.all_eq_true.mp spares character isCode
  · exact plain

theorem not_mem_encode {mark : Char} (noCode : mark ∉ codeCharacters) (absent : mark ∉ text) :
    mark ∉ encode set text := by
  intro member
  obtain isCode | ⟨held, -⟩ := mem_encode member
  · exact noCode isCode
  · exact absent held

end Codes

/-! ## The parts of an address -/

theorem isEncoded_userInfo (text : List Char) : IsEncoded userInfo (encode userInfo text) :=
  isEncoded_encode (by decide) text

theorem isEncoded_path (text : List Char) : IsEncoded path (encode path text) :=
  isEncoded_encode (by decide) text

theorem isEncoded_query (text : List Char) : IsEncoded query (encode query text) :=
  isEncoded_encode (by decide) text

theorem isEncoded_fragment (text : List Char) : IsEncoded fragment (encode fragment text) :=
  isEncoded_encode (by decide) text

section Plain

variable {character : Char}

theorem visible_of_control (plain : control character = false) (noSpace : character ≠ ' ') :
    ' ' < character := by
  simp only [control, Bool.or_eq_false_iff, decide_eq_false_iff_not] at plain
  exact lt_of_le_of_ne (not_lt.mp plain.1) noSpace.symm

theorem visible_of_fragment (plain : fragment character = false) : ' ' < character := by
  simp only [fragment, Bool.or_eq_false_iff] at plain
  refine visible_of_control plain.1 ?_
  rintro rfl
  exact absurd plain.2 (by decide)

theorem plain_of_query (plain : query character = false) : ' ' < character ∧ character ≠ '#' := by
  simp only [query, Bool.or_eq_false_iff] at plain
  refine ⟨visible_of_control plain.1 ?_, ?_⟩
  all_goals
    rintro rfl
    exact absurd plain.2 (by decide)

theorem plain_of_path (plain : path character = false) :
    ' ' < character ∧ character ≠ '#' ∧ character ≠ '?' := by
  simp only [path, Bool.or_eq_false_iff] at plain
  refine ⟨visible_of_fragment plain.1, ?_, ?_⟩
  all_goals
    rintro rfl
    exact absurd plain.2 (by decide)

theorem plain_of_userInfo (plain : userInfo character = false) :
    InAuthority character ∧ character ≠ '@' ∧ character ≠ ':' := by
  have inPath : path character = false := by
    simp only [userInfo, Bool.or_eq_false_iff] at plain
    exact plain.1
  have marked {mark : Char} (encoded : userInfo mark = true) : character ≠ mark := by
    rintro rfl
    rw [plain] at encoded
    cases encoded
  have ends : "/\\?#".toList.all userInfo = true := by
    decide
  exact ⟨⟨(plain_of_path inPath).1,
      fun member => marked (List.all_eq_true.mp ends character member) rfl⟩,
    marked (by decide), marked (by decide)⟩

end Plain

end Percent

end Unannotate
