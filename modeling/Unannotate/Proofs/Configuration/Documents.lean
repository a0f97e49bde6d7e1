import Unannotate.Proofs.Configuration.Fields
import Unannotate.Proofs.Json.Texts

/-!
# A configuration is the document at the front of its text

A text that is accepted as a configuration begins with one JSON value, an object or an array that is read
to its end, and this value alone decides. What stands behind it is never looked at, so an accepted text is
a JSON document only where nothing but blanks follow.
-/
set_option autoImplicit false

namespace Unannotate

namespace Json

/-- An array or object that was read to its end. -/
inductive IsClosed : Json → Prop
  | array (items : List Json) : IsClosed (.array items true)
  | object (members : List (Option String × Json)) : IsClosed (.object members true)

theorem IsClosed.ne_number {value : Json} (isClosed : value.IsClosed) (number : NumberText) :
    value ≠ .number number := by
  cases isClosed <;> rintro ⟨⟩

/-- The reader knows where a closed value ends. -/
theorem IsClosed.exists_behind {fuel : Nat} {text : List Char} {value : Json} {end' : Option (List Char)}
    (isClosed : value.IsClosed) (found : read fuel text = (value, end')) : ∃ behind, end' = some behind := by
  cases fuel with
  | zero =>
    cases found
    cases isClosed
  | succ fuel =>
    rw [read] at found
    split at found
    · next rest _ =>
      split at found
      · cases found
        exact ⟨_, rfl⟩
      · rcases list : readItems fuel rest with ⟨items, none | behind⟩ <;> rw [list] at found <;> cases found
        · cases isClosed
        · exact ⟨behind, rfl⟩
    · next rest _ =>
      split at found
      · cases found
        exact ⟨_, rfl⟩
      · rcases list : readMembers fuel rest with ⟨members, none | behind⟩ <;> rw [list] at found <;>
          cases found
        · cases isClosed
        · exact ⟨behind, rfl⟩
    · split at found <;> cases found
      · exact ⟨_, rfl⟩
      · cases isClosed

/-- The first value of a text, where the text begins with a closed one. -/
theorem ofText_of_begins {text : String} {value : Json} {rest : List Char} (isClosed : value.IsClosed)
    (begins : Begins value text.toList rest) : ofText text = value := by
  rw [ofText, ← String.length_toList,
    read_of_begins begins fun number same => absurd same (isClosed.ne_number number)]

/-- A closed value that was read stands at the front of its text. -/
theorem IsClosed.begins {text : String} (isClosed : (ofText text).IsClosed) :
    ∃ rest, Begins (ofText text) text.toList rest ∧ (IsDocument text.toList ↔ IsBlank rest) := by
  rcases found : read (2 * text.toList.length + 2) text.toList with ⟨value, end'⟩
  have same : ofText text = value := by rw [ofText, ← String.length_toList, found]
  rw [same] at isClosed ⊢
  obtain ⟨rest, rfl⟩ := isClosed.exists_behind found
  exact ⟨rest, (readsSpelled _).value found, isDocument_iff found⟩

end Json

namespace ConfigurationFile

/-- A configuration is decoded from an object or an array to its end. -/
theorem isClosed_of_decode {document : Json} {file : ConfigurationFile}
    (decoded : decode document = .ok file) : document.IsClosed := by
  cases document with
  | object members closed =>
    obtain ⟨rfl, -⟩ := decode_object_eq_ok_iff.mp decoded
    exact .object members
  | array items closed =>
    obtain ⟨-, rfl, -⟩ := decode_array_eq_ok_iff.mp decoded
    exact .array items
  | _ =>
    simp only [decode] at decoded
    exact absurd decoded Json.wrongType_ne_ok

theorem parse_eq_ok_iff {text : String} {file : ConfigurationFile} :
    parse text = .ok file ↔ decode (Json.ofText text) = .ok file := by
  unfold parse
  cases decode (Json.ofText text) <;> simp

/-- An accepted text has one document at its front, which decides whatever follows it. -/
theorem parse_reads_front_document (text : String) (file : ConfigurationFile)
    (parsed : parse text = .ok file) :
    ∃ front rest, text.toList = front ++ rest ∧ Json.IsDocument front ∧
      (∀ other, parse (String.ofList (front ++ other)) = .ok file) ∧
      (Json.IsDocument text.toList ↔ Json.IsBlank rest) := by
  have decoded := parse_eq_ok_iff.mp parsed
  have isClosed := isClosed_of_decode decoded
  obtain ⟨rest, ⟨blank, spelled, isBlank, spells, split⟩, alone⟩ := isClosed.begins
  refine ⟨blank ++ spelled, rest, split, ?_, ?_, alone⟩
  · exact ⟨_, [], ⟨blank, spelled, isBlank, spells, (List.append_nil _).symm⟩, Json.isBlank_nil⟩
  · intro other
    have again : Json.Begins (Json.ofText text) (String.ofList (blank ++ spelled ++ other)).toList other :=
      ⟨blank, spelled, isBlank, spells, String.toList_ofList⟩
    rw [parse_eq_ok_iff, Json.ofText_of_begins isClosed again, decoded]

/-- A configuration with a lost comma, or a second one, behind the first. -/
def withRemainder : String := "\x7b\"rules\": []\x7d, \"overwrite\": true\x7d"

theorem parse_reads_front_document_withRemainder :
    parse withRemainder = .ok {} ∧
      ∃ front rest, withRemainder.toList = front ++ rest ∧ Json.IsDocument front ∧
        (∀ other, parse (String.ofList (front ++ other)) = .ok {}) ∧
        (Json.IsDocument withRemainder.toList ↔ Json.IsBlank rest) := by
  have parsed : parse withRemainder = .ok {} := by
    rw [parse_eq_ok_iff]
    decide +kernel
  exact ⟨parsed, parse_reads_front_document withRemainder {} parsed⟩

/-- The text is accepted, although it is no JSON document. -/
theorem remainder_ignored : parse withRemainder = .ok {} ∧ ¬Json.IsDocument withRemainder.toList := by
  have parsed : parse withRemainder = .ok {} := by
    rw [parse_eq_ok_iff]
    decide +kernel
  have found : Json.read (2 * withRemainder.toList.length + 2) withRemainder.toList
      = (.object [(some "rules", .array [] true)] true, some ", \"overwrite\": true\x7d".toList) := by
    cbv
  rw [Json.isDocument_iff found]
  exact ⟨parsed, fun blank => absurd (blank ',' (by simp)) (by decide)⟩

end ConfigurationFile

end Unannotate
