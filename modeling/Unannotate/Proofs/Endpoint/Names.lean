import Unannotate.Endpoint.Domain
import Unannotate.Proofs.Marks
import Unannotate.Proofs.Outcomes
import Unannotate.Proofs.Pattern.Blanks
import Unannotate.Proofs.Text

/-!
# Names in ASCII form stay as they are

The ASCII form of a name holds ASCII characters that are mapped to themselves and that a name may hold. No
label of it is written in Punycode once more, so the ASCII form of the ASCII form is the same.
-/
set_option autoImplicit false

namespace Unannotate

/-- A text read back from its bytes, which is how long texts are evaluated. -/
theorem Utf8.toList_eq_foldl_step (text : String) :
    text.toList = ((encode text).foldl step ([], none)).1.reverse := by
  rw [encode_eq, foldl_step_flatMap]
  simp

namespace Unicode

theorem target_ge : ∀ range ∈ foldRanges, 0x61 ≤ range.target := by
  have target (word : List Char) : (FoldRange.ofText (String.ofList word)).target
      = CodePointSet.hexNumber (word.drop ((word.takeWhile (· ≠ '>')).length + 1)) := by
    rw [FoldRange.ofText, String.toList_ofList]
  unfold foldRanges
  simp only [List.forall_mem_map, List.forall_mem_flatMap, splitOn_space, target,
    Utf8.toList_eq_foldl_step]
  decide +kernel

/-- Nothing is folded to a capital of ASCII but what is one itself. -/
theorem foldPoint_ge {point : Nat} (least : 0x61 ≤ point) : 0x61 ≤ foldPoint point := by
  unfold foldPoint
  cases found : foldRanges.findSome? (·.fold? point) with
  | none => exact least
  | some folded =>
    obtain ⟨range, listed, folds⟩ := List.exists_of_findSome?_eq_some found
    unfold FoldRange.fold? at folds
    split at folds
    · cases folds
      exact Nat.le_add_right_of_le (target_ge range listed)
    · cases folds

end Unicode

/-! ## What Punycode is written with -/

namespace Text.Punycode

variable {character : Char}

theorem mem_digits {bias place number : Nat} (member : character ∈ digits bias place number) :
    ∃ digit < base, character = digitChar digit := by
  induction place, number using digits.induct bias with
  | case1 place number limit single =>
    rw [digits, if_pos single, List.mem_singleton] at member
    have limited := threshold_le place bias
    refine ⟨number, ?_, member⟩
    simp only [base, limit] at single ⊢
    omega
  | case2 place number limit several ih =>
    rw [digits, if_neg several, List.mem_cons] at member
    obtain isFirst | later := member
    · have limited := threshold_le place bias
      have small : (number - limit) % (base - limit) < base - limit := by
        apply Nat.mod_lt
        simp only [base, limit]
        omega
      exact ⟨limit + (number - limit) % (base - limit), by omega, isFirst⟩
    · exact ih later

/-- All that is written so far are digits. -/
def Encoder.WritesDigits (encoder : Encoder) : Prop :=
  ∀ character ∈ encoder.written, ∃ digit < base, character = digitChar digit

theorem Encoder.WritesDigits.pass {encoder : Encoder} (digits : encoder.WritesDigits) (point : Nat)
    (character : Char) : (encoder.pass point character).WritesDigits := by
  unfold Encoder.pass
  split
  · exact digits
  split
  · intro letter member
    obtain before | added := List.mem_append.mp member
    · exact digits letter before
    · exact mem_digits added
  · exact digits

theorem Encoder.WritesDigits.foldl_pass {encoder : Encoder} (digits : encoder.WritesDigits) (point : Nat)
    (text : List Char) : (text.foldl (Encoder.pass point) encoder).WritesDigits := by
  induction text generalizing encoder with
  | nil => exact digits
  | cons first rest ih => exact ih (digits.pass point first)

theorem Encoder.WritesDigits.insertAll {points : List Nat} (text : List Char) {encoder : Encoder}
    (next : Nat) (digits : encoder.WritesDigits) :
    (encoder.insertAll text next points).WritesDigits := by
  induction points generalizing encoder next with
  | nil => exact digits
  | cons point rest ih =>
    apply ih
    -- Only the delta is changed between the passes, and nothing is written by that.
    generalize waits : { encoder with delta := encoder.delta + (point - next) * (encoder.count + 1) }
      = waiting
    have start : waiting.WritesDigits := by
      rw [← waits]
      exact digits
    exact start.foldl_pass point text

theorem mem_encode {text : List Char} (member : character ∈ encode text) :
    (character ∈ text ∧ isBasic character) ∨ character = '-'
      ∨ ∃ digit < base, character = digitChar digit := by
  rw [encode, List.append_assoc, List.mem_append, List.mem_append] at member
  obtain basic | hyphen | written := member
  · exact .inl (List.mem_filter.mp basic)
  · split at hyphen
    · cases hyphen
    · exact .inr (.inl (List.mem_singleton.mp hyphen))
  · refine .inr (.inr (Encoder.WritesDigits.insertAll text 0x80 ?_ character written))
    intro letter member
    cases member

end Text.Punycode

/-! ## Names -/

namespace Domain

open Text.Punycode (isBasic)

variable {character : Char} {name label form : List Char}

/-- An ASCII character that stands in names as it is. -/
structure IsPlain (character : Char) : Prop where
  basic : isBasic character
  mapped : mapChar character = [character]
  allowed : isForbidden character = false

theorem IsPlain.isAllowed (plain : IsPlain character) : isAllowed character = true := by
  have small : character.toNat < 0x80 := by simpa [isBasic] using plain.basic
  rw [Domain.isAllowed, if_pos small, plain.allowed]
  rfl

theorem mapChar_basic (basic : isBasic character) : mapChar character = [character.toLower] := by
  have small : character.toNat < 0x80 := by simpa [isBasic] using basic
  rw [mapChar, if_pos small]

theorem toLower_toLower {point : Nat} (small : point < 0x80) :
    (Char.ofNat point).toLower.toLower = (Char.ofNat point).toLower := by
  have all : ∀ value ∈ List.range 0x80,
      (Char.ofNat value).toLower.toLower = (Char.ofNat value).toLower := by
    decide +kernel
  exact all point (List.mem_range.mpr small)

theorem noCapital_ofNat {point : Nat} (least : 0x61 ≤ point) :
    (Char.ofNat point).toNat < 0x41 ∨ 0x5A < (Char.ofNat point).toNat := by
  by_cases valid : point.isValidChar
  · rw [Char.ofNat, dif_pos valid]
    exact .inr (Nat.lt_of_lt_of_le (by decide) least)
  · rw [Char.ofNat, dif_neg valid]
    exact .inl (by decide)

/-- Mapping a second time changes no character of ASCII. -/
theorem mapChar_of_mem {given : Char} (member : character ∈ mapChar given)
    (basic : isBasic character) : mapChar character = [character] := by
  rw [mapChar_basic basic]
  suffices lower : character.toLower = character by rw [lower]
  unfold mapChar at member
  split at member
  · next small =>
    rw [List.mem_singleton.mp member, ← Char.ofNat_toNat given]
    exact toLower_toLower small
  next beyond =>
  split at member
  · rw [List.mem_singleton.mp member]
    rfl
  split at member
  · cases member
  split at member
  · next wide =>
    have most : given.toNat ≤ 0xFF5E := wide.2
    rw [List.mem_singleton.mp member]
    exact toLower_toLower (by omega)
  split at member
  · rw [List.mem_singleton.mp member]
    rfl
  · have folded : 0x61 ≤ Unicode.foldPoint given.toNat := Unicode.foldPoint_ge (by omega)
    rw [List.mem_singleton.mp member]
    exact toLower_eq_self (noCapital_ofNat folded)

theorem isPlain_of_mem (member : character ∈ name.flatMap mapChar)
    (allowed : Domain.isAllowed character = true) (basic : isBasic character) : IsPlain character := by
  obtain ⟨given, -, mapped⟩ := List.mem_flatMap.mp member
  have small : character.toNat < 0x80 := by simpa [isBasic] using basic
  refine ⟨basic, mapChar_of_mem mapped basic, ?_⟩
  rw [Domain.isAllowed, if_pos small] at allowed
  simpa using allowed

theorem isPlain_digitChar {digit : Nat} (small : digit < Text.Punycode.base) :
    IsPlain (Text.Punycode.digitChar digit) ∧ Text.Punycode.digitChar digit ≠ '.' := by
  have all : ∀ value ∈ List.range 36, let letter := Text.Punycode.digitChar value
      isBasic letter ∧ mapChar letter = [letter] ∧ isForbidden letter = false ∧ letter ≠ '.' := by
    decide
  obtain ⟨basic, mapped, allowed, noDot⟩ := all digit (List.mem_range.mpr small)
  exact ⟨⟨basic, mapped, allowed⟩, noDot⟩

theorem isPlain_hyphen : IsPlain '-' := ⟨by decide, by decide, by decide⟩

theorem isPlain_aceMark : ∀ character ∈ aceMark, IsPlain character ∧ character ≠ '.' := by
  have all : aceMark.all (fun letter =>
      isBasic letter && mapChar letter == [letter] && !isForbidden letter && letter != '.') = true := by
    decide
  intro character member
  have holds := List.all_eq_true.mp all character member
  simp only [Bool.and_eq_true, beq_iff_eq, Bool.not_eq_true', bne_iff_ne] at holds
  obtain ⟨⟨⟨basic, mapped⟩, allowed⟩, noDot⟩ := holds
  exact ⟨⟨basic, mapped, allowed⟩, noDot⟩

/-- Punycode adds nothing to the ASCII characters of a label but a hyphen and digits. -/
theorem isPlain_encode (plain : ∀ character ∈ label, isBasic character → IsPlain character)
    (noDot : '.' ∉ label) (member : character ∈ Text.Punycode.encode label) :
    IsPlain character ∧ character ≠ '.' := by
  obtain ⟨held, basic⟩ | rfl | ⟨digit, small, rfl⟩ := Text.Punycode.mem_encode member
  · exact ⟨plain character held basic, fun isDot => noDot (isDot ▸ held)⟩
  · exact ⟨isPlain_hyphen, by decide⟩
  · exact isPlain_digitChar small

/-- How a label is written in ASCII, whether or not that is a name. -/
def asciiLabel (label : List Char) : List Char :=
  if label.all isBasic then label else aceMark ++ Text.Punycode.encode label

theorem asciiLabel?_eq (label : List Char) : asciiLabel? label =
    if aceMark.isPrefixOf (asciiLabel label)
        && !isValidCode ((asciiLabel label).drop aceMark.length) then none
    else some (asciiLabel label) :=
  rfl

theorem asciiLabel?_eq_some_iff : asciiLabel? label = some form ↔
    (aceMark.isPrefixOf form && !isValidCode (form.drop aceMark.length)) = false ∧
      asciiLabel label = form := by
  rw [asciiLabel?_eq]
  split
  · next invalid =>
    refine iff_of_false (by simp) ?_
    rintro ⟨valid, rfl⟩
    rw [invalid] at valid
    cases valid
  · next valid =>
    rw [Option.some_inj]
    constructor
    · rintro rfl
      exact ⟨Bool.not_eq_true _ ▸ valid, rfl⟩
    · exact And.right

theorem isPlain_asciiLabel (plain : ∀ character ∈ label, isBasic character → IsPlain character)
    (noDot : '.' ∉ label) :
    ∀ character ∈ asciiLabel label, IsPlain character ∧ character ≠ '.' := by
  intro character member
  unfold asciiLabel at member
  split at member
  · next basic =>
    have itself := plain character member (List.all_eq_true.mp basic character member)
    exact ⟨itself, fun isDot => noDot (isDot ▸ member)⟩
  · obtain marked | encoded := List.mem_append.mp member
    · exact isPlain_aceMark character marked
    · exact isPlain_encode plain noDot encoded

theorem asciiLabel?_form (plain : ∀ character ∈ label, isBasic character → IsPlain character)
    (noDot : '.' ∉ label) (made : asciiLabel? label = some form) :
    asciiLabel? form = some form ∧ ∀ character ∈ form, IsPlain character ∧ character ≠ '.' := by
  obtain ⟨valid, rfl⟩ := asciiLabel?_eq_some_iff.mp made
  have settled := isPlain_asciiLabel plain noDot
  have basic : (asciiLabel label).all isBasic = true :=
    List.all_eq_true.mpr fun character member => (settled character member).1.basic
  exact ⟨asciiLabel?_eq_some_iff.mpr ⟨valid, if_pos basic⟩, settled⟩

/-- Labels that are in ASCII form make a name that is. -/
theorem ascii?_intercalate {labels : List (List Char)} (nonempty : labels ≠ [])
    (fixed : ∀ label ∈ labels,
      asciiLabel? label = some label ∧ ∀ character ∈ label, IsPlain character ∧ character ≠ '.') :
    ascii? (['.'].intercalate labels) = some (['.'].intercalate labels) ∧
      ∀ character ∈ ['.'].intercalate labels, IsPlain character := by
  have letters : ∀ character ∈ ['.'].intercalate labels, IsPlain character := by
    intro character member
    obtain rfl | ⟨label, held, inLabel⟩ := mem_intercalate member
    · exact ⟨by decide, by decide, by decide⟩
    · exact ((fixed label held).2 character inLabel).1
  have mapped : (['.'].intercalate labels).flatMap mapChar = ['.'].intercalate labels := by
    rw [List.flatMap_congr fun character member => (letters character member).mapped]
    exact List.flatMap_singleton' _
  have allowed : (['.'].intercalate labels).all Domain.isAllowed = true :=
    List.all_eq_true.mpr fun character member => (letters character member).isAllowed
  have split : (['.'].intercalate labels).splitOn '.' = labels :=
    List.splitOn_intercalate '.'
      (fun label held member => ((fixed label held).2 '.' member).2 rfl) nonempty
  refine ⟨?_, letters⟩
  have each : labels.mapM asciiLabel? = some labels :=
    mapM_eq_some_iff.mpr (List.forall₂_same.mpr fun label held => (fixed label held).1)
  rw [ascii?, mapped, if_pos allowed, split, each, Option.map_some]

/-- A name in ASCII form is its own ASCII form, letter by letter. -/
theorem ascii?_form (made : ascii? name = some form) :
    ascii? form = some form ∧ ∀ character ∈ form, IsPlain character := by
  unfold ascii? at made
  dsimp only at made
  split at made
  next allowed =>
    obtain ⟨forms, each, joined⟩ := Option.map_eq_some_iff.mp made
    have pairs := mapM_eq_some_iff.mp each
    have nonempty : forms ≠ [] := by
      apply List.ne_nil_of_length_pos
      rw [← pairs.length_eq]
      exact List.length_pos_iff.mpr (List.splitOn_ne_nil '.' _)
    have fixed : ∀ form ∈ forms,
        asciiLabel? form = some form ∧ ∀ character ∈ form, IsPlain character ∧ character ≠ '.' := by
      intro form member
      obtain ⟨label, held, labelled⟩ := exists_related_of_mem pairs.flip member
      refine asciiLabel?_form ?_ (not_mem_of_mem_splitOn held) labelled
      intro character inLabel basic
      have inName := mem_of_mem_splitOn held inLabel
      exact isPlain_of_mem inName (List.all_eq_true.mp allowed character inName) basic
    rw [← joined]
    exact ascii?_intercalate nonempty fixed
  · cases made

end Domain

end Unannotate
