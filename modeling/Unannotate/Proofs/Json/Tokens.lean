import Mathlib.Data.List.TakeWhile
import Unannotate.Json.Document

/-!
# Tokens of JSON texts

Blanks, strings, numbers and words as the format spells them, and what the reader makes of them: it finds
a token where one is spelled, and what it has found was spelled. A string or a word ends by itself; a
number ends where something follows that could not be part of it.
-/
set_option autoImplicit false

namespace Unannotate.Json

/-! ## Blanks -/

def IsBlank (text : List Char) : Prop := ∀ character ∈ text, isSpace character = true

instance (text : List Char) : Decidable (IsBlank text) :=
  inferInstanceAs (Decidable (∀ character ∈ text, isSpace character = true))

theorem isBlank_nil : IsBlank [] := List.forall_mem_nil _

theorem skipSpace_append {blank text : List Char} (isBlank : IsBlank blank) :
    skipSpace (blank ++ text) = skipSpace text :=
  List.dropWhile_append_of_pos isBlank

theorem skipSpace_cons {first : Char} {text : List Char} (visible : isSpace first = false) :
    skipSpace (first :: text) = first :: text := by
  rw [skipSpace, List.dropWhile_cons_of_neg (by simp [visible])]

theorem exists_isBlank (text : List Char) : ∃ blank, IsBlank blank ∧ text = blank ++ skipSpace text :=
  ⟨text.takeWhile isSpace, fun _ member => List.mem_takeWhile_imp member,
    List.takeWhile_append_dropWhile.symm⟩

/-! ## Words -/

theorem readWord_append (word : String) (value : Json) (rest : List Char) :
    readWord word value (word.toList ++ rest) = some (value, rest) := by
  have front : word.toList.isPrefixOf (word.toList ++ rest) = true := by simp
  rw [readWord, if_pos front, List.drop_left' String.length_toList]

theorem readWord_eq_some {word : String} {value found : Json} {text behind : List Char}
    (read : readWord word value text = some (found, behind)) :
    found = value ∧ text = word.toList ++ behind := by
  unfold readWord at read
  split at read
  · next front =>
    obtain ⟨rest, rfl⟩ := List.isPrefixOf_iff_prefix.mp front
    rw [List.drop_left' String.length_toList] at read
    cases read
    exact ⟨rfl, rfl⟩
  · cases read

/-! ## Strings -/

/-- One part of a string: a character that stands for itself, an escaped letter, or a unit of 16 bits. -/
inductive SpellsPart : StringPart → List Char → Prop
  | plain {letter : Char} (quote : letter ≠ '"') (backslash : letter ≠ '\\')
      (printed : 32 ≤ letter.toNat) : SpellsPart (.character letter) [letter]
  | escaped {letter value : Char} (known : simpleEscape? letter = some value) :
      SpellsPart (.character value) ['\\', letter]
  | unit {first second third fourth : Char} {value : Nat}
      (known : hexUnit? first second third fourth = some value) :
      SpellsPart (.unit value) ['\\', 'u', first, second, third, fourth]

inductive SpellsParts : List StringPart → List Char → Prop
  | nil : SpellsParts [] []
  | cons {part : StringPart} {spelling text : List Char} {parts : List StringPart}
      (first : SpellsPart part spelling) (rest : SpellsParts parts text) :
      SpellsParts (part :: parts) (spelling ++ text)

/-- A string between its quotes. It has no text where an escape stands for no character. -/
inductive SpellsString : Option String → List Char → Prop
  | quoted {parts : List StringPart} {inner : List Char} (spells : SpellsParts parts inner) :
      SpellsString ((stringCharacters parts).map String.ofList) ('"' :: inner ++ ['"'])

theorem stringParts_append {parts : List StringPart} {text rest : List Char}
    (spells : SpellsParts parts text) : stringParts (text ++ '"' :: rest) = some (parts, rest) := by
  induction spells with
  | nil => simp [stringParts]
  | cons first _ ih =>
    cases first with
    | plain quote backslash printed =>
      simpa [stringParts, quote, backslash, ih] using printed
    | @escaped letter value known =>
      have other : letter ≠ 'u' := by
        rintro rfl
        simp [simpleEscape?] at known
      simp [stringParts, other, known, ih]
    | unit known => simp [stringParts, known, ih]

theorem spellsParts_of_stringParts {text behind : List Char} {parts : List StringPart}
    (read : stringParts text = some (parts, behind)) :
    ∃ spelled, text = spelled ++ '"' :: behind ∧ SpellsParts parts spelled := by
  induction text using stringParts.induct generalizing parts behind with
  | case1 => cases read
  | case2 rest =>
    rw [stringParts] at read
    cases read
    exact ⟨[], rfl, .nil⟩
  | case3 first second third fourth rest value others end' later known ih =>
    rw [stringParts, known, later] at read
    cases read
    obtain ⟨spelled, rfl, spells⟩ := ih later
    exact ⟨_, rfl, .cons (.unit known) spells⟩
  | case4 first second third fourth rest fails ih =>
    rw [stringParts] at read
    split at read
    · next known later => exact absurd later (fails _ _ _ known)
    · cases read
  | case5 letter rest other value others end' later known ih =>
    rw [stringParts, known, later] at read
    · cases read
      obtain ⟨spelled, rfl, spells⟩ := ih later
      exact ⟨_, rfl, .cons (.escaped known) spells⟩
    · exact other
  | case6 letter rest other fails ih =>
    rw [stringParts] at read
    · split at read
      · next known later => exact absurd later (fails _ _ _ known)
      · cases read
    · exact other
  | case7 letter rest quote escape backslash refused =>
    rw [stringParts, if_pos refused] at read
    · cases read
    all_goals assumption
  | case8 letter rest quote escape backslash shown ih =>
    rw [stringParts, if_neg shown, Option.map_eq_some_iff] at read
    · obtain ⟨⟨others, end'⟩, later, same⟩ := read
      cases same
      obtain ⟨spelled, rfl, spells⟩ := ih later
      rw [not_or, Nat.not_lt] at shown
      exact ⟨_, rfl, .cons (.plain quote shown.1 shown.2) spells⟩
    all_goals assumption

theorem readString_append {value : Option String} {text : List Char}
    (spells : SpellsString value text) (rest : List Char) : ∃ inner, text ++ rest = '"' :: inner ∧
      readString inner = some (value, rest) := by
  cases spells with
  | @quoted parts inner spells =>
    refine ⟨inner ++ '"' :: rest, by simp, ?_⟩
    rw [readString, stringParts_append spells]
    rfl

theorem spellsString_of_readString {inner behind : List Char} {value : Option String}
    (read : readString inner = some (value, behind)) :
    ∃ spelled, '"' :: inner = spelled ++ behind ∧ SpellsString value spelled := by
  obtain ⟨⟨parts, end'⟩, found, same⟩ := Option.map_eq_some_iff.mp read
  cases same
  obtain ⟨spelled, rfl, spells⟩ := spellsParts_of_stringParts found
  exact ⟨_, by simp, .quoted spells⟩

/-! ## Numbers -/

def AreDigits (digits : List Char) : Prop := digits ≠ [] ∧ ∀ digit ∈ digits, digit.isDigit = true

inductive SpellsFraction : Option (List Char) → List Char → Prop
  | absent : SpellsFraction none []
  | present {digits : List Char} (areDigits : AreDigits digits) :
      SpellsFraction (some digits) ('.' :: digits)

abbrev IsExponentLetter (letter : Char) : Prop := letter = 'e' ∨ letter = 'E'

inductive SpellsExponent : Option (Bool × List Char) → List Char → Prop
  | absent : SpellsExponent none []
  | plain {letter : Char} {digits : List Char} (begins : IsExponentLetter letter)
      (areDigits : AreDigits digits) : SpellsExponent (some (false, digits)) (letter :: digits)
  | up {letter : Char} {digits : List Char} (begins : IsExponentLetter letter)
      (areDigits : AreDigits digits) : SpellsExponent (some (false, digits)) (letter :: '+' :: digits)
  | down {letter : Char} {digits : List Char} (begins : IsExponentLetter letter)
      (areDigits : AreDigits digits) : SpellsExponent (some (true, digits)) (letter :: '-' :: digits)

/-- A number without its sign. A zero in front stands alone. -/
inductive SpellsMagnitude (negative : Bool) : NumberText → List Char → Prop
  | spelled {whole fractionText exponentText : List Char} {fraction : Option (List Char)}
      {exponent : Option (Bool × List Char)} (areDigits : AreDigits whole)
      (zero : whole.head? = some '0' → whole.length = 1)
      (first : SpellsFraction fraction fractionText) (second : SpellsExponent exponent exponentText) :
      SpellsMagnitude negative { negative, whole, fraction, exponent }
        (whole ++ fractionText ++ exponentText)

inductive SpellsNumber : NumberText → List Char → Prop
  | positive {number : NumberText} {text : List Char} (spells : SpellsMagnitude false number text) :
      SpellsNumber number text
  | negative {number : NumberText} {text : List Char} (spells : SpellsMagnitude true number text) :
      SpellsNumber number ('-' :: text)

/-- The text begins with none of the characters that could go on with a number. -/
def EndsNumber (text : List Char) : Prop :=
  ∀ first ∈ text.head?, first.isDigit = false ∧ first ≠ '.' ∧ ¬IsExponentLetter first

theorem endsNumber_of_isBlank {blank : List Char} (isBlank : IsBlank blank) : EndsNumber blank := by
  intro first front
  have space := isBlank first (List.mem_of_head? front)
  simp only [isSpace, decide_eq_true_eq, List.mem_cons, List.not_mem_nil, or_false] at space
  rcases space with rfl | rfl | rfl | rfl <;> decide

theorem digitsOf_append {digits text : List Char} (areDigits : AreDigits digits)
    (ends : ∀ first ∈ text.head?, first.isDigit = false) :
    digitsOf (digits ++ text) = (digits, text) := by
  have nothing : text.takeWhile Char.isDigit = [] ∧ text.dropWhile Char.isDigit = text := by
    cases text with
    | nil => exact ⟨rfl, rfl⟩
    | cons first rest =>
      have other : ¬first.isDigit = true := by simp [ends first rfl]
      exact ⟨List.takeWhile_cons_of_neg other, List.dropWhile_cons_of_neg other⟩
  rw [digitsOf, List.takeWhile_append_of_pos areDigits.2, List.dropWhile_append_of_pos areDigits.2,
    nothing.1, nothing.2, List.append_nil]

theorem areDigits_of_digitsOf {text digits behind : List Char} (split : digitsOf text = (digits, behind))
    (some' : digits ≠ []) : text = digits ++ behind ∧ AreDigits digits := by
  cases split
  exact ⟨List.takeWhile_append_dropWhile.symm, some', fun _ member => List.mem_takeWhile_imp member⟩

theorem readFraction_append {fraction : Option (List Char)} {text rest : List Char}
    (spells : SpellsFraction fraction text)
    (ends : ∀ first ∈ rest.head?, first.isDigit = false ∧ first ≠ '.') :
    readFraction (text ++ rest) = some (fraction, rest) := by
  cases spells with
  | absent =>
    cases rest with
    | nil => rfl
    | cons first rest =>
      have other := (ends first rfl).2
      simp [readFraction, other]
  | present areDigits =>
    have split := digitsOf_append areDigits fun first front => (ends first front).1
    simp [readFraction, split, areDigits.1]

theorem spellsFraction_of_readFraction {text behind : List Char} {fraction : Option (List Char)}
    (read : readFraction text = some (fraction, behind)) :
    ∃ spelled, text = spelled ++ behind ∧ SpellsFraction fraction spelled := by
  unfold readFraction at read
  split at read
  · next rest =>
    rcases found : digitsOf rest with ⟨digits, end'⟩
    simp only [found, List.isEmpty_iff] at read
    split at read
    · cases read
    · next some' =>
      cases read
      obtain ⟨rfl, areDigits⟩ := areDigits_of_digitsOf found some'
      exact ⟨_, rfl, .present areDigits⟩
  · cases read
    exact ⟨[], rfl, .absent⟩

theorem readExponentDigits_append {down : Bool} {digits rest : List Char} (areDigits : AreDigits digits)
    (ends : ∀ first ∈ rest.head?, first.isDigit = false) :
    readExponentDigits down (digits ++ rest) = some (some (down, digits), rest) := by
  simp [readExponentDigits, digitsOf_append areDigits ends, areDigits.1]

theorem areDigits_of_readExponentDigits {down : Bool} {text behind : List Char}
    {exponent : Option (Bool × List Char)}
    (read : readExponentDigits down text = some (exponent, behind)) :
    ∃ digits, exponent = some (down, digits) ∧ text = digits ++ behind ∧ AreDigits digits := by
  rcases found : digitsOf text with ⟨digits, end'⟩
  simp only [readExponentDigits, found, List.isEmpty_iff] at read
  split at read
  · cases read
  · next some' =>
    cases read
    exact ⟨digits, rfl, areDigits_of_digitsOf found some'⟩

theorem not_sign_of_isDigit {digit : Char} (isDigit : digit.isDigit = true) : digit ≠ '+' ∧ digit ≠ '-' := by
  constructor <;> rintro rfl <;> simp at isDigit

theorem readExponent_append {exponent : Option (Bool × List Char)} {text rest : List Char}
    (spells : SpellsExponent exponent text)
    (ends : ∀ first ∈ rest.head?, first.isDigit = false ∧ ¬IsExponentLetter first) :
    readExponent (text ++ rest) = some (exponent, rest) := by
  have noDigit (first : Char) (front : first ∈ rest.head?) : first.isDigit = false := (ends first front).1
  cases spells with
  | absent =>
    cases rest with
    | nil => rfl
    | cons first rest => exact if_neg (ends first rfl).2
  | @plain letter digits begins areDigits =>
    cases digits with
    | nil => exact absurd rfl areDigits.1
    | cons digit digits =>
      have sign := not_sign_of_isDigit (areDigits.2 digit List.mem_cons_self)
      have found : readExponentDigits false (digit :: digits ++ rest) = _ :=
        readExponentDigits_append areDigits noDigit
      rw [List.cons_append] at found
      rw [List.cons_append, List.cons_append, readExponent, if_pos begins]
      · exact found
      all_goals
        rintro others same
        cases same
        simp at sign
  | up begins areDigits =>
    rw [List.cons_append, List.cons_append, readExponent, if_pos begins]
    exact readExponentDigits_append areDigits noDigit
  | down begins areDigits =>
    rw [List.cons_append, List.cons_append, readExponent, if_pos begins]
    exact readExponentDigits_append areDigits noDigit

theorem spellsExponent_of_readExponent {text behind : List Char} {exponent : Option (Bool × List Char)}
    (read : readExponent text = some (exponent, behind)) :
    ∃ spelled, text = spelled ++ behind ∧ SpellsExponent exponent spelled := by
  unfold readExponent at read
  split at read
  · next letter rest =>
    split at read
    · next begins =>
      split at read
      · obtain ⟨digits, rfl, rfl, areDigits⟩ := areDigits_of_readExponentDigits read
        exact ⟨_, rfl, .up begins areDigits⟩
      · obtain ⟨digits, rfl, rfl, areDigits⟩ := areDigits_of_readExponentDigits read
        exact ⟨_, rfl, .down begins areDigits⟩
      · obtain ⟨digits, rfl, rfl, areDigits⟩ := areDigits_of_readExponentDigits read
        exact ⟨_, rfl, .plain begins areDigits⟩
    · cases read
      exact ⟨[], rfl, .absent⟩
  · cases read
    exact ⟨[], rfl, .absent⟩

/-- What stands behind the digits in front of a fraction is no digit, and behind a fraction neither digit
nor point. -/
theorem head?_exponent {exponent : Option (Bool × List Char)} {text rest : List Char}
    (spells : SpellsExponent exponent text) (ends : EndsNumber rest) :
    ∀ first ∈ (text ++ rest).head?, first.isDigit = false ∧ first ≠ '.' := by
  have letter {first : Char} (begins : IsExponentLetter first) : first.isDigit = false ∧ first ≠ '.' := by
    rcases begins with rfl | rfl <;> exact ⟨rfl, by decide⟩
  intro first front
  cases spells with
  | absent => exact ⟨(ends first front).1, (ends first front).2.1⟩
  | plain begins _ | up begins _ | down begins _ =>
    cases front
    exact letter begins

theorem head?_fraction {fraction : Option (List Char)} {text rest : List Char}
    (spells : SpellsFraction fraction text) (ends : ∀ first ∈ rest.head?, first.isDigit = false) :
    ∀ first ∈ (text ++ rest).head?, first.isDigit = false := by
  intro first front
  cases spells with
  | absent => exact ends first front
  | present _ =>
    cases front
    rfl

theorem readNumber_append {negative : Bool} {number : NumberText} {text rest : List Char}
    (spells : SpellsMagnitude negative number text) (ends : EndsNumber rest) :
    readNumber negative (text ++ rest) = some (.number number, rest) := by
  cases spells with
  | @spelled whole fractionText exponentText fraction exponent areDigits zero first second =>
    have afterFraction := head?_exponent second ends
    have afterWhole := head?_fraction first fun next front => (afterFraction next front).1
    have allowed : ¬(whole.isEmpty = true ∨ whole.head? = some '0' ∧ 1 < whole.length) := by
      rintro (empty | ⟨front, longer⟩)
      · exact areDigits.1 (List.isEmpty_iff.mp empty)
      · have alone := zero front
        omega
    have rest' : ∀ next ∈ rest.head?, next.isDigit = false ∧ ¬IsExponentLetter next :=
      fun next front => ⟨(ends next front).1, (ends next front).2.2⟩
    rw [readNumber, List.append_assoc, List.append_assoc, digitsOf_append areDigits afterWhole]
    simp only [allowed, if_false, readFraction_append first afterFraction,
      readExponent_append second rest', Option.bind_eq_bind, Option.bind_some]
    rfl

theorem spellsMagnitude_of_readNumber {negative : Bool} {text behind : List Char} {value : Json}
    (read : readNumber negative text = some (value, behind)) :
    ∃ number spelled, value = .number number ∧ text = spelled ++ behind ∧
      SpellsMagnitude negative number spelled := by
  rcases split : digitsOf text with ⟨whole, afterWhole⟩
  simp only [readNumber, split] at read
  split at read
  · cases read
  · next allowed =>
    simp only [Option.bind_eq_bind, Option.bind_eq_some_iff, Prod.exists] at read
    obtain ⟨fraction, afterFraction, first, exponent, afterExponent, second, same⟩ := read
    cases same
    rw [not_or, List.isEmpty_iff] at allowed
    obtain ⟨rfl, areDigits⟩ := areDigits_of_digitsOf split allowed.1
    obtain ⟨fractionText, rfl, spellsFraction⟩ := spellsFraction_of_readFraction first
    obtain ⟨exponentText, rfl, spellsExponent⟩ := spellsExponent_of_readExponent second
    have some' := List.length_pos_iff.mpr areDigits.1
    have zero (front : whole.head? = some '0') : whole.length = 1 := by
      have short := mt (And.intro front) allowed.2
      omega
    exact ⟨_, _, rfl, by simp, .spelled areDigits zero spellsFraction spellsExponent⟩

end Unannotate.Json
