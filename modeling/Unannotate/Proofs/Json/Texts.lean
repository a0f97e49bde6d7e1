import Unannotate.Proofs.Json.Tokens

/-!
# JSON texts are read exactly

The grammar of values, and the reader against it. Where a text begins with a value, blanks aside, the
reader finds that value and stops right behind it; and what it has read to the end was a value of the
grammar. So a text holds at most one value at its front, and nothing that stands behind an array or an
object has a part in what is read.
-/
set_option autoImplicit false

namespace Unannotate.Json

/-! ## Values -/

mutual

/-- A value as it is spelled, with nothing in front of it and nothing behind it. -/
inductive Spells : Json → List Char → Prop
  | null : Spells .null "null".toList
  | trueWord : Spells (.bool true) "true".toList
  | falseWord : Spells (.bool false) "false".toList
  | number {number : NumberText} {text : List Char} (spells : SpellsNumber number text) :
      Spells (.number number) text
  | string {value : Option String} {text : List Char} (spells : SpellsString value text) :
      Spells (.string value) text
  | emptyArray {blank : List Char} (isBlank : IsBlank blank) :
      Spells (.array [] true) ('[' :: blank ++ [']'])
  | array {items : List Json} {inner : List Char} (spells : SpellsItems items inner) :
      Spells (.array items true) ('[' :: inner ++ [']'])
  | emptyObject {blank : List Char} (isBlank : IsBlank blank) :
      Spells (.object [] true) ('\x7b' :: blank ++ ['\x7d'])
  | object {members : List (Option String × Json)} {inner : List Char}
      (spells : SpellsMembers members inner) :
      Spells (.object members true) ('\x7b' :: inner ++ ['\x7d'])

/-- Items with commas between them. -/
inductive SpellsItems : List Json → List Char → Prop
  | last {value : Json} {before text after : List Char} (front : IsBlank before)
      (spells : Spells value text) (back : IsBlank after) :
      SpellsItems [value] (before ++ text ++ after)
  | more {value : Json} {items : List Json} {before text after rest : List Char}
      (front : IsBlank before) (spells : Spells value text) (back : IsBlank after)
      (others : SpellsItems items rest) :
      SpellsItems (value :: items) (before ++ text ++ after ++ ',' :: rest)

/-- Members with commas between them, each a name, a colon and a value. -/
inductive SpellsMembers : List (Option String × Json) → List Char → Prop
  | last {key : Option String} {value : Json} {before name between blank text after : List Char}
      (front : IsBlank before) (named : SpellsString key name) (middle : IsBlank between)
      (behind : IsBlank blank) (spells : Spells value text) (back : IsBlank after) :
      SpellsMembers [(key, value)] (before ++ name ++ between ++ ':' :: (blank ++ text ++ after))
  | more {key : Option String} {value : Json} {members : List (Option String × Json)}
      {before name between blank text after rest : List Char}
      (front : IsBlank before) (named : SpellsString key name) (middle : IsBlank between)
      (behind : IsBlank blank) (spells : Spells value text) (back : IsBlank after)
      (others : SpellsMembers members rest) :
      SpellsMembers ((key, value) :: members)
        (before ++ name ++ between ++ ':' :: (blank ++ text ++ after ++ ',' :: rest))

end

/-- The text begins with a value, blanks in front aside, and goes on with `rest`. -/
def Begins (value : Json) (text rest : List Char) : Prop :=
  ∃ blank spelled, IsBlank blank ∧ Spells value spelled ∧ text = blank ++ spelled ++ rest

/-- The text is one value with nothing but blanks around it. -/
def IsDocument (text : List Char) : Prop := ∃ value rest, Begins value text rest ∧ IsBlank rest

/-! ## What has been read was spelled -/

theorem spells_of_readPlain {text behind : List Char} {value : Json}
    (read : readPlain text = some (value, behind)) :
    ∃ spelled, text = spelled ++ behind ∧ Spells value spelled := by
  unfold readPlain at read
  split at read
  · obtain ⟨⟨found, end'⟩, string, same⟩ := Option.map_eq_some_iff.mp read
    cases same
    obtain ⟨spelled, split, spells⟩ := spellsString_of_readString string
    exact ⟨spelled, split, .string spells⟩
  · obtain ⟨number, spelled, rfl, rfl, spells⟩ := spellsMagnitude_of_readNumber read
    exact ⟨_, rfl, .number (.negative spells)⟩
  · obtain ⟨rfl, split⟩ := readWord_eq_some read
    exact ⟨_, split, .null⟩
  · obtain ⟨rfl, split⟩ := readWord_eq_some read
    exact ⟨_, split, .trueWord⟩
  · obtain ⟨rfl, split⟩ := readWord_eq_some read
    exact ⟨_, split, .falseWord⟩
  · obtain ⟨number, spelled, rfl, split, spells⟩ := spellsMagnitude_of_readNumber read
    exact ⟨_, split, .number (.positive spells)⟩

theorem spells_of_readKey {text behind : List Char} {key : Option String}
    (read : readKey text = some (key, some behind)) :
    ∃ name between, text = name ++ between ++ ':' :: behind ∧ SpellsString key name ∧ IsBlank between := by
  unfold readKey at read
  split at read
  · obtain ⟨⟨found, end'⟩, string, same⟩ := Option.map_eq_some_iff.mp read
    obtain ⟨name, split, spells⟩ := spellsString_of_readString string
    obtain ⟨between, isBlank, blanks⟩ := exists_isBlank end'
    dsimp only at same
    split at same
    · next colon =>
      cases same
      rw [colon] at blanks
      exact ⟨name, between, by rw [split, blanks, List.append_assoc], spells, isBlank⟩
    · cases same
  · cases read

/-- What is read to its end with this much fuel was spelled. -/
structure ReadsSpelled (fuel : Nat) : Prop where
  value : ∀ {text behind : List Char} {value : Json}, read fuel text = (value, some behind) →
    Begins value text behind
  items : ∀ {text behind : List Char} {items : List Json},
    readItems fuel text = (items, some behind) →
    ∃ inner, text = inner ++ ']' :: behind ∧ SpellsItems items inner
  members : ∀ {text behind : List Char} {members : List (Option String × Json)},
    readMembers fuel text = (members, some behind) →
    ∃ inner, text = inner ++ '\x7d' :: behind ∧ SpellsMembers members inner

namespace ReadsSpelled

variable {fuel : Nat} {text behind : List Char}

theorem value_succ {value : Json} (inner : ReadsSpelled fuel)
    (found : read (fuel + 1) text = (value, some behind)) : Begins value text behind := by
  obtain ⟨blank, isBlank, blanks⟩ := exists_isBlank text
  suffices ∃ spelled, skipSpace text = spelled ++ behind ∧ Spells value spelled by
    obtain ⟨spelled, split, spells⟩ := this
    exact ⟨blank, spelled, isBlank, spells, by rw [List.append_assoc, ← split, ← blanks]⟩
  rw [read] at found
  split at found
  · next rest opens =>
    rw [opens]
    obtain ⟨inside, blankInside, within⟩ := exists_isBlank rest
    split at found
    · next closes =>
      cases found
      rw [closes] at within
      exact ⟨_, by rw [within]; simp, .emptyArray blankInside⟩
    · rcases list : readItems fuel rest with ⟨items, end'⟩
      rw [list] at found
      cases found
      obtain ⟨inner, rfl, spells⟩ := inner.items list
      exact ⟨_, by simp, .array spells⟩
  · next rest opens =>
    rw [opens]
    obtain ⟨inside, blankInside, within⟩ := exists_isBlank rest
    split at found
    · next closes =>
      cases found
      rw [closes] at within
      exact ⟨_, by rw [within]; simp, .emptyObject blankInside⟩
    · rcases list : readMembers fuel rest with ⟨members, end'⟩
      rw [list] at found
      cases found
      obtain ⟨inner, rfl, spells⟩ := inner.members list
      exact ⟨_, by simp, .object spells⟩
  · split at found
    · next plain =>
      cases found
      exact spells_of_readPlain plain
    · cases found

theorem items_succ {items : List Json} (inner : ReadsSpelled fuel)
    (found : readItems (fuel + 1) text = (items, some behind)) :
    ∃ inner, text = inner ++ ']' :: behind ∧ SpellsItems items inner := by
  rw [readItems] at found
  split at found
  · cases found
  · next item afterItem first =>
    obtain ⟨before, spelled, front, spells, rfl⟩ := inner.value first
    obtain ⟨after, back, blanks⟩ := exists_isBlank afterItem
    split at found
    · next closes =>
      cases found
      rw [closes] at blanks
      exact ⟨_, by rw [blanks]; simp, .last front spells back⟩
    · next rest comma =>
      rw [comma] at blanks
      split at found
      · cases found
      · rcases more : readItems fuel rest with ⟨list, end'⟩
        rw [more] at found
        cases found
        obtain ⟨inner, rfl, others⟩ := inner.items more
        exact ⟨_, by rw [blanks]; simp, .more front spells back others⟩
    · cases found

theorem members_succ {members : List (Option String × Json)} (inner : ReadsSpelled fuel)
    (found : readMembers (fuel + 1) text = (members, some behind)) :
    ∃ inner, text = inner ++ '\x7d' :: behind ∧ SpellsMembers members inner := by
  obtain ⟨before, front, lead⟩ := exists_isBlank text
  rw [readMembers] at found
  split at found
  · cases found
  · cases found
  · next key afterKey named =>
    obtain ⟨name, between, split, spellsKey, middle⟩ := spells_of_readKey named
    rw [split] at lead
    split at found
    · cases found
    · next value afterValue first =>
      obtain ⟨blank, spelled, isBlank, spells, rfl⟩ := inner.value first
      obtain ⟨after, back, blanks⟩ := exists_isBlank afterValue
      split at found
      · next closes =>
        cases found
        rw [closes] at blanks
        exact ⟨_, by rw [lead, blanks]; simp, .last front spellsKey middle isBlank spells back⟩
      · next rest comma =>
        rw [comma] at blanks
        rcases more : readMembers fuel rest with ⟨list, end'⟩
        rw [more] at found
        cases found
        obtain ⟨inner, rfl, others⟩ := inner.members more
        exact ⟨_, by rw [lead, blanks]; simp,
          .more front spellsKey middle isBlank spells back others⟩
      · cases found

end ReadsSpelled

theorem readsSpelled (fuel : Nat) : ReadsSpelled fuel := by
  induction fuel with
  | zero => constructor <;> rintro text behind value ⟨⟩
  | succ fuel ih => exact ⟨ih.value_succ, ih.items_succ, ih.members_succ⟩

/-! ## What is spelled is read -/

/-- What a value can begin with: nothing that is passed over or that closes a list. -/
def StartsValue (first : Char) : Prop := isSpace first = false ∧ first ≠ ']' ∧ first ≠ '\x7d'

instance (first : Char) : Decidable (StartsValue first) :=
  inferInstanceAs (Decidable (isSpace first = false ∧ first ≠ ']' ∧ first ≠ '\x7d'))

theorem startsValue_of_isDigit {digit : Char} (isDigit : digit.isDigit = true) : StartsValue digit := by
  refine ⟨?_, ?_, ?_⟩
  · simp only [isSpace, decide_eq_false_iff_not, List.mem_cons, List.not_mem_nil, or_false]
    rintro (rfl | rfl | rfl | rfl) <;> cases isDigit
  all_goals
    rintro rfl
    cases isDigit

theorem SpellsMagnitude.exists_head {negative : Bool} {number : NumberText} {text : List Char}
    (spells : SpellsMagnitude negative number text) :
    ∃ first rest, text = first :: rest ∧ first.isDigit = true := by
  cases spells with
  | spelled areDigits _ _ _ =>
    obtain ⟨digit, digits, rfl⟩ := List.exists_cons_of_ne_nil areDigits.1
    exact ⟨digit, _, rfl, areDigits.2 digit List.mem_cons_self⟩

theorem Spells.exists_head {value : Json} {text : List Char} (spells : Spells value text) :
    ∃ first rest, text = first :: rest ∧ StartsValue first := by
  cases spells with
  | number spells =>
    cases spells with
    | positive spells =>
      obtain ⟨first, rest, rfl, isDigit⟩ := spells.exists_head
      exact ⟨first, rest, rfl, startsValue_of_isDigit isDigit⟩
    | negative spells => exact ⟨_, _, rfl, by decide⟩
  | string spells =>
    cases spells
    exact ⟨_, _, rfl, by decide⟩
  | _ => exact ⟨_, _, rfl, by decide⟩

theorem skipSpace_spells {value : Json} {blank text : List Char} (isBlank : IsBlank blank)
    (spells : Spells value text) (rest : List Char) : skipSpace (blank ++ text ++ rest) = text ++ rest := by
  obtain ⟨first, others, rfl, visible, -⟩ := spells.exists_head
  rw [List.append_assoc, skipSpace_append isBlank]
  exact skipSpace_cons visible

theorem SpellsItems.exists_head {items : List Json} {inner : List Char} (spells : SpellsItems items inner)
    (rest : List Char) : ∃ first others, skipSpace (inner ++ rest) = first :: others ∧ first ≠ ']' := by
  have front {value : Json} {before text : List Char} (isBlank : IsBlank before) (spells : Spells value text)
      (behind : List Char) :
      ∃ first others, skipSpace (before ++ text ++ behind) = first :: others ∧ first ≠ ']' := by
    obtain ⟨first, others, same, starts⟩ := spells.exists_head
    rw [skipSpace_spells isBlank spells, same]
    exact ⟨first, _, rfl, starts.2.1⟩
  cases spells with
  | @last value before text after isBlank spells back =>
    rw [List.append_assoc _ after]
    exact front isBlank spells _
  | @more value items before text after others isBlank spells back later =>
    rw [List.append_assoc _ after, List.append_assoc _ (after ++ _)]
    exact front isBlank spells _

theorem SpellsString.exists_head {value : Option String} {text : List Char}
    (spells : SpellsString value text) : ∃ inner, text = '"' :: inner := by
  cases spells
  exact ⟨_, rfl⟩

theorem SpellsMembers.exists_head {members : List (Option String × Json)} {inner : List Char}
    (spells : SpellsMembers members inner) (rest : List Char) :
    ∃ others, skipSpace (inner ++ rest) = '"' :: others := by
  have front {key : Option String} {before name : List Char} (isBlank : IsBlank before)
      (named : SpellsString key name) (behind : List Char) :
      ∃ others, skipSpace (before ++ name ++ behind) = '"' :: others := by
    obtain ⟨inner, rfl⟩ := named.exists_head
    rw [List.append_assoc, skipSpace_append isBlank]
    exact ⟨_, skipSpace_cons rfl⟩
  cases spells with
  | @last key value before name between blank text after isBlank named =>
    rw [List.append_assoc _ between, List.append_assoc _ (between ++ _)]
    exact front isBlank named _
  | @more key value members before name between blank text after later isBlank named =>
    rw [List.append_assoc _ between, List.append_assoc _ (between ++ _)]
    exact front isBlank named _

theorem endsNumber_append {blank : List Char} (isBlank : IsBlank blank) {mark : Char}
    (marks : mark ∈ [',', ']', '\x7d']) (rest : List Char) : EndsNumber (blank ++ mark :: rest) := by
  cases blank with
  | nil =>
    intro first front
    cases front
    simp only [List.mem_cons, List.not_mem_nil, or_false] at marks
    rcases marks with rfl | rfl | rfl <;> decide
  | cons first blank =>
    have front := endsNumber_of_isBlank isBlank
    exact front

theorem readPlain_spells {number : NumberText} {text rest : List Char} (spells : SpellsNumber number text)
    (ends : EndsNumber rest) : readPlain (text ++ rest) = some (.number number, rest) := by
  cases spells with
  | positive spells =>
    have found := readNumber_append spells ends
    obtain ⟨first, others, rfl, isDigit⟩ := spells.exists_head
    rw [List.cons_append] at found ⊢
    rw [readPlain]
    · exact found
    all_goals
      rintro others same
      cases same
      cases isDigit
  | negative spells => exact readNumber_append spells ends

/-- A value that is neither array nor object is read as such, wherever it begins. -/
theorem read_of_readPlain {fuel : Nat} {text plain rest : List Char} {value : Json}
    (front : skipSpace text = plain) (array : plain.head? ≠ some '[') (object : plain.head? ≠ some '\x7b')
    (found : readPlain plain = some (value, rest)) : read (fuel + 1) text = (value, some rest) := by
  rw [read, front]
  split
  · exact absurd rfl array
  · exact absurd rfl object
  · rw [found]

/-- Values whose spelling has this length or less are read, and what follows them is left. -/
structure ReadsWhole (fuel : Nat) : Prop where
  value : ∀ {blank text : List Char} {value : Json} (rest : List Char), IsBlank blank →
    Spells value text → (∀ number, value = .number number → EndsNumber rest) → 2 * text.length ≤ fuel →
    read fuel (blank ++ text ++ rest) = (value, some rest)
  items : ∀ {inner : List Char} {items : List Json} (rest : List Char), SpellsItems items inner →
    2 * inner.length + 1 ≤ fuel → readItems fuel (inner ++ ']' :: rest) = (items, some rest)
  members : ∀ {inner : List Char} {members : List (Option String × Json)} (rest : List Char),
    SpellsMembers members inner → 2 * inner.length + 1 ≤ fuel →
    readMembers fuel (inner ++ '\x7d' :: rest) = (members, some rest)

namespace ReadsWhole

variable {fuel : Nat}

theorem value_succ (inner : ReadsWhole fuel) {blank text : List Char} {value : Json} (rest : List Char)
    (isBlank : IsBlank blank) (spells : Spells value text)
    (ends : ∀ number, value = .number number → EndsNumber rest) (short : 2 * text.length ≤ fuel + 1) :
    read (fuel + 1) (blank ++ text ++ rest) = (value, some rest) := by
  have front := skipSpace_spells isBlank spells rest
  cases spells with
  | null | trueWord | falseWord =>
    exact read_of_readPlain front (by simp) (by simp) (readWord_append _ _ rest)
  | number spells =>
    refine read_of_readPlain front ?_ ?_ (readPlain_spells spells (ends _ rfl))
    all_goals
      cases spells with
      | positive spells =>
        obtain ⟨first, others, rfl, isDigit⟩ := spells.exists_head
        rintro same
        cases same
        cases isDigit
      | negative spells => simp
  | string spells =>
    obtain ⟨inner, opens, found⟩ := readString_append spells rest
    rw [opens] at front
    refine read_of_readPlain front (by simp) (by simp) ?_
    rw [readPlain, found]
    rfl
  | emptyArray blankInside =>
    have closes : skipSpace (_ ++ ']' :: rest) = ']' :: rest :=
      (skipSpace_append blankInside).trans (skipSpace_cons rfl)
    rw [read, front, List.append_assoc, List.cons_append]
    simp [closes]
  | @array items text spells =>
    obtain ⟨first, others, starts, other⟩ := spells.exists_head (']' :: rest)
    simp only [List.length_append, List.length_cons, List.length_nil] at short
    have found := inner.items rest spells (by omega)
    rw [read, front, List.append_assoc, List.cons_append]
    simp [starts, other, found]
  | emptyObject blankInside =>
    have closes : skipSpace (_ ++ '\x7d' :: rest) = '\x7d' :: rest :=
      (skipSpace_append blankInside).trans (skipSpace_cons rfl)
    rw [read, front, List.append_assoc, List.cons_append]
    simp [closes]
  | @object members text spells =>
    obtain ⟨others, starts⟩ := spells.exists_head ('\x7d' :: rest)
    simp only [List.length_append, List.length_cons, List.length_nil] at short
    have found := inner.members rest spells (by omega)
    rw [read, front, List.append_assoc, List.cons_append]
    simp [starts, found]

/-- An item, and what is looked at behind it. -/
theorem item (inner : ReadsWhole fuel) {before text after : List Char} {value : Json}
    (front : IsBlank before) (spells : Spells value text) (back : IsBlank after) (mark : Char)
    (marks : mark ∈ [',', ']', '\x7d']) (rest : List Char) (short : 2 * text.length ≤ fuel) :
    read fuel (before ++ text ++ (after ++ mark :: rest)) = (value, some (after ++ mark :: rest)) ∧
      skipSpace (after ++ mark :: rest) = mark :: rest := by
  refine ⟨inner.value _ front spells (fun _ _ => endsNumber_append back marks rest) short, ?_⟩
  rw [skipSpace_append back]
  refine skipSpace_cons ?_
  simp only [List.mem_cons, List.not_mem_nil, or_false] at marks
  rcases marks with rfl | rfl | rfl <;> rfl

theorem items_succ (inner : ReadsWhole fuel) {text : List Char} {items : List Json} (rest : List Char)
    (spells : SpellsItems items text) (short : 2 * text.length + 1 ≤ fuel + 1) :
    readItems (fuel + 1) (text ++ ']' :: rest) = (items, some rest) := by
  cases spells with
  | @last value before text after front spells back =>
    simp only [List.length_append] at short
    have found := inner.item front spells back ']' (by decide) rest (by omega)
    rw [readItems, List.append_assoc _ after, found.1]
    simp [found.2]
  | @more value items before text after others front spells back later =>
    simp only [List.length_append, List.length_cons] at short
    have found := inner.item front spells back ',' (by decide) (others ++ ']' :: rest) (by omega)
    obtain ⟨first, tail, starts, other⟩ := later.exists_head (']' :: rest)
    have more := inner.items rest later (by omega)
    rw [readItems, List.append_assoc _ (_ :: _), List.cons_append, List.append_assoc _ after, found.1]
    simp [found.2, starts, other, more]

theorem readKey_append {key : Option String} {before name between : List Char} (front : IsBlank before)
    (named : SpellsString key name) (middle : IsBlank between) (rest : List Char) :
    readKey (skipSpace (before ++ name ++ between ++ ':' :: rest)) = some (key, some rest) := by
  obtain ⟨inner, opens, found⟩ := readString_append named (between ++ ':' :: rest)
  have colon : skipSpace (between ++ ':' :: rest) = ':' :: rest :=
    (skipSpace_append middle).trans (skipSpace_cons rfl)
  rw [List.append_assoc _ between, List.append_assoc before, opens, skipSpace_append front,
    skipSpace_cons rfl, readKey, found]
  simp [colon]

theorem members_succ (inner : ReadsWhole fuel) {text : List Char} {members : List (Option String × Json)}
    (rest : List Char) (spells : SpellsMembers members text) (short : 2 * text.length + 1 ≤ fuel + 1) :
    readMembers (fuel + 1) (text ++ '\x7d' :: rest) = (members, some rest) := by
  cases spells with
  | @last key value before name between blank text after front named middle behind spells back =>
    simp only [List.length_append, List.length_cons] at short
    have found := inner.item behind spells back '\x7d' (by decide) rest (by omega)
    rw [readMembers, List.append_assoc _ (_ :: _), List.cons_append, readKey_append front named middle,
      List.append_assoc _ after]
    simp only [found.1, found.2]
  | @more key value members before name between blank text after others front named middle behind spells
      back later =>
    simp only [List.length_append, List.length_cons] at short
    have found := inner.item behind spells back ',' (by decide) (others ++ '\x7d' :: rest)
      (by omega)
    have more := inner.members rest later (by omega)
    rw [readMembers, List.append_assoc _ (_ :: _), List.cons_append, readKey_append front named middle,
      List.append_assoc _ (_ :: _), List.cons_append, List.append_assoc _ after]
    simp only [found.1, found.2, more]

end ReadsWhole

theorem readsWhole (fuel : Nat) : ReadsWhole fuel := by
  induction fuel with
  | zero =>
    constructor
    · intro blank text value rest _ spells _ short
      obtain ⟨first, others, rfl, -⟩ := spells.exists_head
      simp at short
    all_goals
      intro text list rest _ short
      omega
  | succ fuel ih => exact ⟨ih.value_succ, ih.items_succ, ih.members_succ⟩

/-! ## Texts -/

/-- The text of a document is read as its value, whatever stands behind it. -/
theorem read_of_begins {value : Json} {text rest : List Char} (begins : Begins value text rest)
    (ends : ∀ number, value = .number number → EndsNumber rest) :
    read (2 * text.length + 2) text = (value, some rest) := by
  obtain ⟨blank, spelled, isBlank, spells, rfl⟩ := begins
  refine (readsWhole _).value rest isBlank spells ends ?_
  simp only [List.length_append]
  omega

theorem isDocument_iff {value : Json} {text rest : List Char}
    (found : read (2 * text.length + 2) text = (value, some rest)) : IsDocument text ↔ IsBlank rest := by
  constructor
  · rintro ⟨other, behind, begins, isBlank⟩
    rw [read_of_begins begins fun _ _ => endsNumber_of_isBlank isBlank] at found
    cases found
    exact isBlank
  · intro isBlank
    exact ⟨value, rest, (readsSpelled _).value found, isBlank⟩

end Unannotate.Json
