import Unannotate.Configuration.File
import Unannotate.Proofs.Outcomes

/-!
# Objects are read field by field

What an object is decoded to depends on the values of its fields and not on the order of its members: each
field holds its only value, decoded, or nothing when no member has its key. The objects of the file, of a
rule and of a matcher are decoded exactly when this is so for all their fields and no other member stands in
the way, `decodeMembers_eq_ok_iff`. An array in place of an object has the fields at their positions.
-/
set_option autoImplicit false

namespace Unannotate

namespace Json

variable {α : Type} {decode : Json → FileDecoder α}

theorem within_eq_ok_iff {segment : PathSegment} {result : FileDecoder α} {value : α} :
    within segment result = .ok value ↔ result = .ok value :=
  mapError_eq_ok_iff

/-- The member has one of these keys. -/
def hasKey (keys : List String) (member : Option String × Json) : Bool := keys.any (member.1 == some ·)

/-- The values of the members that have one of these keys. -/
def under (keys : List String) (members : List (Option String × Json)) : List Json :=
  (members.filter (hasKey keys)).map (·.2)

/-- What a field holds behind some values: what it held before, or the only value, decoded. -/
inductive Given (decode : Json → FileDecoder α) : Option α → List Json → Option α → Prop
  | kept (before : Option α) : Given decode before [] before
  | decoded {value : Json} {found : α} (here : decode value = .ok found) :
      Given decode none [value] (some found)

section Fields

variable {before after : Option α} {value : Json} {values : List Json}

@[simp] theorem given_nil_iff : Given decode before [] after ↔ before = after := by
  constructor
  · rintro ⟨⟩
    rfl
  · rintro rfl
    exact .kept before

theorem given_cons_iff : Given decode before (value :: values) after ↔
    before = none ∧ ∃ found, decode value = .ok found ∧ Given decode (some found) values after := by
  constructor
  · rintro ⟨⟩
    next found here => exact ⟨rfl, found, here, .kept _⟩
  · rintro ⟨rfl, found, here, later⟩
    cases later
    exact .decoded here

theorem given_none_iff : Given decode none values after ↔
    values = [] ∧ after = none ∨ ∃ value found, values = [value] ∧ decode value = .ok found ∧
      after = some found := by
  constructor
  · rintro (_ | here)
    · exact .inl ⟨rfl, rfl⟩
    · exact .inr ⟨_, _, rfl, here, rfl⟩
  · rintro (⟨rfl, rfl⟩ | ⟨value, found, rfl, here, rfl⟩)
    · exact .kept none
    · exact .decoded here

/-- A field is given once at most. -/
theorem freshField_eq_ok_iff {field key : String} :
    freshField field key before decode value = .ok after ↔
      before = none ∧ ∃ found, decode value = .ok found ∧ after = some found := by
  unfold freshField
  cases before with
  | some _ => simp [mismatch]
  | none => cases decode value <;> simp [within, Except.mapError, Except.map, eq_comm]

/-- A field reads its value, and what follows goes on with that. -/
theorem bind_freshField_eq_ok_iff {β : Type} {field key : String} {next : Option α → FileDecoder β}
    {result : β} :
    (freshField field key before decode value >>= next) = .ok result ↔
      before = none ∧ ∃ found, decode value = .ok found ∧ next (some found) = .ok result := by
  simp only [outcome_bind_ok_iff, freshField_eq_ok_iff]
  constructor
  · rintro ⟨_, ⟨unset, found, here, rfl⟩, later⟩
    exact ⟨unset, found, here, later⟩
  · rintro ⟨unset, found, here, later⟩
    exact ⟨some found, ⟨unset, found, here, rfl⟩, later⟩

end Fields

section Under

variable {keys : List String} {member : Option String × Json} {rest : List (Option String × Json)}

@[simp] theorem under_nil : under keys [] = [] := rfl

theorem hasKey_iff : hasKey keys member = true ↔ member.1 ∈ keys.map some := by
  simp only [hasKey, List.any_eq_true, List.mem_map, beq_iff_eq]
  constructor
  · rintro ⟨key, listed, same⟩
    exact ⟨key, listed, same.symm⟩
  · rintro ⟨key, listed, same⟩
    exact ⟨key, listed, same.symm⟩

theorem hasKey_singleton (key : String) :
    hasKey [key] = fun member : Option String × Json => decide (member.1 = some key) := by
  funext member
  simp [hasKey, beq_eq_decide]

theorem under_cons_of_mem (listed : member.1 ∈ keys.map some) :
    under keys (member :: rest) = member.2 :: under keys rest := by
  rw [under, List.filter_cons_of_pos (hasKey_iff.mpr listed)]
  rfl

theorem under_cons_of_not_mem (other : member.1 ∉ keys.map some) :
    under keys (member :: rest) = under keys rest := by
  rw [under, List.filter_cons_of_neg (hasKey_iff.not.mpr other)]
  rfl

theorem under_pair_of_mem {key : String} {value : Json} (listed : key ∈ keys) :
    under keys ((some key, value) :: rest) = value :: under keys rest :=
  under_cons_of_mem (List.mem_map_of_mem listed)

theorem under_pair_of_not_mem {key : String} {value : Json} (other : key ∉ keys) :
    under keys ((some key, value) :: rest) = under keys rest :=
  under_cons_of_not_mem (by simpa using other)

theorem under_append (keys : List String) (front back : List (Option String × Json)) :
    under keys (front ++ back) = under keys front ++ under keys back := by
  simp [under]

section AppendCons

variable {front back : List (Option String × Json)} {key : String} (value : Json)

theorem under_append_cons_of_mem (listed : key ∈ keys) :
    under keys (front ++ (some key, value) :: back) = under keys front ++ value :: under keys back := by
  rw [under_append, under_pair_of_mem listed]

theorem under_append_cons_of_not_mem (other : key ∉ keys) :
    under keys (front ++ (some key, value) :: back) = under keys (front ++ back) := by
  rw [under_append, under_pair_of_not_mem other, under_append]

theorem under_eq_nil (absent : ∀ member ∈ front, member.1 ≠ some key) : under [key] front = [] := by
  rw [under, List.filter_eq_nil_iff.mpr]
  · rfl
  · intro member inside
    simpa [hasKey] using absent member inside

end AppendCons

end Under

section Arrays

variable {items : List Json} {closed : Bool} {position : Nat} {missing : FileDecoder α} {found : α}

theorem item_eq_ok_iff : item items closed position decode missing = .ok found ↔
    (∃ value, items[position]? = some value ∧ decode value = .ok found) ∨
      items[position]? = none ∧ closed = true ∧ missing = .ok found := by
  unfold item
  cases items[position]? with
  | some value => simp [within_eq_ok_iff]
  | none => cases closed <;> simp [unreadable]

theorem endItems_eq_ok_iff {count : Nat} {nothing : Unit} :
    endItems items closed count = .ok nothing ↔ items.length ≤ count ∧ closed = true := by
  unfold endItems
  split
  · next ends => simp [ends]
  · next more => simp [unreadable, more]

theorem decodeItems_eq_ok_iff {values : List α} : decodeItems decode position items = .ok values ↔
    List.Forall₂ (fun item value => decode item = .ok value) items values := by
  induction items generalizing position values with
  | nil => simp [decodeItems, eq_comm]
  | cons item rest ih =>
    rw [decodeItems, outcome_bind_ok_iff]
    constructor
    · rintro ⟨first, here, later⟩
      obtain ⟨others, made, returned⟩ := outcome_bind_ok_iff.mp later
      cases returned
      exact .cons (within_eq_ok_iff.mp here) (ih.mp made)
    · rintro (_ | ⟨here, later⟩)
      exact ⟨_, within_eq_ok_iff.mpr here, outcome_bind_ok_iff.mpr ⟨_, ih.mpr later, rfl⟩⟩

theorem decodeList_array_eq_ok_iff {values : List α} : decodeList decode (.array items closed) = .ok values ↔
    closed = true ∧ List.Forall₂ (fun item value => decode item = .ok value) items values := by
  rw [decodeList, outcome_bind_ok_iff]
  simp only [decodeItems_eq_ok_iff]
  cases closed <;> simp [unreadable]

end Arrays

theorem areWhole_iff {items : List Json} :
    areWhole items = true ↔ ∀ item ∈ items, item.isWhole = true := by
  induction items with
  | nil => simp [areWhole]
  | cons item rest ih => simp [areWhole, ih]

theorem membersAreWhole_iff {members : List (Option String × Json)} :
    membersAreWhole members = true ↔ ∀ member ∈ members, member.2.isWhole = true := by
  induction members with
  | nil => simp [membersAreWhole]
  | cons member rest ih => simp [membersAreWhole, ih]

theorem wrongType_ne_ok {ε : Type} {expected : String} {value : Json} {found : α} :
    (wrongType expected value : Except (DecodingFault ε) α) ≠ .ok found := by
  unfold wrongType
  split <;> rintro ⟨⟩

theorem skipValue_eq_ok_iff {ε : Type} {value : Json} {nothing : Unit} :
    (skipValue value : Except (DecodingFault ε) Unit) = .ok nothing ↔ value.isWhole = true := by
  unfold skipValue
  split
  · next whole => simp [whole]
  · next broken => simp [unreadable, broken]

theorem decodeOption_eq_ok_iff {value : Json} {found : Option α} :
    decodeOption decode value = .ok found ↔ value = .null ∧ found = none ∨
      value ≠ .null ∧ ∃ inside, decode value = .ok inside ∧ found = some inside := by
  unfold decodeOption
  split
  · simp [eq_comm]
  · next given =>
    have noNull : value ≠ .null := fun same => given same
    cases decode value <;> simp [noNull, Except.map, eq_comm]

theorem decodeWord_eq_ok_iff {words : List (String × α)} {value : Json} {found : α} :
    (decodeWord words value : FileDecoder α) = .ok found ↔
      ∃ word, (value = .string (some word) ∨ value = .object [(some word, .null)] true) ∧
        (words.find? (·.1 = word)).map (·.2) = some found := by
  have chosen (word : String) : (decodeWord.choose words word : FileDecoder α) = .ok found ↔
      (words.find? (·.1 = word)).map (·.2) = some found := by
    unfold decodeWord.choose
    cases words.find? (·.1 = word) <;> simp [mismatch]
  constructor
  · intro decoded
    unfold decodeWord at decoded
    split at decoded
    · next word => exact ⟨word, .inl rfl, (chosen word).mp decoded⟩
    · next word inside others closed =>
      obtain ⟨first, here, later⟩ := outcome_bind_ok_iff.mp decoded
      obtain ⟨_, unit, returned⟩ := outcome_bind_ok_iff.mp later
      split at returned
      · next ends =>
        cases returned
        obtain ⟨rfl, none⟩ := ends
        obtain rfl := List.isEmpty_iff.mp none
        cases inside with
        | null => exact ⟨word, .inr rfl, (chosen word).mp here⟩
        | _ => exact absurd (within_eq_ok_iff.mp unit) wrongType_ne_ok
      · cases returned
    · cases decoded
  · rintro ⟨word, rfl | rfl, here⟩
    · exact (chosen word).mpr here
    · exact outcome_bind_ok_iff.mpr ⟨found, (chosen word).mpr here, rfl⟩

end Json

open Json

/-! ## Element kinds -/

namespace Targets

/-- The names of one string, or of a list of strings. -/
inductive Names : Json → List String → Prop
  | one (name : String) : Names (.string (some name)) [name]
  | list (names : List String) : Names (.array (names.map fun name => .string (some name)) true) names

theorem names?_eq_some_iff {items : List Json} {names : List String} :
    names? items = some names ↔ items = names.map fun name => .string (some name) := by
  induction items generalizing names with
  | nil => cases names <;> simp [names?]
  | cons item rest ih =>
    unfold names?
    split
    · next same => cases same
    · next name others same =>
      cases same
      cases names <;> simp [ih, and_comm]
    · next noName same =>
      cases same
      cases names with
      | nil => simp
      | cons name names => simpa using fun here _ => noName name here

theorem Names.isReadable {value : Json} {names : List String} (given : Names value names) :
    isReadable maxLevels value = true := by
  cases given with
  | one name => rfl
  | list =>
    simp only [Targets.isReadable, maxLevels, Bool.true_and]
    induction names with
    | nil => rfl
    | cons name rest ih => exact ih

theorem ofNamesChecked_eq_ok_iff {names : List String} {targets : Targets} :
    ofNamesChecked names = .ok targets ↔ ofNames names = .ok targets := by
  unfold ofNamesChecked
  cases ofNames names <;> simp [Json.mismatch]

/-- Kinds are decoded from one name or a list of names. -/
theorem decode_eq_ok_iff {value : Json} {targets : Targets} :
    decode value = .ok targets ↔ ∃ names, Names value names ∧ ofNames names = .ok targets := by
  constructor
  · intro decoded
    unfold decode at decoded
    split at decoded
    · next readable =>
      split at decoded
      · next name => exact ⟨[name], .one name, ofNamesChecked_eq_ok_iff.mp decoded⟩
      · next items closed =>
        have isClosed : closed = true := by
          simp only [isReadable, maxLevels, Bool.and_eq_true] at readable
          exact readable.1
        subst isClosed
        split at decoded
        · next names given =>
          obtain rfl := names?_eq_some_iff.mp given
          exact ⟨names, .list names, ofNamesChecked_eq_ok_iff.mp decoded⟩
        · cases decoded
      · cases decoded
    · cases decoded
  · rintro ⟨names, given, named⟩
    unfold decode
    rw [if_pos given.isReadable]
    cases given with
    | one name => exact ofNamesChecked_eq_ok_iff.mpr named
    | list => simpa [names?_eq_some_iff.mpr rfl] using ofNamesChecked_eq_ok_iff.mpr named

end Targets

/-! ## Matchers -/

namespace MatcherSpec

def known : List String := ["kind", "value"]

/-- A key that can be read, and a value that can be passed over where it is no field. -/
def Passes (member : Option String × Json) : Prop :=
  member.1 ≠ none ∧ (member.1 ∉ known.map some → member.2.isWhole = true)

theorem passes_of_mem_known {key : String} (field : key ∈ known) (value : Json) : Passes (some key, value) :=
  ⟨nofun, fun stray => absurd (List.mem_map_of_mem field) stray⟩

theorem decodeMembers_eq_ok_iff {fields found : Fields} {members : List (Option String × Json)} :
    decodeMembers fields members = .ok found ↔ (∀ member ∈ members, Passes member) ∧
      Given MatcherKind.decode fields.kind (under ["kind"] members) found.kind ∧
      Given decodeValue fields.value (under ["value"] members) found.value := by
  induction members generalizing fields with
  | nil =>
    obtain ⟨kind, value⟩ := fields
    obtain ⟨kind', value'⟩ := found
    simp [decodeMembers]
  | cons member rest ih =>
    obtain ⟨key, value⟩ := member
    rw [List.forall_mem_cons]
    cases key with
    | none => simp [decodeMembers, unreadable, Passes]
    | some key =>
      rw [decodeMembers.eq_def]
      dsimp only
      -- One case for each field, in which the other ones are left alone, and one for other keys.
      split
      · rw [bind_freshField_eq_ok_iff, under_pair_of_mem (by decide), given_cons_iff,
          under_pair_of_not_mem (by decide)]
        simp only [pure_bind, ih, passes_of_mem_known (show "kind" ∈ known by decide)]
        tauto
      · rw [bind_freshField_eq_ok_iff, under_pair_of_not_mem (by decide), under_pair_of_mem (by decide),
          given_cons_iff]
        simp only [pure_bind, ih, passes_of_mem_known (show "value" ∈ known by decide)]
        tauto
      · next noKind noValue =>
        have passes : Passes (some key, value) ↔ value.isWhole = true := by
          simp [Passes, known, show key ≠ "kind" from noKind, show key ≠ "value" from noValue]
        rw [under_pair_of_not_mem (by simpa using noKind), under_pair_of_not_mem (by simpa using noValue),
          passes]
        simp only [pure_bind, outcome_bind_ok_iff, ih, skipValue_eq_ok_iff, exists_const]
        tauto

theorem decode_object_eq_ok_iff {members : List (Option String × Json)} {closed : Bool} {spec : MatcherSpec} :
    decode (.object members closed) = .ok spec ↔ closed = true ∧ (∀ member ∈ members, Passes member) ∧
      Given MatcherKind.decode none (under ["kind"] members) (some spec.kind) ∧
      Given decodeValue none (under ["value"] members) (some spec.value) := by
  obtain ⟨kind, value⟩ := spec
  rw [decode, outcome_bind_ok_iff]
  simp only [decodeMembers_eq_ok_iff]
  constructor
  · rintro ⟨⟨_ | kind', _ | value'⟩, found, returned⟩ <;> cases closed <;> cases returned
    exact ⟨rfl, found⟩
  · rintro ⟨rfl, found⟩
    exact ⟨⟨some kind, some value⟩, found, rfl⟩

theorem decode_array_eq_ok_iff {items : List Json} {closed : Bool} {spec : MatcherSpec} :
    decode (.array items closed) = .ok spec ↔ items.length ≤ 2 ∧ closed = true ∧
      item items closed 0 MatcherKind.decode (Json.mismatch (.length 0 (expected ++ " with 2 elements")))
        = .ok spec.kind ∧
      item items closed 1 decodeValue (Json.mismatch (.length 1 (expected ++ " with 2 elements")))
        = .ok spec.value := by
  obtain ⟨kind, value⟩ := spec
  simp only [decode, outcome_bind_ok_iff, endItems_eq_ok_iff]
  constructor
  · rintro ⟨_, first, _, second, _, ⟨ends, isClosed⟩, returned⟩
    cases returned
    exact ⟨ends, isClosed, first, second⟩
  · rintro ⟨ends, isClosed, first, second⟩
    exact ⟨kind, first, value, second, (), ⟨ends, isClosed⟩, rfl⟩

end MatcherSpec

/-! ## Rules -/

namespace RuleSpec

/-- The two names of the field for element kinds. -/
def kindKeys : List String := ["elementKinds", "from"]

theorem decodeMembers_eq_ok_iff {fields found : Fields} {members : List (Option String × Json)} :
    decodeMembers fields members = .ok found ↔ (∀ member ∈ members, member.1 ∈ known.map some) ∧
      Given decodeMatcher fields.matcher (under ["matcher"] members) found.matcher ∧
      Given decodeText fields.name (under ["name"] members) found.name ∧
      Given decodeText fields.regexp (under ["regexp"] members) found.regexp ∧
      Given Targets.decode fields.targets (under kindKeys members) found.targets := by
  induction members generalizing fields with
  | nil =>
    obtain ⟨matcher, name, regexp, targets⟩ := fields
    obtain ⟨matcher', name', regexp', targets'⟩ := found
    simp [decodeMembers]
  | cons member rest ih =>
    obtain ⟨key, value⟩ := member
    rw [List.forall_mem_cons]
    cases key with
    | none => simp [decodeMembers, unreadable]
    | some key =>
      rw [decodeMembers.eq_def]
      dsimp only
      split
      · rw [bind_freshField_eq_ok_iff, under_pair_of_mem (by decide), given_cons_iff,
          under_pair_of_not_mem (by decide), under_pair_of_not_mem (by decide), under_pair_of_not_mem (by decide)]
        simp only [pure_bind, ih, show some "matcher" ∈ known.map some by decide]
        tauto
      · rw [bind_freshField_eq_ok_iff, under_pair_of_not_mem (by decide), under_pair_of_mem (by decide),
          given_cons_iff, under_pair_of_not_mem (by decide), under_pair_of_not_mem (by decide)]
        simp only [pure_bind, ih, show some "name" ∈ known.map some by decide]
        tauto
      · rw [bind_freshField_eq_ok_iff, under_pair_of_not_mem (by decide), under_pair_of_not_mem (by decide),
          under_pair_of_mem (by decide), given_cons_iff, under_pair_of_not_mem (by decide)]
        simp only [pure_bind, ih, show some "regexp" ∈ known.map some by decide]
        tauto
      · rw [bind_freshField_eq_ok_iff, under_pair_of_not_mem (by decide), under_pair_of_not_mem (by decide),
          under_pair_of_not_mem (by decide), under_pair_of_mem (by decide), given_cons_iff]
        simp only [pure_bind, ih, show some "elementKinds" ∈ known.map some by decide]
        tauto
      · rw [bind_freshField_eq_ok_iff, under_pair_of_not_mem (by decide), under_pair_of_not_mem (by decide),
          under_pair_of_not_mem (by decide), under_pair_of_mem (by decide), given_cons_iff]
        simp only [pure_bind, ih, show some "from" ∈ known.map some by decide]
        tauto
      · next noMatcher noName noRegexp noKinds noFrom =>
        have stray : some key ∉ known.map some := by
          simp [known]
          tauto
        simp [within, mismatch, Except.mapError, stray, bind, Except.bind]

theorem decode_object_eq_ok_iff {members : List (Option String × Json)} {closed : Bool} {spec : RuleSpec} :
    decode (.object members closed) = .ok spec ↔ closed = true ∧
      ∃ fields, decodeMembers {} members = .ok fields ∧ spec = ofFields fields := by
  rw [decode, outcome_bind_ok_iff]
  cases closed <;> simp [unreadable, pure, Except.pure, eq_comm]

theorem decode_array_eq_ok_iff {items : List Json} {closed : Bool} {spec : RuleSpec} :
    decode (.array items closed) = .ok spec ↔ items.length ≤ 4 ∧ closed = true ∧
      item items closed 0 decodeMatcher (.ok none) = .ok spec.matcher ∧
      item items closed 1 decodeText (.ok none) = .ok spec.name ∧
      item items closed 2 decodeText (.ok none) = .ok spec.regexp ∧
      item items closed 3 Targets.decode (.ok .all) = .ok spec.targets := by
  obtain ⟨matcher, name, regexp, targets⟩ := spec
  simp only [decode, outcome_bind_ok_iff, endItems_eq_ok_iff]
  constructor
  · rintro ⟨_, first, _, second, _, third, _, fourth, _, ⟨ends, isClosed⟩, returned⟩
    cases returned
    exact ⟨ends, isClosed, first, second, third, fourth⟩
  · rintro ⟨ends, isClosed, first, second, third, fourth⟩
    exact ⟨matcher, first, name, second, regexp, third, targets, fourth, (), ⟨ends, isClosed⟩, rfl⟩

end RuleSpec

/-! ## Configuration files -/

namespace ConfigurationFile

theorem decodeMembers_eq_ok_iff {fields found : Fields} {members : List (Option String × Json)} :
    decodeMembers fields members = .ok found ↔ (∀ member ∈ members, member.1 ∈ known.map some) ∧
      Given decodeRules fields.rules (under ["rules"] members) found.rules ∧
      Given decodeFlags fields.flags (under ["rewriteFlags"] members) found.flags ∧
      Given decodeBool fields.overwrite (under ["overwrite"] members) found.overwrite := by
  induction members generalizing fields with
  | nil =>
    obtain ⟨rules, flags, overwrite⟩ := fields
    obtain ⟨rules', flags', overwrite'⟩ := found
    simp [decodeMembers]
  | cons member rest ih =>
    obtain ⟨key, value⟩ := member
    rw [List.forall_mem_cons]
    cases key with
    | none => simp [decodeMembers, unreadable]
    | some key =>
      rw [decodeMembers.eq_def]
      dsimp only
      split
      · rw [bind_freshField_eq_ok_iff, under_pair_of_mem (by decide), given_cons_iff,
          under_pair_of_not_mem (by decide), under_pair_of_not_mem (by decide)]
        simp only [pure_bind, ih, show some "rules" ∈ known.map some by simp [known]]
        tauto
      · rw [bind_freshField_eq_ok_iff, under_pair_of_not_mem (by decide), under_pair_of_mem (by decide),
          given_cons_iff, under_pair_of_not_mem (by decide)]
        simp only [pure_bind, ih, show some "rewriteFlags" ∈ known.map some by simp [known]]
        tauto
      · rw [bind_freshField_eq_ok_iff, under_pair_of_not_mem (by decide), under_pair_of_not_mem (by decide),
          under_pair_of_mem (by decide), given_cons_iff]
        simp only [pure_bind, ih, show some "overwrite" ∈ known.map some by simp [known]]
        tauto
      · next noRules noFlags noOverwrite =>
        have stray : some key ∉ known.map some := by
          simp [known]
          tauto
        simp [within, mismatch, Except.mapError, stray, bind, Except.bind]

theorem decode_object_eq_ok_iff {members : List (Option String × Json)} {closed : Bool}
    {file : ConfigurationFile} :
    decode (.object members closed) = .ok file ↔ closed = true ∧
      ∃ fields, decodeMembers {} members = .ok fields ∧ file = ofFields fields := by
  rw [decode, outcome_bind_ok_iff]
  cases closed <;> simp [unreadable, pure, Except.pure, eq_comm]

theorem decode_array_eq_ok_iff {items : List Json} {closed : Bool} {file : ConfigurationFile} :
    decode (.array items closed) = .ok file ↔ items.length ≤ 3 ∧ closed = true ∧
      item items closed 0 decodeRules (.ok []) = .ok file.rules ∧
      item items closed 1 decodeFlags (.ok []) = .ok file.flags ∧
      item items closed 2 decodeBool (.ok false) = .ok file.overwrite := by
  obtain ⟨rules, flags, overwrite⟩ := file
  simp only [decode, outcome_bind_ok_iff, endItems_eq_ok_iff]
  constructor
  · rintro ⟨_, first, _, second, _, third, _, ⟨ends, isClosed⟩, returned⟩
    cases returned
    exact ⟨ends, isClosed, first, second, third⟩
  · rintro ⟨ends, isClosed, first, second, third⟩
    exact ⟨rules, first, flags, second, overwrite, third, (), ⟨ends, isClosed⟩, rfl⟩

end ConfigurationFile

end Unannotate
