import Unannotate.Proofs.Configuration.Kinds
import Unannotate.Proofs.Configuration.StrayKeys

/-!
# The rule that does not fit is named

What a rule has to look like is laid down here on its value alone, `RuleSpec.Fits`, and a value is decoded
exactly when it looks so. Where the rules are the first field of a document, decoding fails at the first
one that does not fit, and the fault's path leads to that rule, whatever stands behind it. Where everything
in the rule can be read, the message begins with that path.
-/
set_option autoImplicit false

namespace Unannotate

/-! ## What fits -/

namespace Json

variable {α : Type} {decode : Json → FileDecoder α} {fits : Json → Prop}

def IsText (value : Json) : Prop := ∃ text, value = .string (some text)

def OrNull (fits : Json → Prop) (value : Json) : Prop := value = .null ∨ fits value

/-- No value at all, or a single one that fits. -/
def AtMostOne (fits : Json → Prop) (values : List Json) : Prop :=
  values = [] ∨ ∃ value, values = [value] ∧ fits value

/-- The item at a position fits if there is one. -/
def FitsAt (fits : Json → Prop) (items : List Json) (position : Nat) : Prop :=
  ∀ value, items[position]? = some value → fits value

/-- Exactly the values that fit are decoded. -/
def Accepts (decode : Json → FileDecoder α) (fits : Json → Prop) : Prop :=
  ∀ value, (∃ found, decode value = .ok found) ↔ fits value

theorem accepts_decodeString (expected : String) : Accepts (decodeString expected) IsText := by
  intro value
  constructor
  · rintro ⟨found, decoded⟩
    unfold decodeString at decoded
    split at decoded
    · next text => exact ⟨text, rfl⟩
    · exact absurd decoded wrongType_ne_ok
  · rintro ⟨text, rfl⟩
    exact ⟨text, rfl⟩

theorem Accepts.option (accepts : Accepts decode fits) (noNull : ¬fits .null) :
    Accepts (decodeOption decode) (OrNull fits) := by
  intro value
  constructor
  · rintro ⟨found, decoded⟩
    obtain ⟨rfl, -⟩ | ⟨-, inside, here, -⟩ := decodeOption_eq_ok_iff.mp decoded
    · exact .inl rfl
    · exact .inr ((accepts value).mp ⟨inside, here⟩)
  · rintro (rfl | fit)
    · exact ⟨none, rfl⟩
    · have given : value ≠ .null := fun same => noNull (same ▸ fit)
      obtain ⟨inside, here⟩ := (accepts value).mpr fit
      exact ⟨some inside, decodeOption_eq_ok_iff.mpr (.inr ⟨given, inside, here, rfl⟩)⟩

theorem Accepts.given (accepts : Accepts decode fits) {values : List Json} :
    (∃ after, Given decode none values after) ↔ AtMostOne fits values := by
  constructor
  · rintro ⟨after, given⟩
    obtain ⟨none, -⟩ | ⟨value, found, single, here, -⟩ := given_none_iff.mp given
    · exact .inl none
    · exact .inr ⟨value, single, (accepts value).mp ⟨found, here⟩⟩
  · rintro (rfl | ⟨value, rfl, fit⟩)
    · exact ⟨none, .kept none⟩
    · obtain ⟨found, here⟩ := (accepts value).mpr fit
      exact ⟨some found, .decoded here⟩

/-- A field that has to be given. -/
theorem Accepts.required (accepts : Accepts decode fits) {values : List Json} :
    (∃ found, Given decode none values (some found)) ↔ ∃ value, values = [value] ∧ fits value := by
  constructor
  · rintro ⟨found, given⟩
    cases given with
    | decoded here => exact ⟨_, rfl, (accepts _).mp ⟨found, here⟩⟩
  · rintro ⟨value, rfl, fit⟩
    obtain ⟨found, here⟩ := (accepts value).mpr fit
    exact ⟨found, .decoded here⟩

theorem Accepts.item (accepts : Accepts decode fits) (default : α) {items : List Json} {position : Nat} :
    (∃ found, item items true position decode (.ok default) = .ok found) ↔ FitsAt fits items position := by
  simp only [item_eq_ok_iff, true_and]
  constructor
  · rintro ⟨found, ⟨value, here, decoded⟩ | ⟨absent, -⟩⟩ other there
    · rw [here] at there
      cases there
      exact (accepts value).mp ⟨found, decoded⟩
    · rw [absent] at there
      cases there
  · intro fit
    cases here : items[position]? with
    | none => exact ⟨default, .inr ⟨rfl, rfl⟩⟩
    | some value =>
      obtain ⟨found, decoded⟩ := (accepts value).mpr (fit value here)
      exact ⟨found, .inl ⟨value, rfl, decoded⟩⟩

end Json

open Json

namespace MatcherKind

/-- One of the two words, as a string or as the key of a null. -/
def Fits (value : Json) : Prop :=
  ∃ word ∈ ["literal", "regex"], value = .string (some word) ∨ value = .object [(some word, .null)] true

theorem accepts_decode : Accepts decode Fits := by
  intro value
  simp only [decode, decodeWord_eq_ok_iff]
  constructor
  · rintro ⟨kind, word, shape, known⟩
    refine ⟨word, ?_, shape⟩
    obtain ⟨⟨found, _⟩, here, -⟩ := Option.map_eq_some_iff.mp known
    obtain rfl : found = word := by simpa using List.find?_some here
    have listed : found ∈ words.map (·.1) := List.mem_map_of_mem (List.mem_of_find?_eq_some here)
    exact listed
  · rintro ⟨word, listed, shape⟩
    simp only [List.mem_cons, List.not_mem_nil, or_false] at listed
    rcases listed with rfl | rfl
    · exact ⟨.literal, _, shape, rfl⟩
    · exact ⟨.regex, _, shape, rfl⟩

end MatcherKind

namespace MatcherSpec

/-- A kind and a text, each given once; other members are passed over. -/
def Fits : Json → Prop
  | .object members closed => closed = true ∧ (∀ member ∈ members, Passes member) ∧
    (∃ kind, under ["kind"] members = [kind] ∧ MatcherKind.Fits kind) ∧
    ∃ value, under ["value"] members = [value] ∧ IsText value
  | .array items closed => closed = true ∧
    ∃ kind value, items = [kind, value] ∧ MatcherKind.Fits kind ∧ IsText value
  | _ => False

theorem accepts_decode : Accepts decode Fits := by
  intro value
  cases value with
  | object members closed =>
    simp only [Fits, ← MatcherKind.accepts_decode.required, ← (accepts_decodeString "a string").required]
    constructor
    · rintro ⟨spec, decoded⟩
      obtain ⟨isClosed, passes, kind, value⟩ := decode_object_eq_ok_iff.mp decoded
      exact ⟨isClosed, passes, ⟨_, kind⟩, _, value⟩
    · rintro ⟨isClosed, passes, ⟨kind, kindGiven⟩, value, valueGiven⟩
      exact ⟨⟨kind, value⟩, decode_object_eq_ok_iff.mpr ⟨isClosed, passes, kindGiven, valueGiven⟩⟩
  | array items closed =>
    simp only [decode_array_eq_ok_iff, item_eq_ok_iff]
    constructor
    · rintro ⟨spec, ends, isClosed, ⟨kind, first, kindDecoded⟩ | ⟨_, _, short⟩,
        ⟨value, second, valueDecoded⟩ | ⟨_, _, short⟩⟩
      · refine ⟨isClosed, kind, value, ?_, (MatcherKind.accepts_decode kind).mp ⟨_, kindDecoded⟩,
          (accepts_decodeString _ value).mp ⟨_, valueDecoded⟩⟩
        match items, ends with
        | [_, _], _ =>
          cases first
          cases second
          rfl
        | [_], _ => cases second
        | [], _ => cases first
      all_goals cases short
    · rintro ⟨isClosed, kind, value, rfl, kindFits, isText⟩
      obtain ⟨kindFound, kindDecoded⟩ := (MatcherKind.accepts_decode kind).mpr kindFits
      obtain ⟨text, valueDecoded⟩ := (accepts_decodeString "a string" value).mpr isText
      exact ⟨⟨kindFound, text⟩, le_rfl, isClosed, .inl ⟨kind, rfl, kindDecoded⟩, .inl ⟨value, rfl, valueDecoded⟩⟩
  | _ =>
    refine iff_of_false ?_ id
    rintro ⟨spec, decoded⟩
    simp only [decode] at decoded
    exact wrongType_ne_ok decoded

end MatcherSpec

namespace Targets

/-- A name or a list of names, of which at least one is looked at or stands for every kind, and those that
are looked at are spellings. -/
def Fits (value : Json) : Prop :=
  ∃ names, Names value names ∧ names ≠ [] ∧
    ∀ name ∈ looked names, ∃ kind, ElementKind.ofSpelling? name = some kind

theorem accepts_decode : Accepts decode Fits := by
  intro value
  simp only [decode_eq_ok_iff, Fits, ← exists_ofNames_iff]
  exact ⟨fun ⟨targets, names, given, named⟩ => ⟨names, given, targets, named⟩,
    fun ⟨names, given, targets, named⟩ => ⟨targets, names, given, named⟩⟩

end Targets

namespace RuleSpec

/-- Only known keys, each field given once at most, and the values of the fields as they should be. In
place of the object there may be the array of its fields. -/
def Fits : Json → Prop
  | .object members closed => closed = true ∧ (∀ member ∈ members, member.1 ∈ known.map some) ∧
    AtMostOne (OrNull MatcherSpec.Fits) (under ["matcher"] members) ∧
    AtMostOne (OrNull IsText) (under ["name"] members) ∧
    AtMostOne (OrNull IsText) (under ["regexp"] members) ∧
    AtMostOne Targets.Fits (under kindKeys members)
  | .array items closed => closed = true ∧ items.length ≤ 4 ∧
    FitsAt (OrNull MatcherSpec.Fits) items 0 ∧ FitsAt (OrNull IsText) items 1 ∧
    FitsAt (OrNull IsText) items 2 ∧ FitsAt Targets.Fits items 3
  | _ => False

theorem accepts_decodeMatcher : Accepts decodeMatcher (OrNull MatcherSpec.Fits) :=
  MatcherSpec.accepts_decode.option id

theorem accepts_decodeText : Accepts decodeText (OrNull IsText) :=
  (accepts_decodeString "a string").option nofun

/-- A rule is decoded exactly when it fits. -/
theorem accepts_decode : Accepts decode Fits := by
  intro value
  cases value with
  | object members closed =>
    simp only [Fits, ← accepts_decodeMatcher.given, ← accepts_decodeText.given, ← Targets.accepts_decode.given]
    constructor
    · rintro ⟨spec, decoded⟩
      obtain ⟨isClosed, fields, found, -⟩ := decode_object_eq_ok_iff.mp decoded
      obtain ⟨fieldsKnown, matcher, name, regexp, targets⟩ := decodeMembers_eq_ok_iff.mp found
      exact ⟨isClosed, fieldsKnown, ⟨_, matcher⟩, ⟨_, name⟩, ⟨_, regexp⟩, _, targets⟩
    · rintro ⟨isClosed, fieldsKnown, ⟨matcher, first⟩, ⟨name, second⟩, ⟨regexp, third⟩, targets, fourth⟩
      have found : decodeMembers {} members = .ok { matcher, name, regexp, targets } :=
        decodeMembers_eq_ok_iff.mpr ⟨fieldsKnown, first, second, third, fourth⟩
      exact ⟨_, decode_object_eq_ok_iff.mpr ⟨isClosed, _, found, rfl⟩⟩
  | array items closed =>
    cases closed with
    | false => exact iff_of_false (fun ⟨_, decoded⟩ => nomatch (decode_array_eq_ok_iff.mp decoded).2.1) nofun
    | true =>
      simp only [Fits, ← accepts_decodeMatcher.item none, ← accepts_decodeText.item none,
        ← Targets.accepts_decode.item .all]
      constructor
      · rintro ⟨spec, decoded⟩
        obtain ⟨ends, -, matcher, name, regexp, targets⟩ := decode_array_eq_ok_iff.mp decoded
        exact ⟨trivial, ends, ⟨_, matcher⟩, ⟨_, name⟩, ⟨_, regexp⟩, _, targets⟩
      · rintro ⟨-, ends, ⟨matcher, first⟩, ⟨name, second⟩, ⟨regexp, third⟩, targets, fourth⟩
        exact ⟨{ matcher, name, regexp, targets },
          decode_array_eq_ok_iff.mpr ⟨ends, rfl, first, second, third, fourth⟩⟩
  | _ =>
    refine iff_of_false ?_ id
    rintro ⟨spec, decoded⟩
    simp only [decode] at decoded
    exact wrongType_ne_ok decoded

end RuleSpec

/-! ## Where decoding fails -/

namespace Json

variable {α : Type} {decode : Json → FileDecoder α} {fault : DecodingFault TargetsFault}

/-- The first item that fails is where a list fails. -/
theorem decodeItems_eq_error {front : List Json} {item : Json} (position : Nat) (back : List Json)
    (before : ∀ other ∈ front, ∃ found, decode other = .ok found) (here : decode item = .error fault) :
    decodeItems decode position (front ++ item :: back)
      = .error (fault.within (.index (position + front.length))) := by
  induction front generalizing position with
  | nil => simp [decodeItems, within, here, Except.mapError, bind, Except.bind]
  | cons other front ih =>
    obtain ⟨⟨found, decoded⟩, later⟩ := List.forall_mem_cons.mp before
    have first : within (.index position) (decode other) = .ok found := within_eq_ok_iff.mpr decoded
    rw [List.cons_append, decodeItems, first, List.length_cons,
      show position + (front.length + 1) = position + 1 + front.length by omega]
    show (decodeItems decode (position + 1) (front ++ item :: back) >>= _) = _
    rw [ih (position + 1) later]
    rfl

end Json

/-! ## What can be said of a fault -/

namespace Json

variable {α β : Type} {decode : Json → FileDecoder α} {value : Json} {levels : Nat}

/-- Where there is a fault, it says what is wrong. -/
def Explains (result : FileDecoder α) : Prop :=
  ∀ fault, result = .error fault → ∃ path reason, fault = .mismatch path reason

theorem explains_ok (found : α) : Explains (.ok found) := nofun

theorem explains_mismatch (reason : Mismatch TargetsFault) : Explains (mismatch reason : FileDecoder α) := by
  rintro fault same
  cases same
  exact ⟨_, _, rfl⟩

theorem Explains.within {result : FileDecoder α} (explains : Explains result) (segment : PathSegment) :
    Explains (Json.within segment result) := by
  rintro fault same
  cases result with
  | ok found => cases same
  | error inner =>
    obtain ⟨path, reason, rfl⟩ := explains inner rfl
    cases same
    exact ⟨_, _, rfl⟩

theorem Explains.bind {first : FileDecoder α} {next : α → FileDecoder β} (explains : Explains first)
    (later : ∀ found, Explains (next found)) : Explains (first >>= next) := by
  rintro fault same
  cases first with
  | ok found => exact later found fault same
  | error inner =>
    cases same
    exact explains fault rfl

theorem Explains.map {result : FileDecoder α} (explains : Explains result) (change : α → β) :
    Explains (result.map change) := by
  rintro fault same
  cases result with
  | ok found => cases same
  | error inner =>
    cases same
    exact explains fault rfl

theorem Explains.freshField (explains : Explains (decode value)) (field key : String) (before : Option α) :
    Explains (freshField field key before decode value) := by
  unfold Json.freshField
  split
  · exact explains_mismatch _
  · exact (explains.within _).map some

theorem explains_item {items : List Json} {position : Nat} {missing : FileDecoder α}
    (inside : ∀ value, items[position]? = some value → Explains (decode value)) (outside : Explains missing) :
    Explains (item items true position decode missing) := by
  unfold item
  split
  · next value here => exact (inside value here).within _
  · exact outside

theorem explains_endItems {items : List Json} {count : Nat} (short : items.length ≤ count) :
    Explains (endItems items true count) := by
  rw [endItems, if_pos ⟨short, rfl⟩]
  exact explains_ok ()

theorem isSome_shape? (readable : Targets.isReadable levels value = true) : value.shape?.isSome = true := by
  cases value with
  | number text =>
    simp only [Targets.isReadable] at readable
    obtain ⟨found, same⟩ := Option.isSome_iff_exists.mp readable
    rw [shape?, same]
    cases found <;> rfl
  | string value =>
    cases value with
    | none => cases readable
    | some text => rfl
  | broken => cases readable
  | _ => rfl

theorem explains_wrongType (readable : Targets.isReadable levels value = true) (expected : String) :
    Explains (wrongType expected value : FileDecoder α) := by
  obtain ⟨found, same⟩ := Option.isSome_iff_exists.mp (isSome_shape? readable)
  rw [wrongType, same]
  exact explains_mismatch _

theorem explains_decodeString (readable : Targets.isReadable levels value = true) (expected : String) :
    Explains (decodeString expected value : FileDecoder String) := by
  unfold decodeString
  split
  · exact explains_ok _
  · exact explains_wrongType readable expected

theorem Explains.option (explains : Explains (decode value)) : Explains (decodeOption decode value) := by
  unfold decodeOption
  split
  · exact explains_ok none
  · exact explains.map some

theorem explains_decodeWord (words : List (String × α)) (word : String) :
    Explains (decodeWord words (.string (some word)) : FileDecoder α) := by
  show Explains (decodeWord.choose words word)
  unfold decodeWord.choose
  split
  · exact explains_ok _
  · exact explains_mismatch _

end Json

namespace Targets

variable {levels : Nat}

theorem areReadable_iff {items : List Json} :
    areReadable levels items = true ↔ ∀ item ∈ items, isReadable levels item = true := by
  induction items with
  | nil => simp [areReadable]
  | cons item rest ih => simp [areReadable, ih]

theorem membersAreReadable_iff {members : List (Option String × Json)} :
    membersAreReadable levels members = true ↔
      ∀ member ∈ members, member.1 ≠ none ∧ isReadable levels member.2 = true := by
  induction members with
  | nil => simp [membersAreReadable]
  | cons member rest ih => simp [membersAreReadable, ih, Option.isSome_iff_ne_none, and_assoc]

theorem isReadable_array_iff {items : List Json} {closed : Bool} :
    isReadable (levels + 1) (.array items closed) = true ↔
      closed = true ∧ ∀ item ∈ items, isReadable levels item = true := by
  simp [isReadable, areReadable_iff]

theorem isReadable_object_iff {members : List (Option String × Json)} {closed : Bool} :
    isReadable (levels + 1) (.object members closed) = true ↔ closed = true ∧
      ∀ member ∈ members, member.1 ≠ none ∧ isReadable levels member.2 = true := by
  simp [isReadable, membersAreReadable_iff]

/-- What can be read in full is there in full. -/
theorem isWhole_of_isReadable {value : Json} (readable : isReadable levels value = true) :
    value.isWhole = true := by
  induction levels generalizing value with
  | zero => cases value <;> first | rfl | cases readable
  | succ levels ih =>
    cases value with
    | array items closed =>
      obtain ⟨isClosed, each⟩ := isReadable_array_iff.mp readable
      simp only [isWhole, isClosed, Bool.true_and, areWhole_iff]
      exact fun item inside => ih (each item inside)
    | object members closed =>
      obtain ⟨isClosed, each⟩ := isReadable_object_iff.mp readable
      simp only [isWhole, isClosed, Bool.true_and, membersAreWhole_iff]
      exact fun member inside => ih (each member inside).2
    | broken => cases readable
    | _ => rfl

theorem explains_decode {value : Json} (readable : isReadable maxLevels value = true) :
    Explains (decode value) := by
  have checked (names : List String) : Explains (ofNamesChecked names) := by
    unfold ofNamesChecked
    split
    · exact explains_ok _
    · exact explains_mismatch _
  unfold decode
  rw [if_pos readable]
  split
  · exact checked _
  · split
    · exact checked _
    · exact explains_mismatch _
  · exact explains_mismatch _

end Targets

namespace MatcherSpec

/-- An array is no longer than its fields, and a kind is a string. -/
structure Legible (value : Json) : Prop where
  short : ∀ items closed, value = .array items closed → items.length ≤ 2
  kinds : ∀ kind ∈ value.valuesOf "kind" 0, ∃ word, kind = .string (some word)

theorem explains_decodeMembers {levels : Nat} {fields : Fields} {members : List (Option String × Json)}
    (readable : ∀ member ∈ members, member.1 ≠ none ∧ Targets.isReadable levels member.2 = true)
    (kinds : ∀ member ∈ members, member.1 = some "kind" → ∃ word, member.2 = .string (some word)) :
    Explains (decodeMembers fields members) := by
  induction members generalizing fields with
  | nil => exact explains_ok fields
  | cons member rest ih =>
    obtain ⟨key, value⟩ := member
    obtain ⟨⟨named, readableHere⟩, readableRest⟩ := List.forall_mem_cons.mp readable
    obtain ⟨kindHere, kindsRest⟩ := List.forall_mem_cons.mp kinds
    cases key with
    | none => exact absurd rfl named
    | some key =>
      have later (fields : Fields) : Explains (decodeMembers fields rest) := ih readableRest kindsRest
      rw [decodeMembers.eq_def]
      dsimp only
      split
      · obtain ⟨word, rfl⟩ := kindHere rfl
        exact ((explains_decodeWord _ word).freshField _ _ _).bind fun _ => later _
      · exact ((explains_decodeString readableHere _).freshField _ _ _).bind fun _ => later _
      · have skipped : (skipValue value : FileDecoder Unit) = .ok () :=
          skipValue_eq_ok_iff.mpr (Targets.isWhole_of_isReadable readableHere)
        rw [skipped]
        exact later fields

theorem explains_ofFields (fields : Fields) : Explains (ofFields fields) := by
  unfold ofFields
  split
  · exact explains_mismatch _
  · exact explains_mismatch _
  · exact explains_ok _

theorem explains_decode {levels : Nat} {value : Json}
    (readable : Targets.isReadable (levels + 1) value = true) (legible : Legible value) :
    Explains (decode value) := by
  cases value with
  | object members closed =>
    obtain ⟨rfl, each⟩ := Targets.isReadable_object_iff.mp readable
    refine (explains_decodeMembers each ?_).bind explains_ofFields
    intro member inside named
    exact legible.kinds _ (List.mem_map_of_mem (List.mem_filter.mpr ⟨inside, by simpa using named⟩))
  | array items closed =>
    obtain ⟨rfl, each⟩ := Targets.isReadable_array_iff.mp readable
    refine (explains_item ?_ (explains_mismatch _)).bind fun kind => ?_
    · intro value here
      obtain ⟨word, rfl⟩ := legible.kinds value (by simpa [valuesOf, Option.mem_toList] using here)
      exact explains_decodeWord _ word
    refine (explains_item ?_ (explains_mismatch _)).bind fun value => ?_
    · exact fun value here => explains_decodeString (each value (List.mem_of_getElem? here)) _
    exact (explains_endItems (legible.short _ _ rfl)).bind fun _ => explains_ok _
  | _ => exact explains_wrongType readable expected

end MatcherSpec

namespace RuleSpec

/-- All of the rule can be read, its arrays are no longer than their fields and its matcher's kind is a
string. -/
structure Legible (rule : Json) : Prop where
  readable : Targets.isReadable (Targets.maxLevels + 1) rule = true
  short : ∀ items closed, rule = .array items closed → items.length ≤ 4
  matchers : ∀ matcher ∈ rule.valuesOf "matcher" 0, MatcherSpec.Legible matcher

theorem explains_decodeMatcher {value : Json} (readable : Targets.isReadable Targets.maxLevels value = true)
    (legible : MatcherSpec.Legible value) : Explains (decodeMatcher value) :=
  (MatcherSpec.explains_decode readable legible).option

theorem explains_decodeText {value : Json} (readable : Targets.isReadable Targets.maxLevels value = true) :
    Explains (decodeText value) :=
  (explains_decodeString readable _).option

theorem explains_decodeMembers {fields : Fields} {members : List (Option String × Json)}
    (readable : ∀ member ∈ members, member.1 ≠ none ∧ Targets.isReadable Targets.maxLevels member.2 = true)
    (matchers : ∀ member ∈ members, member.1 = some "matcher" → MatcherSpec.Legible member.2) :
    Explains (decodeMembers fields members) := by
  induction members generalizing fields with
  | nil => exact explains_ok fields
  | cons member rest ih =>
    obtain ⟨key, value⟩ := member
    obtain ⟨⟨named, readableHere⟩, readableRest⟩ := List.forall_mem_cons.mp readable
    obtain ⟨matcherHere, matchersRest⟩ := List.forall_mem_cons.mp matchers
    cases key with
    | none => exact absurd rfl named
    | some key =>
      have later (fields : Fields) : Explains (decodeMembers fields rest) := ih readableRest matchersRest
      have text := explains_decodeText readableHere
      have kinds := Targets.explains_decode readableHere
      rw [decodeMembers.eq_def]
      dsimp only
      split
      · exact ((explains_decodeMatcher readableHere (matcherHere rfl)).freshField _ _ _).bind fun _ => later _
      · exact (text.freshField _ _ _).bind fun _ => later _
      · exact (text.freshField _ _ _).bind fun _ => later _
      · exact (kinds.freshField _ _ _).bind fun _ => later _
      · exact (kinds.freshField _ _ _).bind fun _ => later _
      · exact ((explains_mismatch _).within _).bind later

theorem explains_decode {rule : Json} (legible : Legible rule) : Explains (decode rule) := by
  have readable := legible.readable
  cases rule with
  | object members closed =>
    obtain ⟨rfl, each⟩ := Targets.isReadable_object_iff.mp readable
    refine (explains_decodeMembers each ?_).bind fun fields => explains_ok _
    intro member inside named
    exact legible.matchers _ (List.mem_map_of_mem (List.mem_filter.mpr ⟨inside, by simpa using named⟩))
  | array items closed =>
    obtain ⟨rfl, each⟩ := Targets.isReadable_array_iff.mp readable
    have inside {position : Nat} {value : Json} (here : items[position]? = some value) :
        Targets.isReadable Targets.maxLevels value = true := each value (List.mem_of_getElem? here)
    refine (explains_item ?_ (explains_ok none)).bind fun matcher => ?_
    · intro value here
      exact explains_decodeMatcher (inside here)
        (legible.matchers value (by simpa [valuesOf, Option.mem_toList] using here))
    refine (explains_item (fun _ here => explains_decodeText (inside here)) (explains_ok none)).bind fun name => ?_
    refine (explains_item (fun _ here => explains_decodeText (inside here)) (explains_ok none)).bind fun regexp => ?_
    refine (explains_item (fun _ here => Targets.explains_decode (inside here)) (explains_ok .all)).bind
      fun targets => ?_
    exact (explains_endItems (legible.short _ _ rfl)).bind fun _ => explains_ok _
  | _ => exact explains_wrongType readable expected

end RuleSpec

/-! ## The first rule that does not fit -/

theorem pathText_rules (position : Nat) (path : List PathSegment) :
    ∃ behind, pathText (.key "rules" :: .index position :: path)
      = "rules[" ++ toString position ++ "]" ++ behind := by
  have joined (first second : String) (others : List String) :
      String.join (first :: second :: others) = first ++ second ++ String.join others := by
    rw [String.join_cons, String.join_cons, String.append_assoc]
  rw [pathText]
  · simp only [List.zipIdx_cons, List.map_cons, joined]
    exact ⟨_, rfl⟩
  · simp

namespace ConfigurationFile

/-- The rules of a document are its first field, those in front of `rule` are decoded and it is not. -/
theorem decode_eq_error {front : List Json} {rule : Json} (back : List Json)
    (members : List (Option String × Json)) (whole closed : Bool) {fault : DecodingFault TargetsFault}
    (before : ∀ other ∈ front, ∃ spec, RuleSpec.decode other = .ok spec)
    (here : RuleSpec.decode rule = .error fault) :
    decode (.object ((some "rules", .array (front ++ rule :: back) whole) :: members) closed)
      = .error ((fault.within (.index front.length)).within (.key "rules")) := by
  have items := decodeItems_eq_error 0 back before here
  rw [Nat.zero_add] at items
  have rules : decodeRules (.array (front ++ rule :: back) whole)
      = .error (fault.within (.index front.length)) := by
    rw [decodeRules, decodeList, items]
    rfl
  rw [decode, decodeMembers.eq_def]
  dsimp only
  rw [freshField, rules]
  rfl

/-- Behind rules that fit, the first one that does not makes the configuration fail, and the fault's path
leads to it. Where all of that rule can be read, this path begins the message. -/
theorem misfit_rule_located {text : String} {items : List Json} {members : List (Option String × Json)}
    {rest : List Char} {position : Nat} {rule : Json}
    (begins : Begins (.object ((some "rules", .array items true) :: members) true) text.toList rest)
    (here : items[position]? = some rule) (before : ∀ other ∈ items.take position, RuleSpec.Fits other)
    (misfit : ¬RuleSpec.Fits rule) :
    ∃ fault, parse text = .error (.ofCause (.configuration (.text fault))) ∧
      [.key "rules", .index position] <+: fault.path ∧
      (RuleSpec.Legible rule → ∃ behind, (ConfigurationFault.text fault).detail
        = "rules[" ++ toString position ++ "]" ++ behind) := by
  obtain ⟨short, same⟩ := List.getElem?_eq_some_iff.mp here
  have split : items = items.take position ++ rule :: items.drop (position + 1) := by
    rw [← same, List.getElem_cons_drop, List.take_append_drop]
  have length : (items.take position).length = position := by simp [short.le]
  have decodedBefore (other : Json) (inside : other ∈ items.take position) :=
    (RuleSpec.accepts_decode other).mpr (before other inside)
  cases decoded : RuleSpec.decode rule with
  | ok spec => exact absurd ((RuleSpec.accepts_decode rule).mp ⟨spec, decoded⟩) misfit
  | error inner =>
    have failed := decode_eq_error (items.drop (position + 1)) members true true decodedBefore decoded
    rw [← split, length] at failed
    refine ⟨(inner.within (.index position)).within (.key "rules"), ?_, ⟨inner.path, ?_⟩, ?_⟩
    · rw [parse, ofText_of_begins (.object _) begins, failed]
    · rw [DecodingFault.path_within, DecodingFault.path_within]
      rfl
    · intro legible
      obtain ⟨path, reason, rfl⟩ := RuleSpec.explains_decode legible inner decoded
      obtain ⟨behind, shown⟩ := pathText_rules position path
      refine ⟨behind ++ (": " ++ reason.message TargetsFault.message), ?_⟩
      show pathText _ ++ ": " ++ _ = _
      rw [shown]
      simp only [String.append_assoc]

/-- Two rules, the second with a matcher of no known kind, and another mistake behind them. -/
def misnamedKind : String :=
  "\x7b\"rules\": [\x7b\"name\": \"a.A\"\x7d, \x7b\"matcher\": \x7b\"kind\": \"glob\", \"value\": \"b\"\x7d\x7d], "
    ++ "\"overwrite\": \"yes\"\x7d"

theorem misfit_rule_located_misnamedKind :
    ∃ fault, parse misnamedKind = .error (.ofCause (.configuration (.text fault))) ∧
      [.key "rules", .index 1] <+: fault.path ∧
      ∃ behind, (ConfigurationFault.text fault).detail = "rules[" ++ toString 1 ++ "]" ++ behind := by
  let first : Json := .object [(some "name", .string (some "a.A"))] true
  let matcher : Json := .object [(some "kind", .string (some "glob")), (some "value", .string (some "b"))] true
  let second : Json := .object [(some "matcher", matcher)] true
  have begins : ∃ members, Begins (.object ((some "rules", .array [first, second] true) :: members) true)
      misnamedKind.toList [] := ⟨_, (readsSpelled 200).value (by cbv)⟩
  obtain ⟨members, begins⟩ := begins
  have fits : ∀ other ∈ [first, second].take 1, RuleSpec.Fits other := by
    intro other inside
    obtain rfl := List.mem_singleton.mp inside
    exact (RuleSpec.accepts_decode first).mp ⟨{ name := some "a.A" }, by decide⟩
  have misfit : ¬RuleSpec.Fits second := by
    intro fit
    obtain ⟨spec, decoded⟩ := (RuleSpec.accepts_decode second).mpr fit
    cases decoded
  have legible : RuleSpec.Legible second := by
    refine ⟨by decide, fun items closed same => absurd same (by simp [second]), ?_⟩
    intro value inside
    obtain rfl := List.mem_singleton.mp inside
    refine ⟨fun items closed same => absurd same (by simp [matcher]), ?_⟩
    intro kind inKind
    exact ⟨"glob", List.mem_singleton.mp inKind⟩
  obtain ⟨fault, failed, located, shown⟩ := misfit_rule_located begins rfl fits misfit
  exact ⟨fault, failed, located, shown legible⟩

end ConfigurationFile

end Unannotate
