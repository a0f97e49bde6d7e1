import Unannotate.Proofs.Configuration.Decoded
import Unannotate.Proofs.Configuration.Documents

/-!
# Keys that an object does not know

A configuration fails when the object of the file or of a rule has a key that is none of its fields,
wherever that key stands and whatever else the document holds. The object of a matcher is the exception:
there such a key is passed over, and the configuration is that of the document without it.
-/
set_option autoImplicit false

namespace Unannotate

namespace Json

/-- An object with a key that is none of its fields. -/
def HasStrayKey (known : List String) : Json → Prop
  | object members _ => ∃ member ∈ members, member.1 ∉ known.map some
  | _ => False

/-- The values under a key of an object, or at the place of that field in an array. -/
def valuesOf (key : String) (position : Nat) : Json → List Json
  | object members _ => (members.filter (·.1 = some key)).map (·.2)
  | array items _ => items[position]?.toList
  | _ => []

/-- Changes what stands under a key. -/
def mapMember (key : String) (change : Json → Json) (member : Option String × Json) :
    Option String × Json :=
  if member.1 = some key then (member.1, change member.2) else member

/-- Changes the values under a key of an object, or at the place of that field in an array. -/
def mapValues (key : String) (position : Nat) (change : Json → Json) : Json → Json
  | object members closed => object (members.map (mapMember key change)) closed
  | array items closed => array (items.modify position change) closed
  | value => value

def mapItems (change : Json → Json) : Json → Json
  | array items closed => array (items.map change) closed
  | value => value

/-- An object without the members that are none of its fields. -/
def keepFields (known : List String) : Json → Json
  | object members closed => object (members.filter (·.1 ∈ known.map some)) closed
  | value => value

section Decoding

variable {α : Type} {decode : Json → FileDecoder α} {change : Json → Json}

theorem Given.map {before after : Option α} {values : List Json}
    (same : ∀ value found, decode value = .ok found → decode (change value) = .ok found)
    (given : Given decode before values after) : Given decode before (values.map change) after := by
  cases given with
  | kept => exact .kept before
  | decoded here => exact .decoded (same _ _ here)

theorem Given.exists_of_mem {before after : Option α} {values : List Json} {value : Json}
    (given : Given decode before values after) (inside : value ∈ values) :
    ∃ found, decode value = .ok found := by
  cases given with
  | kept => cases inside
  | decoded here =>
    obtain rfl := List.mem_singleton.mp inside
    exact ⟨_, here⟩

theorem item_modify {items : List Json} {closed : Bool} {position : Nat} (place : Nat)
    {missing : FileDecoder α} {found : α}
    (same : place = position → ∀ value result, decode value = .ok result → decode (change value) = .ok result)
    (decoded : item items closed position decode missing = .ok found) :
    item (items.modify place change) closed position decode missing = .ok found := by
  rw [item_eq_ok_iff, List.getElem?_modify] at *
  obtain ⟨value, here, valueDecoded⟩ | ⟨absent, others⟩ := decoded
  · rw [here]
    by_cases changed : place = position
    · exact .inl ⟨change value, by simp [changed], same changed value found valueDecoded⟩
    · exact .inl ⟨value, by simp [changed], valueDecoded⟩
  · exact .inr ⟨by simp [absent], others⟩

theorem decodeList_mapItems
    (same : ∀ value result, decode value = .ok result → decode (change value) = .ok result)
    {value : Json} {values : List α} (decoded : decodeList decode value = .ok values) :
    decodeList decode (value.mapItems change) = .ok values := by
  cases value with
  | array items closed =>
    obtain ⟨isClosed, each⟩ := decodeList_array_eq_ok_iff.mp decoded
    refine decodeList_array_eq_ok_iff.mpr ⟨isClosed, ?_⟩
    exact List.forall₂_map_left_iff.mpr (each.imp same)
  | _ => exact decoded

end Decoding

theorem not_hasStrayKey_object {known : List String} {members : List (Option String × Json)} {closed : Bool}
    (fieldsOnly : ∀ member ∈ members, member.1 ∈ known.map some) :
    ¬(object members closed).HasStrayKey known := by
  rintro ⟨member, inside, stray⟩
  exact stray (fieldsOnly member inside)

section Members

variable {key : String} {keys : List String} {change : Json → Json}

@[simp] theorem fst_mapMember (member : Option String × Json) :
    (mapMember key change member).1 = member.1 := by
  unfold mapMember
  split <;> rfl

theorem forall_mapMember {holds : Option String → Prop} {members : List (Option String × Json)}
    (all : ∀ member ∈ members, holds member.1) :
    ∀ member ∈ members.map (mapMember key change), holds member.1 := by
  rw [List.forall_mem_map]
  intro member inside
  rw [fst_mapMember]
  exact all member inside

theorem under_mapMember (members : List (Option String × Json)) :
    under [key] (members.map (mapMember key change)) = (under [key] members).map change := by
  induction members with
  | nil => rfl
  | cons member rest ih =>
    by_cases named : member.1 = some key
    · have listed : member.1 ∈ [key].map some := by simp [named]
      rw [List.map_cons, under_cons_of_mem (by rwa [fst_mapMember]), under_cons_of_mem listed, ih,
        mapMember, if_pos named]
      rfl
    · have other : member.1 ∉ [key].map some := by simpa using named
      rw [List.map_cons, under_cons_of_not_mem (by rwa [fst_mapMember]), under_cons_of_not_mem other, ih]

/-- What stands under other keys is not changed. -/
theorem under_mapMember_of_not_mem (other : key ∉ keys) (members : List (Option String × Json)) :
    under keys (members.map (mapMember key change)) = under keys members := by
  induction members with
  | nil => rfl
  | cons member rest ih =>
    by_cases listed : member.1 ∈ keys.map some
    · have named : member.1 ≠ some key := fun same => other (by simpa [same] using listed)
      rw [List.map_cons, under_cons_of_mem (by rwa [fst_mapMember]), under_cons_of_mem listed, ih,
        mapMember, if_neg named]
    · rw [List.map_cons, under_cons_of_not_mem (by rwa [fst_mapMember]), under_cons_of_not_mem listed, ih]

theorem under_filter {known : List String} (part : ∀ key ∈ keys, key ∈ known)
    (members : List (Option String × Json)) :
    under keys (members.filter (·.1 ∈ known.map some)) = under keys members := by
  have kept (member : Option String × Json) :
      (hasKey keys member && decide (member.1 ∈ known.map some)) = hasKey keys member := by
    cases found : hasKey keys member with
    | false => rfl
    | true =>
      obtain ⟨key, inside, same⟩ := List.mem_map.mp (hasKey_iff.mp found)
      simp [← same, part key inside]
  simp only [under, List.filter_filter, kept]

theorem valuesOf_object (position : Nat) (members : List (Option String × Json)) (closed : Bool) :
    (object members closed).valuesOf key position = under [key] members := by
  rw [valuesOf, under, hasKey_singleton]

end Members

end Json

open Json

/-! ## Matchers -/

theorem MatcherSpec.decode_keepFields {value : Json} {spec : MatcherSpec} (decoded : decode value = .ok spec) :
    decode (value.keepFields known) = .ok spec := by
  cases value with
  | object members closed =>
    obtain ⟨isClosed, passes, kind, text⟩ := decode_object_eq_ok_iff.mp decoded
    refine decode_object_eq_ok_iff.mpr ⟨isClosed, ?_, ?_, ?_⟩
    · exact fun member inside => passes member (List.mem_of_mem_filter inside)
    · rwa [under_filter (by decide)]
    · rwa [under_filter (by decide)]
  | _ => exact decoded

/-! ## Rules -/

namespace RuleSpec

theorem not_hasStrayKey_of_decode {value : Json} {spec : RuleSpec} (decoded : decode value = .ok spec) :
    ¬value.HasStrayKey known := by
  cases value with
  | object members closed =>
    obtain ⟨-, fields, read, -⟩ := decode_object_eq_ok_iff.mp decoded
    exact not_hasStrayKey_object (decodeMembers_eq_ok_iff.mp read).1
  | _ => exact id

/-- The rule without the keys that its matcher does not know. -/
def withoutStrays : Json → Json := mapValues "matcher" 0 (keepFields MatcherSpec.known)

theorem decodeMatcher_keepFields (value : Json) (matcher : Option MatcherSpec)
    (decoded : decodeMatcher value = .ok matcher) :
    decodeMatcher (value.keepFields MatcherSpec.known) = .ok matcher := by
  obtain ⟨rfl, -⟩ | ⟨given, spec, inside, rfl⟩ := decodeOption_eq_ok_iff.mp decoded
  · exact decoded
  · refine decodeOption_eq_ok_iff.mpr (.inr ⟨?_, spec, MatcherSpec.decode_keepFields inside, rfl⟩)
    cases value with
    | null => exact absurd rfl given
    | _ => nofun

theorem decode_withoutStrays (value : Json) (spec : RuleSpec) (decoded : decode value = .ok spec) :
    decode (withoutStrays value) = .ok spec := by
  cases value with
  | object members closed =>
    obtain ⟨isClosed, fields, read, same⟩ := decode_object_eq_ok_iff.mp decoded
    refine decode_object_eq_ok_iff.mpr ⟨isClosed, fields, ?_, same⟩
    obtain ⟨fieldsOnly, matcher, name, regexp, targets⟩ := decodeMembers_eq_ok_iff.mp read
    rw [decodeMembers_eq_ok_iff, under_mapMember, under_mapMember_of_not_mem (by decide),
      under_mapMember_of_not_mem (by decide), under_mapMember_of_not_mem (by decide)]
    exact ⟨forall_mapMember fieldsOnly, matcher.map decodeMatcher_keepFields, name, regexp, targets⟩
  | array items closed =>
    obtain ⟨ends, isClosed, matcher, name, regexp, targets⟩ := decode_array_eq_ok_iff.mp decoded
    refine decode_array_eq_ok_iff.mpr ⟨by simpa using ends, isClosed, ?_, ?_, ?_, ?_⟩
    · exact item_modify 0 (fun _ => decodeMatcher_keepFields) matcher
    · exact item_modify 0 nofun name
    · exact item_modify 0 nofun regexp
    · exact item_modify 0 nofun targets
  | _ => exact decoded

end RuleSpec

/-! ## Configuration files -/

namespace ConfigurationFile

/-- The values that are decoded as rules. -/
def ruleValues (document : Json) : List Json := (document.valuesOf "rules" 0).flatMap listed

/-- The document without the keys that its matchers do not know. -/
def withoutStrays : Json → Json := mapValues "rules" 0 (mapItems RuleSpec.withoutStrays)

theorem not_hasStrayKey_of_decode {document : Json} {file : ConfigurationFile}
    (decoded : decode document = .ok file) : ¬document.HasStrayKey known := by
  cases document with
  | object members closed =>
    obtain ⟨-, fields, read, -⟩ := decode_object_eq_ok_iff.mp decoded
    exact not_hasStrayKey_object (decodeMembers_eq_ok_iff.mp read).1
  | _ => exact id

theorem exists_specs_of_decode {document : Json} {file : ConfigurationFile}
    (decoded : decode document = .ok file) :
    ∀ value ∈ document.valuesOf "rules" 0, ∃ specs, decodeRules value = .ok specs := by
  intro value inside
  cases document with
  | object members closed =>
    obtain ⟨-, fields, read, -⟩ := decode_object_eq_ok_iff.mp decoded
    obtain ⟨-, rules, -, -⟩ := decodeMembers_eq_ok_iff.mp read
    rw [valuesOf_object] at inside
    exact rules.exists_of_mem inside
  | array items closed =>
    obtain ⟨-, -, rules, -, -⟩ := decode_array_eq_ok_iff.mp decoded
    have here : items[0]? = some value := by simpa [valuesOf, Option.mem_toList] using inside
    obtain ⟨first, there, firstDecoded⟩ | ⟨absent, -⟩ := item_eq_ok_iff.mp rules
    · rw [here] at there
      cases there
      exact ⟨file.rules, firstDecoded⟩
    · rw [here] at absent
      cases absent
  | _ => cases inside

theorem exists_spec_of_decode {document : Json} {file : ConfigurationFile}
    (decoded : decode document = .ok file) :
    ∀ rule ∈ ruleValues document, ∃ spec, RuleSpec.decode rule = .ok spec := by
  intro rule inside
  obtain ⟨value, under, listed⟩ := List.mem_flatMap.mp inside
  obtain ⟨specs, specsDecoded⟩ := exists_specs_of_decode decoded value under
  obtain ⟨spec, -, ruleDecoded⟩ :=
    exists_related_of_mem (forall₂_of_decodeList specsDecoded) listed
  exact ⟨spec, ruleDecoded⟩

theorem decodeRules_withoutStrays (value : Json) (specs : List RuleSpec)
    (decoded : decodeRules value = .ok specs) :
    decodeRules (value.mapItems RuleSpec.withoutStrays) = .ok specs :=
  decodeList_mapItems RuleSpec.decode_withoutStrays decoded

theorem decode_withoutStrays {document : Json} {file : ConfigurationFile}
    (decoded : decode document = .ok file) : decode (withoutStrays document) = .ok file := by
  cases document with
  | object members closed =>
    obtain ⟨isClosed, fields, read, same⟩ := decode_object_eq_ok_iff.mp decoded
    refine decode_object_eq_ok_iff.mpr ⟨isClosed, fields, ?_, same⟩
    obtain ⟨fieldsOnly, rules, flags, overwrite⟩ := decodeMembers_eq_ok_iff.mp read
    rw [decodeMembers_eq_ok_iff, under_mapMember, under_mapMember_of_not_mem (by decide),
      under_mapMember_of_not_mem (by decide)]
    exact ⟨forall_mapMember fieldsOnly, rules.map decodeRules_withoutStrays, flags, overwrite⟩
  | array items closed =>
    obtain ⟨ends, isClosed, rules, flags, overwrite⟩ := decode_array_eq_ok_iff.mp decoded
    refine decode_array_eq_ok_iff.mpr ⟨by simpa using ends, isClosed, ?_, ?_, ?_⟩
    · exact item_modify 0 (fun _ => decodeRules_withoutStrays) rules
    · exact item_modify 0 nofun flags
    · exact item_modify 0 nofun overwrite
  | _ => exact decoded

/-- An object or array of a text has been closed. -/
theorem isClosed_of_stray {document : Json} {text rest : List Char} (begins : Begins document text rest)
    (stray : document.HasStrayKey known ∨ ∃ rule ∈ ruleValues document, rule.HasStrayKey RuleSpec.known) :
    document.IsClosed := by
  obtain ⟨_, spelled, -, spells, -⟩ := begins
  cases document with
  | object members closed => cases spells <;> exact .object _
  | array items closed => cases spells <;> exact .array _
  | _ =>
    obtain outside | ⟨rule, inside, -⟩ := stray
    · exact outside.elim
    · cases inside

/-- A key that the file's object or a rule's does not know makes the configuration fail. One that a
matcher does not know makes no difference. -/
theorem stray_key_refused (text : String) :
    (∀ document rest, Begins document text.toList rest →
      document.HasStrayKey known ∨ (∃ rule ∈ ruleValues document, rule.HasStrayKey RuleSpec.known) →
      ∃ fault, parse text = .error (.ofCause (.configuration (.text fault)))) ∧
    ∀ file, parse text = .ok file → decode (withoutStrays (ofText text)) = .ok file := by
  constructor
  · intro document rest begins stray
    have read := ofText_of_begins (isClosed_of_stray begins stray) begins
    cases decoded : decode document with
    | error fault => exact ⟨fault, by rw [parse, read, decoded]⟩
    | ok file =>
      obtain outside | ⟨rule, inside, within⟩ := stray
      · exact absurd outside (not_hasStrayKey_of_decode decoded)
      · obtain ⟨spec, ruleDecoded⟩ := exists_spec_of_decode decoded rule inside
        exact absurd within (RuleSpec.not_hasStrayKey_of_decode ruleDecoded)
  · intro file parsed
    exact decode_withoutStrays (parse_eq_ok_iff.mp parsed)

/-- Two rules, the second with a key that no rule has. -/
def misspelled : String :=
  "\x7b\"rules\": [\x7b\"name\": \"a.A\"\x7d, \x7b\"name\": \"b.B\", \"kinds\": \"field\"\x7d]\x7d"

theorem stray_key_refused_misspelled :
    ∃ document rest, Begins document misspelled.toList rest ∧
      (∃ rule ∈ ruleValues document, rule.HasStrayKey RuleSpec.known) ∧
      ∃ fault, parse misspelled = .error (.ofCause (.configuration (.text fault))) := by
  let second : Json := .object [(some "name", .string (some "b.B")), (some "kinds", .string (some "field"))] true
  have begins : Begins (.object [(some "rules",
      .array [.object [(some "name", .string (some "a.A"))] true, second] true)] true)
      misspelled.toList [] := (readsSpelled 200).value (by cbv)
  have stray : second.HasStrayKey RuleSpec.known := ⟨_, .tail _ (.head _), by decide⟩
  have inside : ∃ rule ∈ ruleValues (.object [(some "rules",
      .array [.object [(some "name", .string (some "a.A"))] true, second] true)] true),
      rule.HasStrayKey RuleSpec.known := ⟨second, .tail _ (.head _), stray⟩
  exact ⟨_, _, begins, inside, (stray_key_refused misspelled).1 _ _ begins (.inr inside)⟩

/-- Element kinds inside of a matcher, which has no such field. -/
def misplaced : String :=
  "\x7b\"rules\": [\x7b\"matcher\": \x7b\"kind\": \"literal\", \"value\": \"a.A\", "
    ++ "\"elementKinds\": [\"field\"]\x7d\x7d]\x7d"

/-- The text is accepted, and the rule applies to every kind. -/
theorem misplaced_key_ignored :
    ∃ document rest, Begins document misplaced.toList rest ∧
      (∃ rule ∈ ruleValues document, ∃ matcher ∈ rule.valuesOf "matcher" 0,
        matcher.HasStrayKey MatcherSpec.known) ∧
      parse misplaced = .ok { rules := [{ matcher := some ⟨.literal, "a.A"⟩, targets := .all }] } := by
  let matcher : Json := .object [(some "kind", .string (some "literal")),
    (some "value", .string (some "a.A")),
    (some "elementKinds", .array [.string (some "field")] true)] true
  have begins : Begins (.object [(some "rules", .array [.object [(some "matcher", matcher)] true] true)] true)
      misplaced.toList [] := (readsSpelled 200).value (by cbv)
  have parsed : parse misplaced = .ok { rules := [{ matcher := some ⟨.literal, "a.A"⟩, targets := .all }] } := by
    rw [parse_eq_ok_iff]
    decide +kernel
  have stray : matcher.HasStrayKey MatcherSpec.known := ⟨_, .tail _ (.tail _ (.head _)), by decide⟩
  exact ⟨_, _, begins, ⟨_, .head _, _, .head _, stray⟩, parsed⟩

end ConfigurationFile

end Unannotate
