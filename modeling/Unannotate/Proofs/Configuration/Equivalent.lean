import Mathlib.Logic.Relation
import Unannotate.Proofs.Configuration.Documents
import Unannotate.Proofs.Configuration.Reordered
import Unannotate.Proofs.Configuration.Rules

/-!
# Documents that configure the same run

A document may be rewritten step by step: the members of any object in another order, one rule with its
kinds under their other name, with a list of a single kind as a string or the other way round, or with a
name or a pattern in short as a matcher in full. Each step keeps what the document configures, so a text of
the last document is accepted and amounts to the configuration of the first one, with whatever blanks the
two are spelled.
-/
set_option autoImplicit false

namespace Unannotate

open Json

/-! ## Rules in other words -/

/-- A list of one kind written as a string, or the other way round. -/
inductive Targets.Respelled : Json → Json → Prop
  | same (value : Json) : Respelled value value
  | bare (name : String) : Respelled (.array [.string (some name)] true) (.string (some name))
  | listed (name : String) : Respelled (.string (some name)) (.array [.string (some name)] true)

theorem Targets.Respelled.decode_eq {value value' : Json} (respelled : Respelled value value')
    {targets : Targets} (decoded : decode value = .ok targets) : decode value' = .ok targets := by
  obtain ⟨names, given, named⟩ := decode_eq_ok_iff.mp decoded
  cases respelled with
  | same => exact decoded
  | bare name =>
    generalize same : [Json.string (some name)] = items at given
    cases given with
    | list =>
      obtain ⟨first, rfl, rfl⟩ : ∃ first, names = [first] ∧ first = name := by
        cases names with
        | nil => cases same
        | cons first rest =>
          cases rest <;> cases same
          exact ⟨_, rfl, rfl⟩
      exact decode_eq_ok_iff.mpr ⟨[first], .one first, named⟩
  | listed name =>
    cases given
    exact decode_eq_ok_iff.mpr ⟨[name], .list [name], named⟩

/-- A matcher in full, as an object. -/
def MatcherSpec.inFull (word text : String) : Json :=
  .object [(some "kind", .string (some word)), (some "value", .string (some text))] true

namespace RuleSpec

/-- A rule in other words. -/
inductive Respelled : Json → Json → Prop
  | kinds (front : List (Option String × Json)) {key key' : String} (named : key ∈ kindKeys)
      (named' : key' ∈ kindKeys) {value value' : Json} (inner : Targets.Respelled value value')
      (back : List (Option String × Json)) (closed : Bool) :
      Respelled (.object (front ++ (some key, value) :: back) closed)
        (.object (front ++ (some key', value') :: back) closed)
  | fourth (front : List Json) (three : front.length = 3) {value value' : Json}
      (inner : Targets.Respelled value value') (back : List Json) (closed : Bool) :
      Respelled (.array (front ++ value :: back) closed) (.array (front ++ value' :: back) closed)
  | name (front back : List (Option String × Json))
      (alone : ∀ member ∈ front ++ back, member.1 ≠ some "matcher") (text : String) (closed : Bool) :
      Respelled (.object (front ++ (some "name", .string (some text)) :: back) closed)
        (.object (front ++ (some "matcher", MatcherSpec.inFull "literal" text) :: back) closed)
  | regexp (front back : List (Option String × Json))
      (alone : ∀ member ∈ front ++ back, member.1 ≠ some "matcher") (text : String) (closed : Bool) :
      Respelled (.object (front ++ (some "regexp", .string (some text)) :: back) closed)
        (.object (front ++ (some "matcher", MatcherSpec.inFull "regex" text) :: back) closed)

/-- The value is decoded to a rule that is valid and makes this one. -/
def Makes (value : Json) (rule : Rule) : Prop := ∃ spec, decode value = .ok spec ∧ spec.toRule = .ok rule

theorem decodeMatcher_inFull {word text : String} {kind : MatcherKind}
    (known : MatcherKind.decode (.string (some word)) = .ok kind) :
    decodeMatcher (MatcherSpec.inFull word text) = .ok (some ⟨kind, text⟩) := by
  refine decodeOption_eq_ok_iff.mpr (.inr ⟨nofun, ⟨kind, text⟩, ?_, rfl⟩)
  refine MatcherSpec.decode_object_eq_ok_iff.mpr ⟨rfl, ?_, .decoded known, .decoded rfl⟩
  rintro member inside
  obtain rfl | rfl : member = _ ∨ member = _ := by simpa using inside
  · exact MatcherSpec.passes_of_mem_known (by decide) _
  · exact MatcherSpec.passes_of_mem_known (by decide) _

theorem makes_of_kinds {front back : List (Option String × Json)} {key key' : String} (named : key ∈ kindKeys)
    (named' : key' ∈ kindKeys) {value value' : Json} (inner : Targets.Respelled value value') {closed : Bool}
    {rule : Rule} (made : Makes (.object (front ++ (some key, value) :: back) closed) rule) :
    Makes (.object (front ++ (some key', value') :: back) closed) rule := by
  have other {field key : String} (noKinds : field ∉ kindKeys) (named : key ∈ kindKeys) : key ∉ [field] := by
    rintro listed
    exact noKinds (List.mem_singleton.mp listed ▸ named)
  obtain ⟨spec, decoded, ruled⟩ := made
  obtain ⟨isClosed, fields, found, rfl⟩ := decode_object_eq_ok_iff.mp decoded
  obtain ⟨fieldsKnown, matcher, name, regexp, targets⟩ := decodeMembers_eq_ok_iff.mp found
  rw [under_append_cons_of_not_mem value (other (by decide) named)] at matcher name regexp
  rw [under_append_cons_of_mem value named] at targets
  obtain ⟨noFront, noBack, unset, kinds, kindsDecoded, same⟩ := given_append_cons_iff.mp targets
  refine ⟨_, decode_object_eq_ok_iff.mpr ⟨isClosed, fields, decodeMembers_eq_ok_iff.mpr ?_, rfl⟩, ruled⟩
  rw [under_append_cons_of_not_mem value' (other (by decide) named'),
    under_append_cons_of_not_mem value' (other (by decide) named'),
    under_append_cons_of_not_mem value' (other (by decide) named'), under_append_cons_of_mem value' named']
  refine ⟨?_, matcher, name, regexp,
    given_append_cons_iff.mpr ⟨noFront, noBack, unset, kinds, inner.decode_eq kindsDecoded, same⟩⟩
  rw [List.forall_mem_append, List.forall_mem_cons] at fieldsKnown ⊢
  have isField : key' ∈ known := (show kindKeys ⊆ known by decide) named'
  exact ⟨fieldsKnown.1, List.mem_map_of_mem isField, fieldsKnown.2.2⟩

section InFull

variable {front back : List (Option String × Json)} {text : String} {closed : Bool} {rule : Rule}

theorem known_inFull {key word : String} {value : Json}
    (fieldsKnown : ∀ member ∈ front ++ (some key, value) :: back, member.1 ∈ known.map some) :
    ∀ member ∈ front ++ (some "matcher", MatcherSpec.inFull word text) :: back, member.1 ∈ known.map some := by
  rw [List.forall_mem_append, List.forall_mem_cons] at fieldsKnown ⊢
  exact ⟨fieldsKnown.1, List.mem_map_of_mem (show "matcher" ∈ known by decide), fieldsKnown.2.2⟩

/-- No matcher is left, so a new one is the only one. -/
theorem given_inFull {word : String} {kind : MatcherKind}
    (alone : ∀ member ∈ front ++ back, member.1 ≠ some "matcher")
    (known : MatcherKind.decode (.string (some word)) = .ok kind) :
    Given decodeMatcher none
      (under ["matcher"] (front ++ (some "matcher", MatcherSpec.inFull word text) :: back))
      (some (some ⟨kind, text⟩)) := by
  rw [List.forall_mem_append] at alone
  rw [under_append_cons_of_mem _ (by decide), under_eq_nil alone.1, under_eq_nil alone.2]
  exact .decoded (decodeMatcher_inFull known)

/-- Where a member makes room for a matcher, its own field is no longer given, and the others stay. -/
theorem given_text_inFull {field key : String} {value matcher : Json} {after : Option (Option String)}
    (noMatcher : field ≠ "matcher")
    (given : Given decodeText none (under [field] (front ++ (some key, value) :: back)) after) :
    Given decodeText none (under [field] (front ++ (some "matcher", matcher) :: back))
      (if key = field then none else after) := by
  rw [under_append_cons_of_not_mem _ (by simpa using noMatcher.symm)]
  split
  · next own =>
    rw [own, under_append_cons_of_mem _ List.mem_cons_self] at given
    obtain ⟨noFront, noBack, -⟩ := given_append_cons_iff.mp given
    rw [under_append, noFront, noBack]
    exact .kept none
  · next other =>
    rwa [under_append_cons_of_not_mem _ (by simpa using other)] at given

/-- A text in short gives way to a matcher in full. -/
theorem decodeMembers_inFull {key word : String} {kind : MatcherKind} {fields : Fields} {value : Json}
    (short : key ∉ "matcher" :: kindKeys) (alone : ∀ member ∈ front ++ back, member.1 ≠ some "matcher")
    (known : MatcherKind.decode (.string (some word)) = .ok kind)
    (found : decodeMembers {} (front ++ (some key, value) :: back) = .ok fields) :
    fields.matcher = none ∧
      decodeMembers {} (front ++ (some "matcher", MatcherSpec.inFull word text) :: back)
        = .ok ⟨some (some ⟨kind, text⟩), if key = "name" then none else fields.name,
            if key = "regexp" then none else fields.regexp, fields.targets⟩ := by
  obtain ⟨noMatcher, noKinds⟩ := not_or.mp (List.mem_cons.not.mp short)
  obtain ⟨fieldsKnown, matcher, name, regexp, targets⟩ := decodeMembers_eq_ok_iff.mp found
  rw [under_append_cons_of_not_mem _ (by simpa using noMatcher), under_eq_nil alone, given_nil_iff] at matcher
  rw [under_append_cons_of_not_mem _ noKinds] at targets
  refine ⟨matcher.symm, decodeMembers_eq_ok_iff.mpr ⟨known_inFull fieldsKnown, given_inFull alone known,
    given_text_inFull (by decide) name, given_text_inFull (by decide) regexp, ?_⟩⟩
  rw [under_append_cons_of_not_mem _ (by decide)]
  exact targets

/-- A rule with a text in short is decoded, and so is the same with a matcher in full in its place. -/
theorem exists_fields_inFull {key word : String} {kind : MatcherKind} {value : Json}
    (short : key ∉ "matcher" :: kindKeys) (alone : ∀ member ∈ front ++ back, member.1 ≠ some "matcher")
    (known : MatcherKind.decode (.string (some word)) = .ok kind)
    (made : Makes (.object (front ++ (some key, value) :: back) closed) rule) :
    ∃ fields, decodeMembers {} (front ++ (some key, value) :: back) = .ok fields ∧
      fields.matcher = none ∧ (ofFields fields).toRule = .ok rule ∧
      decode (.object (front ++ (some "matcher", MatcherSpec.inFull word text) :: back) closed)
        = .ok (ofFields ⟨some (some ⟨kind, text⟩), if key = "name" then none else fields.name,
            if key = "regexp" then none else fields.regexp, fields.targets⟩) := by
  obtain ⟨spec, decoded, ruled⟩ := made
  obtain ⟨isClosed, fields, found, rfl⟩ := decode_object_eq_ok_iff.mp decoded
  obtain ⟨noMatcher, found'⟩ := decodeMembers_inFull short alone known found
  exact ⟨fields, found, noMatcher, ruled, decode_object_eq_ok_iff.mpr ⟨isClosed, _, found', rfl⟩⟩

theorem makes_of_name (alone : ∀ member ∈ front ++ back, member.1 ≠ some "matcher")
    (made : Makes (.object (front ++ (some "name", .string (some text)) :: back) closed) rule) :
    Makes (.object (front ++ (some "matcher", MatcherSpec.inFull "literal" text) :: back) closed) rule := by
  have known : MatcherKind.decode (.string (some "literal")) = .ok .literal := rfl
  obtain ⟨⟨_, _, pattern, _⟩, found, rfl, ruled, decoded⟩ :=
    exists_fields_inFull (by decide) alone known made
  obtain ⟨-, -, name, -, -⟩ := decodeMembers_eq_ok_iff.mp found
  rw [under_append_cons_of_mem _ (by decide)] at name
  obtain ⟨-, -, -, given, here, rfl⟩ := given_append_cons_iff.mp name
  cases here
  refine ⟨_, decoded, ?_⟩
  obtain _ | _ | _ := pattern
  · exact ruled
  · exact ruled
  · cases ruled

theorem makes_of_regexp (alone : ∀ member ∈ front ++ back, member.1 ≠ some "matcher")
    (made : Makes (.object (front ++ (some "regexp", .string (some text)) :: back) closed) rule) :
    Makes (.object (front ++ (some "matcher", MatcherSpec.inFull "regex" text) :: back) closed) rule := by
  have known : MatcherKind.decode (.string (some "regex")) = .ok .regex := rfl
  obtain ⟨⟨_, literal, _, _⟩, found, rfl, ruled, decoded⟩ :=
    exists_fields_inFull (by decide) alone known made
  obtain ⟨-, -, -, regexp, -⟩ := decodeMembers_eq_ok_iff.mp found
  rw [under_append_cons_of_mem _ (by decide)] at regexp
  obtain ⟨-, -, -, given, here, rfl⟩ := given_append_cons_iff.mp regexp
  cases here
  refine ⟨_, decoded, ?_⟩
  obtain _ | _ | _ := literal
  · exact ruled
  · exact ruled
  · cases ruled

end InFull

theorem Respelled.makes {value value' : Json} {rule : Rule} (respelled : Respelled value value')
    (made : Makes value rule) : Makes value' rule := by
  cases respelled with
  | kinds front named named' inner back closed => exact makes_of_kinds named named' inner made
  | fourth front three inner back closed =>
    obtain ⟨spec, decoded, ruled⟩ := made
    obtain ⟨ends, isClosed, matcher, name, regexp, targets⟩ := decode_array_eq_ok_iff.mp decoded
    refine ⟨spec, decode_array_eq_ok_iff.mpr ⟨by simpa using ends, isClosed, ?_, ?_, ?_, ?_⟩, ruled⟩
    · exact item_replace (fun here => absurd (here.trans three) (by decide)) matcher
    · exact item_replace (fun here => absurd (here.trans three) (by decide)) name
    · exact item_replace (fun here => absurd (here.trans three) (by decide)) regexp
    · exact item_replace (fun _ => inner.decode_eq) targets
  | name front back alone text closed => exact makes_of_name alone made
  | regexp front back alone text closed => exact makes_of_regexp alone made

end RuleSpec

/-! ## Documents in other words -/

namespace ConfigurationFile

/-- One rewriting of a document: members in another order, or one of its rules in other words. -/
inductive Rewritten : Json → Json → Prop
  | reordered {document document' : Json} (inner : Reordered document document') :
      Rewritten document document'
  | rule (front : List (Option String × Json)) (before : List Json) {rule rule' : Json}
      (inner : RuleSpec.Respelled rule rule') (after : List Json)
      (back : List (Option String × Json)) (whole closed : Bool) :
      Rewritten (.object (front ++ (some "rules", .array (before ++ rule :: after) whole) :: back) closed)
        (.object (front ++ (some "rules", .array (before ++ rule' :: after) whole) :: back) closed)
  | firstRule (before : List Json) {rule rule' : Json} (inner : RuleSpec.Respelled rule rule')
      (after back : List Json) (whole closed : Bool) :
      Rewritten (.array (.array (before ++ rule :: after) whole :: back) closed)
        (.array (.array (before ++ rule' :: after) whole :: back) closed)

/-- The document is accepted, with these rules, flags and switch. -/
def Configures (document : Json) (rules : List Rule) (flags : StripFlags) (overwrite : Bool) : Prop :=
  ∃ file, decode document = .ok file ∧ file.toRules = .ok rules ∧ file.toFlags = flags ∧
    file.overwrite = overwrite

/-- All values of a list make their rules. -/
theorem exists_decodeRules_iff {items : List Json} {closed : Bool} {rules : List Rule} :
    (∃ specs, decodeRules (.array items closed) = .ok specs ∧ specs.mapM RuleSpec.toRule = .ok rules) ↔
      closed = true ∧ List.Forall₂ RuleSpec.Makes items rules := by
  simp only [decodeRules, decodeList_array_eq_ok_iff, mapM_eq_ok_iff_forall₂, and_assoc,
    exists_and_left, and_congr_right_iff]
  rintro rfl
  induction items generalizing rules with
  | nil => simp
  | cons item rest ih =>
    constructor
    · rintro ⟨specs, decoded, made⟩
      cases decoded with
      | cons here later =>
        cases made with
        | cons valid others => exact .cons ⟨_, here, valid⟩ (ih.mp ⟨_, later, others⟩)
    · rintro (_ | ⟨⟨spec, here, valid⟩, later⟩)
      obtain ⟨specs, decoded, made⟩ := ih.mpr later
      exact ⟨spec :: specs, .cons here decoded, .cons valid made⟩

theorem exists_decodeRules_respelled {before after : List Json} {rule rule' : Json} {whole : Bool}
    (inner : RuleSpec.Respelled rule rule') {specs : List RuleSpec} {rules : List Rule}
    (decoded : decodeRules (.array (before ++ rule :: after) whole) = .ok specs)
    (made : specs.mapM RuleSpec.toRule = .ok rules) :
    ∃ specs', decodeRules (.array (before ++ rule' :: after) whole) = .ok specs' ∧
      specs'.mapM RuleSpec.toRule = .ok rules := by
  obtain ⟨isWhole, each⟩ := exists_decodeRules_iff.mp ⟨specs, decoded, made⟩
  exact exists_decodeRules_iff.mpr ⟨isWhole, forall₂_replace (fun _ => inner.makes) each⟩

theorem Rewritten.configures {document document' : Json} (rewritten : Rewritten document document')
    {rules : List Rule} {flags : StripFlags} {overwrite : Bool}
    (configures : Configures document rules flags overwrite) :
    Configures document' rules flags overwrite := by
  obtain ⟨file, decoded, made, sameFlags, sameOverwrite⟩ := configures
  cases rewritten with
  | reordered inner => exact ⟨file, stable_decode inner decoded, made, sameFlags, sameOverwrite⟩
  | rule front before inner after back whole closed =>
    obtain ⟨isClosed, fields, found, rfl⟩ := decode_object_eq_ok_iff.mp decoded
    obtain ⟨fieldsKnown, listed, flagged, switched⟩ := decodeMembers_eq_ok_iff.mp found
    rw [under_append_cons_of_mem _ (by decide)] at listed
    rw [under_append_cons_of_not_mem _ (by decide)] at flagged switched
    obtain ⟨noFront, noBack, unset, specs, specsDecoded, same⟩ := given_append_cons_iff.mp listed
    have made : (fields.rules.getD []).mapM RuleSpec.toRule = .ok rules := made
    rw [same] at made
    obtain ⟨specs', specsDecoded', made'⟩ := exists_decodeRules_respelled inner specsDecoded made
    refine ⟨ofFields { fields with rules := some specs' }, ?_, made', sameFlags, sameOverwrite⟩
    refine decode_object_eq_ok_iff.mpr ⟨isClosed, _, decodeMembers_eq_ok_iff.mpr ⟨?_, ?_, ?_, ?_⟩, rfl⟩
    · rw [List.forall_mem_append, List.forall_mem_cons] at fieldsKnown ⊢
      exact fieldsKnown
    · rw [under_append_cons_of_mem _ (by decide)]
      exact given_append_cons_iff.mpr ⟨noFront, noBack, unset, specs', specsDecoded', rfl⟩
    · rw [under_append_cons_of_not_mem _ (by decide)]
      exact flagged
    · rw [under_append_cons_of_not_mem _ (by decide)]
      exact switched
  | firstRule before inner after back whole closed =>
    obtain ⟨ends, isClosed, listed, flagged, switched⟩ := decode_array_eq_ok_iff.mp decoded
    have first := within_eq_ok_iff.mp listed
    obtain ⟨specs', specsDecoded', made'⟩ := exists_decodeRules_respelled inner first made
    refine ⟨{ file with rules := specs' }, ?_, made', sameFlags, sameOverwrite⟩
    exact decode_array_eq_ok_iff.mpr ⟨ends, isClosed, within_eq_ok_iff.mpr specsDecoded', flagged, switched⟩

/-- Rewritings one after another keep what a document configures. -/
theorem configures_of_rewritten {document document' : Json}
    (rewritten : Relation.ReflTransGen Rewritten document document') {rules : List Rule}
    {flags : StripFlags} {overwrite : Bool} (configures : Configures document rules flags overwrite) :
    Configures document' rules flags overwrite := by
  induction rewritten with
  | refl => exact configures
  | tail _ step ih => exact step.configures ih

end ConfigurationFile

/-! ## Texts -/

namespace Json

theorem Begins.exists_spelled {text rest : List Char} {value : Json} (begins : Begins value text rest) :
    ∃ spelled, Spells value spelled ∧ skipSpace text = spelled ++ rest := by
  obtain ⟨blank, spelled, isBlank, spells, rfl⟩ := begins
  exact ⟨spelled, spells, skipSpace_spells isBlank spells rest⟩

theorem IsClosed.exists_opening {value : Json} {spelled : List Char} (isClosed : value.IsClosed)
    (spells : Spells value spelled) : ∃ first inner, spelled = first :: inner ∧ first ∈ ['[', '\x7b'] := by
  cases isClosed <;> cases spells <;> exact ⟨_, _, rfl, by decide⟩

theorem SpellsNumber.exists_head {number : NumberText} {spelled : List Char}
    (spells : SpellsNumber number spelled) :
    ∃ first inner, spelled = first :: inner ∧ first ∉ ['[', '\x7b'] := by
  cases spells with
  | positive spells =>
    obtain ⟨first, inner, rfl, isDigit⟩ := spells.exists_head
    refine ⟨first, inner, rfl, ?_⟩
    simp only [List.mem_cons, List.not_mem_nil, or_false]
    rintro (rfl | rfl) <;> cases isDigit
  | negative spells => exact ⟨_, _, rfl, by decide⟩

/-- Where a text begins with a closed value, it begins with no other one. -/
theorem eq_ofText_of_begins {text : String} {value : Json} {rest : List Char}
    (begins : Begins value text.toList rest) (isClosed : (ofText text).IsClosed) : ofText text = value := by
  have noNumber (number : NumberText) : value ≠ .number number := by
    rintro rfl
    obtain ⟨behind, front, -⟩ := isClosed.begins
    obtain ⟨spelled, spells, visible⟩ := front.exists_spelled
    obtain ⟨spelledNumber, spellsNumber, visibleNumber⟩ := begins.exists_spelled
    obtain ⟨first, inner, rfl, opens⟩ := isClosed.exists_opening spells
    cases spellsNumber with
    | number spellsNumber =>
      obtain ⟨digit, digits, rfl, other⟩ := spellsNumber.exists_head
      rw [visible] at visibleNumber
      obtain ⟨rfl, -⟩ := List.cons.inj visibleNumber
      exact other opens
  rw [ofText, ← String.length_toList,
    read_of_begins begins fun number same => absurd same (noNumber number)]

end Json

namespace ConfigurationFile

/-- A text of a rewritten document is accepted, and is built to the same configuration. -/
theorem rewritten_document_configures_same {text text' : String} {document document' : Json}
    {rest rest' : List Char} (begins : Begins document text.toList rest)
    (begins' : Begins document' text'.toList rest')
    (rewritten : Relation.ReflTransGen Rewritten document document') {file : ConfigurationFile}
    {configuration : Configuration} (parsed : parse text = .ok file)
    (built : file.build = .ok configuration) :
    ∃ file', parse text' = .ok file' ∧ file'.build = .ok configuration ∧
      file'.overwrite = file.overwrite := by
  have decoded := parse_eq_ok_iff.mp parsed
  rw [eq_ofText_of_begins begins (isClosed_of_decode decoded)] at decoded
  obtain ⟨rules, made, configured⟩ := outcome_bind_ok_iff.mp built
  obtain ⟨file', decoded', made', sameFlags, sameOverwrite⟩ :=
    configures_of_rewritten rewritten ⟨file, decoded, made, rfl, rfl⟩
  refine ⟨file', ?_, ?_, sameOverwrite⟩
  · rw [parse_eq_ok_iff, ofText_of_begins (isClosed_of_decode decoded') begins', decoded']
  · refine outcome_bind_ok_iff.mpr ⟨rules, made', ?_⟩
    rw [sameFlags]
    exact configured

/-- A name for fields and one for all kinds, in short. -/
def inShort : String :=
  "\x7b\"rules\": [\x7b\"name\": \"a.A\", \"elementKinds\": [\"field\"]\x7d, \x7b\"name\": \"b.B\"\x7d], "
    ++ "\"overwrite\": true\x7d"

/-- The same rules in other words, and the fields in another order. -/
def inFull : String :=
  "\x7b\"overwrite\":true,\"rules\":[\x7b\"from\":\"field\",\"matcher\":"
    ++ "\x7b\"kind\":\"literal\",\"value\":\"a.A\"\x7d\x7d, \x7b\"name\":\"b.B\"\x7d]\x7d"

theorem rewritten_document_configures_same_inFull :
    ∃ file configuration, parse inShort = .ok file ∧ file.build = .ok configuration ∧
      ∃ file', parse inFull = .ok file' ∧ file'.build = .ok configuration ∧
        file'.overwrite = file.overwrite := by
  let name : Option String × Json := (some "name", .string (some "a.A"))
  let kinds : Option String × Json := (some "elementKinds", .array [.string (some "field")] true)
  let kinds' : Option String × Json := (some "from", .string (some "field"))
  let matcher : Option String × Json := (some "matcher", MatcherSpec.inFull "literal" "a.A")
  let second : Json := .object [(some "name", .string (some "b.B"))] true
  let overwrite : Option String × Json := (some "overwrite", .bool true)
  let document (rule : Json) : Json := .object [(some "rules", .array [rule, second] true), overwrite] true
  let document' : Json :=
    .object [overwrite, (some "rules", .array [.object [kinds', matcher] true, second] true)] true
  have begins : Begins (document (.object [name, kinds] true)) inShort.toList [] :=
    (readsSpelled 200).value (by cbv)
  have begins' : Begins document' inFull.toList [] := (readsSpelled 200).value (by cbv)
  have renamed : Rewritten (document (.object [name, kinds] true)) (document (.object [name, kinds'] true)) :=
    .rule [] [] (.kinds [name] (by decide) (by decide) (.bare "field") [] true) [second] [overwrite] true true
  have spelledOut :
      Rewritten (document (.object [name, kinds'] true)) (document (.object [matcher, kinds'] true)) :=
    .rule [] [] (.name [] [kinds'] (by decide) "a.A" true) [second] [overwrite] true true
  have turned :
      Rewritten (document (.object [matcher, kinds'] true)) (document (.object [kinds', matcher] true)) :=
    .reordered (.member [] _ (.item [] (.members (.swap kinds' matcher []) true) [second] true) [overwrite] true)
  have rulesLast : Rewritten (document (.object [kinds', matcher] true)) document' :=
    .reordered (.members (.swap _ _ []) true)
  have rewritten : Relation.ReflTransGen Rewritten (document (.object [name, kinds] true)) document' :=
    .tail (.tail (.tail (.single renamed) spelledOut) turned) rulesLast
  let file : ConfigurationFile :=
    { rules := [{ name := some "a.A", targets := .kinds [.field] }, { name := some "b.B" }], overwrite := true }
  have parsed : parse inShort = .ok file := by
    rw [parse_eq_ok_iff]
    decide +kernel
  have made : file.toRules = .ok [⟨.kinds [.field], .literal "a.A"⟩, ⟨.all, .literal "b.B"⟩] := rfl
  have built : file.build = .ok ⟨_, _⟩ := outcome_bind_ok_iff.mpr ⟨_, made, rfl⟩
  exact ⟨file, _, parsed, built, rewritten_document_configures_same begins begins' rewritten parsed built⟩

end ConfigurationFile

end Unannotate
