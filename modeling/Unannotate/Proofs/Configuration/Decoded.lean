import Unannotate.CommandLine.Settings
import Unannotate.Proofs.Configuration.Fields

/-!
# The rules that a configuration text holds

A configuration file has one rule for each item of the list under `rules`, in the order of the items, and
every rule that was decoded names at least one element kind.
-/
set_option autoImplicit false

namespace Unannotate

/-! ## Decoding lists -/

namespace Json

/-- The items of a list. -/
def listed : Json → List Json
  | array items _ => items
  | _ => []

theorem forall₂_of_decodeList {α : Type} {decode : Json → FileDecoder α} {document : Json} {values : List α}
    (decoded : decodeList decode document = .ok values) :
    List.Forall₂ (fun item value => decode item = .ok value) document.listed values := by
  cases document with
  | array items closed => exact (decodeList_array_eq_ok_iff.mp decoded).2
  | _ =>
    simp only [decodeList] at decoded
    exact absurd decoded wrongType_ne_ok

/-- The value under a key of an object. -/
def field? (key : String) (members : List (Option String × Json)) : Option Json :=
  (members.find? (·.1 = some key)).map (·.2)

theorem field?_eq_head? (key : String) (members : List (Option String × Json)) :
    field? key members = (under [key] members).head? := by
  rw [field?, under, hasKey_singleton, List.head?_map, List.head?_filter]

/-- The items under `rules`, in an object or in an array of its fields. -/
def ruleItems : Json → List Json
  | object members _ => ((field? "rules" members).map listed).getD []
  | array fields _ => (fields[0]?.map listed).getD []
  | _ => []

end Json

/-! ## Element kinds -/

namespace Targets

/-- The rule applies to elements of this kind. -/
def includes : Targets → ElementKind → Bool
  | all, _ => true
  | kinds listed, kind => listed.contains kind

/-- The names select a kind when one of them stands for every kind or for this one. -/
theorem includes_of_collect {names : List String} {targets : Targets}
    (collected : collect names = .ok targets) (kind : ElementKind) :
    targets.includes kind = true ↔
      ∃ name ∈ names, isAll name = true ∨ ElementKind.ofSpelling? name = some kind := by
  induction names generalizing targets with
  | nil =>
    cases collected
    simp [includes]
  | cons name rest ih =>
    unfold collect at collected
    split at collected
    · next every =>
      cases collected
      exact ⟨fun _ => ⟨name, List.mem_cons_self, .inl every⟩, fun _ => rfl⟩
    · next single =>
      obtain ⟨first, spelled, afterFirst⟩ := outcome_bind_ok_iff.mp collected
      obtain ⟨others, othersCollected, returned⟩ := outcome_bind_ok_iff.mp afterFirst
      have spells : ElementKind.ofSpelling? name = some first := by
        unfold ElementKind.ofSpelling at spelled
        split at spelled
        · next found same => exact same.trans (congrArg some (Except.ok.inj spelled))
        · cases spelled
      have later := ih othersCollected
      rw [List.exists_mem_cons_iff, ← later, spells]
      cases others with
      | all =>
        cases returned
        simp [includes]
      | kinds listed =>
        cases returned
        simp only [includes, List.contains_cons, Bool.or_eq_true, beq_iff_eq, single,
          Bool.false_eq_true, false_or, Option.some.injEq, eq_comm (a := first)]

/-- Names that are accepted select some kind. -/
theorem ofNames_eq_ok {names : List String} {targets : Targets} (named : ofNames names = .ok targets) :
    collect names = .ok targets ∧ targets ≠ .kinds [] := by
  obtain ⟨collected, same, returned⟩ := outcome_bind_ok_iff.mp named
  split at returned
  · cases returned
  · next selects =>
    cases returned
    exact ⟨same, selects⟩

theorem exists_includes {targets : Targets} (selects : targets ≠ .kinds []) :
    ∃ kind, targets.includes kind = true := by
  cases targets with
  | all => exact ⟨.type, rfl⟩
  | kinds listed =>
    cases listed with
    | nil => exact absurd rfl selects
    | cons kind rest => exact ⟨kind, by simp [includes]⟩

theorem ne_of_decode {value : Json} {targets : Targets} (decoded : decode value = .ok targets) :
    targets ≠ .kinds [] := by
  obtain ⟨names, -, named⟩ := decode_eq_ok_iff.mp decoded
  exact (ofNames_eq_ok named).2

end Targets

/-! ## Rules -/

namespace RuleSpec

/-- A rule that was decoded applies to some kind. -/
theorem selects_of_decode {value : Json} {spec : RuleSpec} (decoded : decode value = .ok spec) :
    spec.targets ≠ .kinds [] := by
  cases value with
  | object members closed =>
    obtain ⟨-, fields, read, rfl⟩ := decode_object_eq_ok_iff.mp decoded
    obtain ⟨-, -, -, -, targets⟩ := decodeMembers_eq_ok_iff.mp read
    obtain ⟨-, absent⟩ | ⟨value, found, -, here, given⟩ := Json.given_none_iff.mp targets
    · simp [ofFields, absent]
    · simpa [ofFields, given] using Targets.ne_of_decode here
  | array items closed =>
    obtain ⟨-, -, -, -, -, targets⟩ := decode_array_eq_ok_iff.mp decoded
    obtain ⟨value, -, here⟩ | ⟨-, -, missing⟩ := Json.item_eq_ok_iff.mp targets
    · exact Targets.ne_of_decode here
    · rw [← Except.ok.inj missing]
      nofun
  | _ =>
    simp only [decode] at decoded
    exact absurd decoded Json.wrongType_ne_ok

end RuleSpec

/-! ## Configuration files -/

namespace ConfigurationFile

/-- There is one rule for each item under `rules`, in their order. -/
theorem forall₂_rules_of_decode {document : Json} {file : ConfigurationFile}
    (decoded : decode document = .ok file) :
    List.Forall₂ (fun item spec => RuleSpec.decode item = .ok spec) document.ruleItems file.rules := by
  cases document with
  | object members closed =>
    obtain ⟨-, fields, read, rfl⟩ := decode_object_eq_ok_iff.mp decoded
    obtain ⟨-, rules, -, -⟩ := decodeMembers_eq_ok_iff.mp read
    rw [Json.ruleItems, Json.field?_eq_head?]
    obtain ⟨none, absent⟩ | ⟨value, specs, single, here, given⟩ := Json.given_none_iff.mp rules
    · simp [ofFields, none, absent]
    · simpa [ofFields, single, given] using Json.forall₂_of_decodeList here
  | array items closed =>
    obtain ⟨-, -, rules, -, -⟩ := decode_array_eq_ok_iff.mp decoded
    rw [Json.ruleItems]
    obtain ⟨value, first, here⟩ | ⟨absent, -, missing⟩ := Json.item_eq_ok_iff.mp rules
    · rw [first]
      exact Json.forall₂_of_decodeList here
    · rw [absent, ← Except.ok.inj missing]
      exact .nil
  | _ =>
    simp only [decode] at decoded
    exact absurd decoded Json.wrongType_ne_ok

/-- A configuration is loaded from the document that its bytes spell. -/
theorem exists_document_of_load {path : String} {data : Bytes} {file : ConfigurationFile}
    (loaded : load path data = .ok file) :
    ∃ text, Utf8.decode? data = some text ∧ decode (Json.ofText text) = .ok file := by
  unfold load at loaded
  split at loaded
  · next text spelled =>
    refine ⟨text, spelled, ?_⟩
    unfold parse at loaded
    split at loaded
    · next found same =>
      cases loaded
      exact same
    · cases loaded
  · cases loaded

end ConfigurationFile

end Unannotate
