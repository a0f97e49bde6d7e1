import Mathlib.Algebra.Order.Group.Nat
import Unannotate.Proofs.Configuration.Fields

/-!
# Members in another order

What is decoded does not depend on the order of an object's members, at any depth: each field is looked for
by its keys and given at most once. Items of arrays keep their order, since they stand for fields by their
positions.
-/
set_option autoImplicit false

namespace Unannotate

/-! ## Values in another order -/

namespace Json

/-- The members of one object, at any depth, in another order. -/
inductive Reordered : Json → Json → Prop
  | members {members members' : List (Option String × Json)} (perm : members.Perm members')
      (closed : Bool) : Reordered (.object members closed) (.object members' closed)
  | item (front : List Json) {value value' : Json} (inner : Reordered value value') (back : List Json)
      (closed : Bool) :
      Reordered (.array (front ++ value :: back) closed) (.array (front ++ value' :: back) closed)
  | member (front : List (Option String × Json)) (key : Option String) {value value' : Json}
      (inner : Reordered value value') (back : List (Option String × Json)) (closed : Bool) :
      Reordered (.object (front ++ (key, value) :: back) closed)
        (.object (front ++ (key, value') :: back) closed)

namespace Reordered

variable {members : List (Option String × Json)} {items : List Json} {closed closed' : Bool}

theorem isWhole {value value' : Json} (reordered : Reordered value value') (whole : value.isWhole = true) :
    value'.isWhole = true := by
  induction reordered with
  | members perm =>
    simp only [Json.isWhole, Bool.and_eq_true, membersAreWhole_iff] at whole ⊢
    exact ⟨whole.1, fun member inside => whole.2 member (perm.mem_iff.mpr inside)⟩
  | item front _ back _ ih =>
    simp only [Json.isWhole, Bool.and_eq_true, areWhole_iff, List.forall_mem_append,
      List.forall_mem_cons] at whole ⊢
    obtain ⟨isClosed, before, here, behind⟩ := whole
    exact ⟨isClosed, before, ih here, behind⟩
  | member front key _ back _ ih =>
    simp only [Json.isWhole, Bool.and_eq_true, membersAreWhole_iff, List.forall_mem_append,
      List.forall_mem_cons] at whole ⊢
    obtain ⟨isClosed, before, here, behind⟩ := whole
    exact ⟨isClosed, before, ih here, behind⟩

theorem exists_members {value : Json} (reordered : Reordered (.object members closed) value) :
    ∃ members', value = .object members' closed := by
  cases reordered <;> exact ⟨_, rfl⟩

theorem exists_items {value : Json} (reordered : Reordered (.array items closed) value) :
    ∃ items', value = .array items' closed ∧ items'.length = items.length := by
  cases reordered
  exact ⟨_, rfl, by simp⟩

/-- What holds of all members, whatever the order inside of their values, holds of them in another order. -/
theorem forall_members {members' : List (Option String × Json)} {holds : Option String × Json → Prop}
    (reordered : Reordered (.object members closed) (.object members' closed'))
    (keeps : ∀ key value value', Reordered value value' → holds (key, value) → holds (key, value'))
    (all : ∀ member ∈ members, holds member) : ∀ member ∈ members', holds member := by
  cases reordered with
  | members perm => exact fun member inside => all member (perm.mem_iff.mpr inside)
  | member front key inner back =>
    simp only [List.forall_mem_append, List.forall_mem_cons] at all ⊢
    obtain ⟨before, here, behind⟩ := all
    exact ⟨before, keeps key _ _ inner here, behind⟩

end Reordered

/-! ## Decoders that do not depend on the order -/

section Stable

variable {α : Type} {decode : Json → FileDecoder α} {before after : Option α}

theorem given_append_cons_iff {front back : List Json} {value : Json} :
    Given decode before (front ++ value :: back) after ↔ front = [] ∧ back = [] ∧ before = none ∧
      ∃ found, decode value = .ok found ∧ after = some found := by
  constructor
  · intro given
    generalize same : front ++ value :: back = values at given
    cases given with
    | kept => simp at same
    | decoded here =>
      obtain ⟨rfl, last⟩ | ⟨_, none⟩ := List.append_eq_singleton_iff.mp same
      · cases last
        exact ⟨rfl, rfl, rfl, _, here, rfl⟩
      · cases none
  · rintro ⟨rfl, rfl, rfl, found, here, rfl⟩
    exact .decoded here

theorem given_perm {values values' : List Json} (perm : values.Perm values')
    (given : Given decode before values after) : Given decode before values' after := by
  cases given with
  | kept =>
    obtain rfl := List.nil_perm.mp perm
    exact .kept _
  | decoded here =>
    obtain rfl := List.singleton_perm.mp perm
    exact .decoded here

/-- An item that is decoded to the same value takes the place of another one. -/
theorem item_replace {front back : List Json} {value value' : Json} {closed : Bool} {position : Nat}
    {missing : FileDecoder α} {found : α}
    (same : position = front.length → decode value = .ok found → decode value' = .ok found)
    (decoded : item (front ++ value :: back) closed position decode missing = .ok found) :
    item (front ++ value' :: back) closed position decode missing = .ok found := by
  unfold item at decoded ⊢
  obtain inFront | here | behind := lt_trichotomy position front.length
  · rw [List.getElem?_append_left inFront] at decoded ⊢
    exact decoded
  · subst here
    simp only [List.getElem?_append_right le_rfl, Nat.sub_self,
      List.getElem?_cons_zero, within_eq_ok_iff] at decoded ⊢
    exact same rfl decoded
  · obtain ⟨later, rfl⟩ := Nat.exists_eq_add_of_lt behind
    simp only [List.getElem?_append_right (show front.length ≤ front.length + later + 1 by omega),
      show front.length + later + 1 - front.length = later + 1 by omega,
      List.getElem?_cons_succ] at decoded ⊢
    exact decoded

theorem forall₂_replace {β γ : Type} {related : β → γ → Prop} {front back : List β} {first second : β}
    {values : List γ} (same : ∀ value, related first value → related second value)
    (each : List.Forall₂ related (front ++ first :: back) values) :
    List.Forall₂ related (front ++ second :: back) values := by
  induction front generalizing values with
  | nil =>
    cases each with
    | cons here behind => exact .cons (same _ here) behind
  | cons _ _ ih =>
    cases each with
    | cons here behind => exact .cons here (ih behind)

/-- What is found does not depend on the order of members inside of the value. -/
def Stable (decode : Json → FileDecoder α) : Prop :=
  ∀ {value value' : Json} {found : α}, Reordered value value' → decode value = .ok found →
    decode value' = .ok found

theorem Stable.given {members members' : List (Option String × Json)} {closed closed' : Bool}
    {keys : List String} (stable : Stable decode)
    (reordered : Reordered (.object members closed) (.object members' closed'))
    (found : Given decode before (under keys members) after) :
    Given decode before (under keys members') after := by
  cases reordered with
  | members perm => exact given_perm ((perm.filter _).map _) found
  | member front key inner back =>
    rw [under_append] at found ⊢
    by_cases listed : key ∈ keys.map some
    · rw [under_cons_of_mem listed] at found ⊢
      obtain ⟨noFront, noBack, unset, value, here, same⟩ := given_append_cons_iff.mp found
      exact given_append_cons_iff.mpr ⟨noFront, noBack, unset, value, stable inner here, same⟩
    · rw [under_cons_of_not_mem listed] at found ⊢
      exact found

theorem Stable.item {items items' : List Json} {closed closed' : Bool} {position : Nat}
    {missing : FileDecoder α} {found : α} (stable : Stable decode)
    (reordered : Reordered (.array items closed) (.array items' closed'))
    (decoded : Json.item items closed position decode missing = .ok found) :
    Json.item items' closed' position decode missing = .ok found := by
  cases reordered with
  | item front inner back => exact item_replace (fun _ => stable inner) decoded

theorem stable_decodeString (expected : String) : Stable (decodeString expected) := by
  intro value value' found reordered decoded
  cases reordered <;> cases decoded

theorem stable_decodeBool : Stable decodeBool := by
  intro value value' found reordered decoded
  cases reordered <;> cases decoded

theorem stable_decodeOption (stable : Stable decode) : Stable (decodeOption decode) := by
  intro value value' found reordered decoded
  obtain ⟨rfl, -⟩ | ⟨-, inside, here, rfl⟩ := decodeOption_eq_ok_iff.mp decoded
  · cases reordered
  · have noNull : value' ≠ .null := by
      rintro rfl
      cases reordered
    exact decodeOption_eq_ok_iff.mpr (.inr ⟨noNull, inside, stable reordered here, rfl⟩)

theorem stable_decodeWord (words : List (String × α)) : Stable (decodeWord words) := by
  intro value value' found reordered decoded
  obtain ⟨word, rfl | rfl, known⟩ := decodeWord_eq_ok_iff.mp decoded
  · cases reordered
  · obtain ⟨members', rfl⟩ := reordered.exists_members
    generalize same : [(some word, Json.null)] = members at reordered
    cases reordered with
    | members perm =>
      subst same
      obtain rfl := List.singleton_perm.mp perm
      exact decoded
    | @member front key inside _ inner back =>
      -- The only member is a null, which holds no object.
      have only : (key, inside) ∈ [(some word, Json.null)] := by simp [same]
      cases List.mem_singleton.mp only
      cases inner

theorem stable_decodeList (stable : Stable decode) : Stable (decodeList decode) := by
  intro value value' found reordered decoded
  cases reordered with
  | item front inner back closed =>
    obtain ⟨isClosed, each⟩ := decodeList_array_eq_ok_iff.mp decoded
    exact decodeList_array_eq_ok_iff.mpr ⟨isClosed, forall₂_replace (fun _ => stable inner) each⟩
  | _ => cases decoded

end Stable

end Json

open Json

theorem MatcherSpec.stable_decode : Stable decode := by
  intro value value' spec reordered decoded
  have kinds : Stable MatcherKind.decode := stable_decodeWord _
  have values : Stable decodeValue := stable_decodeString _
  cases value with
  | object members closed =>
    obtain ⟨members', rfl⟩ := reordered.exists_members
    obtain ⟨isClosed, passes, kind, value⟩ := decode_object_eq_ok_iff.mp decoded
    refine decode_object_eq_ok_iff.mpr ⟨isClosed, ?_, kinds.given reordered kind, values.given reordered value⟩
    refine reordered.forall_members ?_ passes
    intro key value value' inner passes
    exact ⟨passes.1, fun stray => inner.isWhole (passes.2 stray)⟩
  | array items closed =>
    obtain ⟨items', rfl, length⟩ := reordered.exists_items
    obtain ⟨ends, isClosed, kind, value⟩ := decode_array_eq_ok_iff.mp decoded
    exact decode_array_eq_ok_iff.mpr
      ⟨length ▸ ends, isClosed, kinds.item reordered kind, values.item reordered value⟩
  | _ => cases reordered

theorem Targets.stable_decode : Stable decode := by
  intro value value' targets reordered decoded
  obtain ⟨names, given, -⟩ := decode_eq_ok_iff.mp decoded
  cases given with
  | one name => cases reordered
  | list =>
    generalize same : names.map (fun name => Json.string (some name)) = items at reordered
    cases reordered with
    | @item front inside _ inner back =>
      have listed : inside ∈ names.map fun name => Json.string (some name) := by simp [same]
      obtain ⟨name, -, rfl⟩ := List.mem_map.mp listed
      cases inner

namespace RuleSpec

theorem stable_decodeMatcher : Stable decodeMatcher := stable_decodeOption MatcherSpec.stable_decode

theorem stable_decodeText : Stable decodeText := stable_decodeOption (stable_decodeString _)

theorem stable_decode : Stable decode := by
  intro value value' spec reordered decoded
  cases value with
  | object members closed =>
    obtain ⟨members', rfl⟩ := reordered.exists_members
    obtain ⟨isClosed, fields, found, rfl⟩ := decode_object_eq_ok_iff.mp decoded
    obtain ⟨known, matcher, name, regexp, targets⟩ := decodeMembers_eq_ok_iff.mp found
    have found' : decodeMembers {} members' = .ok fields := decodeMembers_eq_ok_iff.mpr
      ⟨reordered.forall_members (fun _ _ _ _ => id) known, stable_decodeMatcher.given reordered matcher,
        stable_decodeText.given reordered name, stable_decodeText.given reordered regexp,
        Targets.stable_decode.given reordered targets⟩
    exact decode_object_eq_ok_iff.mpr ⟨isClosed, fields, found', rfl⟩
  | array items closed =>
    obtain ⟨items', rfl, length⟩ := reordered.exists_items
    obtain ⟨ends, isClosed, matcher, name, regexp, targets⟩ := decode_array_eq_ok_iff.mp decoded
    exact decode_array_eq_ok_iff.mpr ⟨length ▸ ends, isClosed, stable_decodeMatcher.item reordered matcher,
      stable_decodeText.item reordered name, stable_decodeText.item reordered regexp,
      Targets.stable_decode.item reordered targets⟩
  | _ => cases reordered

end RuleSpec

theorem ConfigurationFile.stable_decode : Stable decode := by
  intro value value' file reordered decoded
  have rulesStable : Stable decodeRules := stable_decodeList RuleSpec.stable_decode
  have flagsStable : Stable decodeFlags := stable_decodeList (stable_decodeWord _)
  cases value with
  | object members closed =>
    obtain ⟨members', rfl⟩ := reordered.exists_members
    obtain ⟨isClosed, fields, found, rfl⟩ := decode_object_eq_ok_iff.mp decoded
    obtain ⟨known, rules, flags, overwrite⟩ := decodeMembers_eq_ok_iff.mp found
    have found' : decodeMembers {} members' = .ok fields := decodeMembers_eq_ok_iff.mpr
      ⟨reordered.forall_members (fun _ _ _ _ => id) known, rulesStable.given reordered rules,
        flagsStable.given reordered flags, stable_decodeBool.given reordered overwrite⟩
    exact decode_object_eq_ok_iff.mpr ⟨isClosed, fields, found', rfl⟩
  | array items closed =>
    obtain ⟨items', rfl, length⟩ := reordered.exists_items
    obtain ⟨ends, isClosed, rules, flags, overwrite⟩ := decode_array_eq_ok_iff.mp decoded
    exact decode_array_eq_ok_iff.mpr ⟨length ▸ ends, isClosed, rulesStable.item reordered rules,
      flagsStable.item reordered flags, stable_decodeBool.item reordered overwrite⟩
  | _ => cases reordered

end Unannotate
