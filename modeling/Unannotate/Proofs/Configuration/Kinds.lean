import Mathlib.Data.List.TakeWhile
import Unannotate.Proofs.Configuration.Rules

/-!
# Names of element kinds

A list of names is read up to the first name that stands for every kind. The names in front of it have to
be spellings of kinds; what stands behind it is never looked at, so an unknown name there makes no
difference. Where all names are known, neither their order nor their repeats matter.
-/
set_option autoImplicit false

namespace Unannotate

theorem ElementKind.ofSpelling_eq_ok_iff {name : String} {kind : ElementKind} :
    ofSpelling name = .ok kind ↔ ofSpelling? name = some kind := by
  unfold ofSpelling
  cases ofSpelling? name <;> simp

theorem ElementKind.ofSpelling_eq_error_iff {name : String} {fault : TargetsFault} :
    ofSpelling name = .error fault ↔ ofSpelling? name = none ∧ fault = .unknownKind name := by
  unfold ofSpelling
  cases ofSpelling? name <;> simp [eq_comm]

namespace Targets

/-- The name stands for every kind or for one. -/
def IsKnown (name : String) : Prop := isAll name = true ∨ ∃ kind, ElementKind.ofSpelling? name = some kind

/-- The names that are looked at. -/
def looked (names : List String) : List String := names.takeWhile (!isAll ·)

/-- No unknown name stands behind a name for every kind. -/
def ReadsAll (names : List String) : Prop := ∀ name ∈ names.dropWhile (!isAll ·), IsKnown name

theorem looked_cons_of_isAll {name : String} (rest : List String) (every : isAll name = true) :
    looked (name :: rest) = [] := by
  simp [looked, every]

theorem looked_cons {name : String} (rest : List String) (single : isAll name = false) :
    looked (name :: rest) = name :: looked rest := by
  simp [looked, single]

/-! ## Which lists are accepted -/

theorem exists_collect_iff {names : List String} :
    (∃ targets, collect names = .ok targets) ↔
      ∀ name ∈ looked names, ∃ kind, ElementKind.ofSpelling? name = some kind := by
  induction names with
  | nil => simp [collect, looked]
  | cons name rest ih =>
    cases every : isAll name with
    | true => simp [collect, every, looked_cons_of_isAll rest every]
    | false =>
      rw [looked_cons rest every, List.forall_mem_cons, ← ih, collect, if_neg (by simp [every])]
      constructor
      · rintro ⟨targets, collected⟩
        obtain ⟨kind, spelled, afterKind⟩ := outcome_bind_ok_iff.mp collected
        obtain ⟨others, later, -⟩ := outcome_bind_ok_iff.mp afterKind
        exact ⟨⟨kind, ElementKind.ofSpelling_eq_ok_iff.mp spelled⟩, others, later⟩
      · rintro ⟨⟨kind, spelled⟩, others, later⟩
        rw [ElementKind.ofSpelling_eq_ok_iff.mpr spelled, later]
        cases others with
        | all => exact ⟨.all, rfl⟩
        | kinds listed => exact ⟨.kinds (kind :: listed), rfl⟩

theorem eq_nil_of_collect {names : List String} (collected : collect names = .ok (.kinds [])) :
    names = [] := by
  cases names with
  | nil => rfl
  | cons name rest =>
    unfold collect at collected
    split at collected
    · cases collected
    · obtain ⟨kind, -, afterKind⟩ := outcome_bind_ok_iff.mp collected
      obtain ⟨others, -, returned⟩ := outcome_bind_ok_iff.mp afterKind
      cases others <;> cases returned

theorem exists_ofNames_iff {names : List String} :
    (∃ targets, ofNames names = .ok targets) ↔
      names ≠ [] ∧ ∀ name ∈ looked names, ∃ kind, ElementKind.ofSpelling? name = some kind := by
  rw [← exists_collect_iff]
  constructor
  · rintro ⟨targets, named⟩
    obtain ⟨collected, selects⟩ := ofNames_eq_ok named
    refine ⟨?_, targets, collected⟩
    rintro rfl
    cases collected
    exact selects rfl
  · rintro ⟨some, targets, collected⟩
    refine ⟨targets, outcome_bind_ok_iff.mpr ⟨targets, collected, ?_⟩⟩
    split
    · exact absurd (eq_nil_of_collect collected) some
    · rfl

/-! ## What is wrong with the others -/

theorem of_collect_eq_error {names : List String} {fault : TargetsFault}
    (refused : collect names = .error fault) :
    ∃ name ∈ looked names, ElementKind.ofSpelling? name = none ∧ fault = .unknownKind name := by
  induction names with
  | nil => cases refused
  | cons name rest ih =>
    unfold collect at refused
    split at refused
    · cases refused
    · next single =>
      rw [looked_cons rest (Bool.eq_false_iff.mpr single)]
      cases spelled : ElementKind.ofSpelling name with
      | error found =>
        rw [spelled] at refused
        cases refused
        exact ⟨name, List.mem_cons_self, ElementKind.ofSpelling_eq_error_iff.mp spelled⟩
      | ok kind =>
        rw [spelled] at refused
        cases later : collect rest with
        | error found =>
          rw [later] at refused
          cases refused
          obtain ⟨other, inRest, unknown⟩ := ih later
          exact ⟨other, List.mem_cons_of_mem name inRest, unknown⟩
        | ok others =>
          rw [later] at refused
          cases others <;> cases refused

/-- An empty list is refused as such, any other one for a name that is looked at. -/
theorem of_ofNames_eq_error {names : List String} {fault : TargetsFault}
    (refused : ofNames names = .error fault) :
    names = [] ∧ fault = .noKinds ∨
      ∃ name ∈ looked names, ElementKind.ofSpelling? name = none ∧ fault = .unknownKind name := by
  unfold ofNames at refused
  cases collected : collect names with
  | error found =>
    rw [collected] at refused
    cases refused
    exact .inr (of_collect_eq_error collected)
  | ok targets =>
    simp only [collected, bind, Except.bind] at refused
    split at refused
    · cases refused
      exact .inl ⟨eq_nil_of_collect collected, rfl⟩
    · cases refused

/-! ## Order and repeats -/

/-- Where the names behind one for every kind are known, looking at those in front of it tells whether all
are. -/
theorem forall_looked_iff {names : List String} (reads : ReadsAll names) :
    (∀ name ∈ looked names, ∃ kind, ElementKind.ofSpelling? name = some kind) ↔
      ∀ name ∈ names, IsKnown name := by
  have single : ∀ name ∈ looked names, isAll name = false := by
    intro name inLooked
    simpa using List.mem_takeWhile_imp inLooked
  constructor
  · intro spelled name inNames
    rw [← List.takeWhile_append_dropWhile (p := (!isAll ·)) (l := names), List.mem_append] at inNames
    obtain front | behind := inNames
    · exact .inr (spelled name front)
    · exact reads name behind
  · intro known name inLooked
    obtain every | spelled := known name (List.takeWhile_sublist _ |>.subset inLooked)
    · rw [single name inLooked] at every
      cases every
    · exact spelled

/-- A list of names is accepted when it is not empty and every name up to the first one for all kinds is
the spelling of a kind; another one is refused for being empty or for such a name. Accepted lists with the
same names select the same kinds, and one is accepted when the other one is, if no unknown name stands
behind one for all kinds. -/
theorem names_up_to_all_decide (names : List String) :
    ((∃ targets, ofNames names = .ok targets) ↔
      names ≠ [] ∧ ∀ name ∈ looked names, ∃ kind, ElementKind.ofSpelling? name = some kind) ∧
    (∀ fault, ofNames names = .error fault → names = [] ∧ fault = .noKinds ∨
      ∃ name ∈ looked names, ElementKind.ofSpelling? name = none ∧ fault = .unknownKind name) ∧
    ∀ other : List String, (∀ name, name ∈ other ↔ name ∈ names) →
      (∀ targets targets', ofNames names = .ok targets → ofNames other = .ok targets' →
        ∀ kind, kind ∈ targets.toList ↔ kind ∈ targets'.toList) ∧
      (ReadsAll names → ReadsAll other →
        ((∃ targets, ofNames names = .ok targets) ↔ ∃ targets, ofNames other = .ok targets)) := by
  refine ⟨exists_ofNames_iff, fun fault => of_ofNames_eq_error, ?_⟩
  intro other same
  constructor
  · intro targets targets' named named' kind
    rw [mem_toList, mem_toList, includes_of_collect (ofNames_eq_ok named).1,
      includes_of_collect (ofNames_eq_ok named').1]
    simp only [same]
  · intro reads reads'
    have empty : names = [] ↔ other = [] := by
      simp only [List.eq_nil_iff_forall_not_mem, same]
    rw [exists_ofNames_iff, exists_ofNames_iff, forall_looked_iff reads, forall_looked_iff reads']
    simp only [same, ne_eq, empty]

/-- Three names for two kinds, in two orders and with another repeat. -/
theorem names_up_to_all_decide_repeated :
    let names := ["field", "Methods", "FIELD"]
    let other := ["Methods", "FIELD", "field", "FIELD"]
    (∃ targets, ofNames names = .ok targets) ∧ (∃ targets, ofNames other = .ok targets) ∧
      ∀ targets targets', ofNames names = .ok targets → ofNames other = .ok targets' →
        ∀ kind, kind ∈ targets.toList ↔ kind ∈ targets'.toList := by
  intro names other
  have same : ∀ name, name ∈ other ↔ name ∈ names := by
    intro name
    simp only [names, other, List.mem_cons, List.not_mem_nil, or_false]
    tauto
  have known (name : String) (listed : name ∈ names) : IsKnown name := by
    simp only [names, List.mem_cons, List.not_mem_nil, or_false] at listed
    rcases listed with rfl | rfl | rfl
    · exact .inr ⟨.field, by decide +kernel⟩
    · exact .inr ⟨.method, by decide +kernel⟩
    · exact .inr ⟨.field, by decide +kernel⟩
  have reads : ReadsAll names := fun name behind => known name (List.dropWhile_sublist _ |>.subset behind)
  have reads' : ReadsAll other :=
    fun name behind => known name ((same name).mp (List.dropWhile_sublist _ |>.subset behind))
  have accepted : ∃ targets, ofNames names = .ok targets := ⟨.kinds [.field, .method, .field], by decide +kernel⟩
  obtain ⟨-, -, alike⟩ := names_up_to_all_decide names
  exact ⟨accepted, ((alike other same).2 reads reads').mp accepted, (alike other same).1⟩

/-- An unknown name is refused in front of a name for all kinds, and passes behind it. -/
theorem names_behind_all_ignored :
    ¬IsKnown "nonsense" ∧ ofNames ["all", "nonsense"] = .ok .all ∧
      ofNames ["nonsense", "all"] = .error (.unknownKind "nonsense") := by
  refine ⟨?_, by decide +kernel, by decide +kernel⟩
  rintro (every | ⟨kind, spelled⟩)
  · exact absurd every (by decide +kernel)
  · rw [show ElementKind.ofSpelling? "nonsense" = none by decide +kernel] at spelled
    cases spelled

end Targets

end Unannotate
