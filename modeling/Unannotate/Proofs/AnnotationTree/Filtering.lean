import Mathlib.Data.List.SplitLengths
import Unannotate.AnnotationTree.Filter
import Unannotate.Proofs.AnnotationTree.Lossless

/-!
# What filtering asks, and what it leaves

A body that is no encoding is refused before anything is asked. For any other one the judge, who may
remember what was asked and may fail, is asked about each annotation once and in order; the verdicts alone
then say what is left, and an annotation that stays is written with its own bytes.
-/
set_option autoImplicit false

namespace Unannotate

open Reader

/-! ## Asking one after the other -/

/-- Who is asked whether an item goes: one with a memory, who can fail in place of an answer. -/
abbrev Judge (ε memory item : Type) := item → ExceptT ε (StateM memory) Bool

namespace Judge

variable {ε memory item α β : Type}

/-- Each item is asked about once and in order, until the judge fails. -/
inductive Asked (judge : Judge ε memory item) :
    List item → memory → Except ε (List Bool) → memory → Prop
  | done {before : memory} : Asked judge [] before (.ok []) before
  | failed {asked : item} {rest : List item} {before after : memory} {fault : ε}
      (answer : (judge asked).run.run before = (.error fault, after)) :
      Asked judge (asked :: rest) before (.error fault) after
  | judged {asked : item} {rest : List item} {before between after : memory} {verdict : Bool}
      {result : Except ε (List Bool)} (answer : (judge asked).run.run before = (.ok verdict, between))
      (others : Asked judge rest between result after) :
      Asked judge (asked :: rest) before (result.map (verdict :: ·)) after

variable {judge : Judge ε memory item} {before between after : memory}

theorem run_bind_of_ok {work : ExceptT ε (StateM memory) α} {next : α → ExceptT ε (StateM memory) β}
    {value : α} (ran : work.run.run before = (.ok value, between)) :
    (work >>= next).run.run before = (next value).run.run between := by
  rw [ExceptT.run_bind, StateT.run_bind, ran]
  rfl

theorem run_bind_of_error {work : ExceptT ε (StateM memory) α}
    {next : α → ExceptT ε (StateM memory) β} {fault : ε}
    (ran : work.run.run before = (.error fault, after)) :
    (work >>= next).run.run before = (.error fault, after) := by
  rw [ExceptT.run_bind, StateT.run_bind, ran]
  rfl

/-- There is a verdict on each item when no question failed. -/
theorem Asked.length_eq {items : List item} {verdicts : List Bool}
    (asked : judge.Asked items before (.ok verdicts) after) : verdicts.length = items.length := by
  generalize outcome : Except.ok verdicts = result at asked
  induction asked generalizing verdicts with
  | done =>
    cases outcome
    rfl
  | failed => cases outcome
  | @judged _ _ _ _ _ verdict result _ _ ih =>
    cases result with
    | error fault => cases outcome
    | ok others =>
      cases outcome
      rw [List.length_cons, List.length_cons, ih rfl]

/-- A judge of items is asked about them when another is asked about what they contain. -/
theorem Asked.map {items : List α} {result : Except ε (List Bool)} {contain : α → item}
    (asked : Asked (fun part => judge (contain part)) items before result after) :
    judge.Asked (items.map contain) before result after := by
  induction asked with
  | done => exact .done
  | failed answer => exact .failed answer
  | judged answer _ ih => exact .judged answer ih

theorem Asked.append_of_error {items others : List item} {fault : ε}
    (asked : judge.Asked items before (.error fault) after) :
    judge.Asked (items ++ others) before (.error fault) after := by
  generalize outcome : (Except.error fault : Except ε (List Bool)) = result at asked
  induction asked with
  | done => cases outcome
  | failed answer =>
    cases outcome
    exact .failed answer
  | @judged _ _ _ _ _ verdict result answer _ ih =>
    cases result with
    | ok verdicts => cases outcome
    | error found =>
      cases outcome
      have joined := Asked.judged answer (ih rfl)
      exact joined

theorem Asked.append {items others : List item} {verdicts : List Bool}
    {result : Except ε (List Bool)} (asked : judge.Asked items before (.ok verdicts) between)
    (askedOn : judge.Asked others between result after) :
    judge.Asked (items ++ others) before (result.map (verdicts ++ ·)) after := by
  generalize outcome : Except.ok verdicts = front at asked
  induction asked generalizing verdicts with
  | done =>
    cases outcome
    cases result <;> exact askedOn
  | failed => cases outcome
  | @judged _ _ _ _ _ verdict front answer _ ih =>
    cases front with
    | error fault => cases outcome
    | ok others =>
      cases outcome
      have joined := Asked.judged answer (ih askedOn rfl)
      cases result <;> exact joined

end Judge

namespace AnnotationTree

/-! ## What verdicts leave -/

/-- The annotations that are not rejected. -/
def kept (trees : List AnnotationTree) (verdicts : List Bool) : List AnnotationTree :=
  ((trees.zip verdicts).filter fun judged => !judged.2).map Prod.fst

theorem kept_cons (tree : AnnotationTree) (trees : List AnnotationTree) (rejected : Bool)
    (verdicts : List Bool) :
    kept (tree :: trees) (rejected :: verdicts)
      = if rejected then kept trees verdicts else tree :: kept trees verdicts := by
  rw [kept, List.zip_cons_cons, List.filter_cons]
  cases rejected <;> rfl

theorem kept_append (trees others : List AnnotationTree) (verdicts : List Bool) :
    kept (trees ++ others) verdicts
      = kept trees (verdicts.take trees.length) ++ kept others (verdicts.drop trees.length) := by
  induction trees generalizing verdicts with
  | nil => rfl
  | cons tree rest ih =>
    cases verdicts with
    | nil => simp [kept]
    | cons rejected verdicts =>
      rw [List.cons_append, List.length_cons, List.take_succ_cons, List.drop_succ_cons, kept_cons,
        kept_cons, ih]
      cases rejected <;> rfl

theorem length_kept_le (trees : List AnnotationTree) (verdicts : List Bool) :
    (kept trees verdicts).length ≤ trees.length := by
  rw [kept, List.length_map]
  refine Nat.le_trans (List.length_filter_le ..) ?_
  rw [List.length_zip]
  exact Nat.min_le_left ..

theorem length_kept_eq_iff {trees : List AnnotationTree} {verdicts : List Bool}
    (each : verdicts.length = trees.length) :
    (kept trees verdicts).length = trees.length ↔ true ∉ verdicts := by
  induction trees generalizing verdicts with
  | nil =>
    cases List.eq_nil_of_length_eq_zero each
    simp [kept]
  | cons tree rest ih =>
    cases verdicts with
    | nil => cases each
    | cons rejected verdicts =>
      have short := length_kept_le rest verdicts
      have others := ih (Nat.succ.inj each)
      rw [kept_cons]
      cases rejected with
      | false => simpa using others
      | true =>
        simp
        omega

theorem kept_eq_nil_iff {trees : List AnnotationTree} {verdicts : List Bool}
    (each : verdicts.length = trees.length) : kept trees verdicts = [] ↔ false ∉ verdicts := by
  induction trees generalizing verdicts with
  | nil =>
    cases List.eq_nil_of_length_eq_zero each
    simp [kept]
  | cons tree rest ih =>
    cases verdicts with
    | nil => cases each
    | cons rejected verdicts =>
      have others := ih (Nat.succ.inj each)
      rw [kept_cons]
      cases rejected with
      | false => simp
      | true => simpa using others

/-- What is left of a body, given a verdict on each annotation: the body as it is when none is rejected,
nothing when none stays, and else `rewritten`. -/
def outcomeOf (verdicts : List Bool) (rewritten : Bytes) : FilterOutcome :=
  if true ∉ verdicts then .unchanged
  else if false ∉ verdicts then .emptied
  else .replaced rewritten

theorem outcomeOf_eq {trees : List AnnotationTree} {verdicts : List Bool}
    (each : verdicts.length = trees.length) (rewritten : Bytes) :
    (if (kept trees verdicts).length = trees.length then FilterOutcome.unchanged
      else if (kept trees verdicts).isEmpty then .emptied
      else .replaced rewritten) = outcomeOf verdicts rewritten := by
  simp only [outcomeOf, length_kept_eq_iff each, List.isEmpty_iff, kept_eq_nil_iff each]

/-! ## One list of annotations -/

section Judged

variable {ε memory : Type}

theorem run_survivors (judge : Judge ε memory UInt16) (trees : List AnnotationTree) (before : memory) :
    ∃ result after, judge.Asked (trees.map typeIndex) before result after ∧
      (survivors judge trees).run.run before = (result.map (kept trees), after) := by
  induction trees generalizing before with
  | nil => exact ⟨.ok [], before, .done, rfl⟩
  | cons tree rest ih =>
    rw [survivors]
    cases answer : (judge tree.typeIndex).run.run before with
    | mk verdict between =>
      cases verdict with
      | error fault =>
        exact ⟨.error fault, between, .failed answer, Judge.run_bind_of_error answer⟩
      | ok rejected =>
        obtain ⟨result, after, asked, others⟩ := ih between
        refine ⟨result.map (rejected :: ·), after, .judged answer asked, ?_⟩
        rw [Judge.run_bind_of_ok answer]
        cases result with
        | error fault => exact Judge.run_bind_of_error others
        | ok verdicts =>
          rw [Judge.run_bind_of_ok others]
          show (Except.ok _, after) = (Except.ok (kept (tree :: rest) (rejected :: verdicts)), after)
          rw [kept_cons]

theorem run_filter (judge : Judge ε memory UInt16) (trees : List AnnotationTree) (before : memory) :
    ∃ result after, judge.Asked (trees.map typeIndex) before result after ∧
      (filter judge trees).run.run before =
        (result.map fun verdicts => outcomeOf verdicts (encodeList (kept trees verdicts)), after) := by
  obtain ⟨result, after, asked, ran⟩ := run_survivors judge trees before
  refine ⟨result, after, asked, ?_⟩
  rw [filter]
  cases result with
  | error fault => exact Judge.run_bind_of_error ran
  | ok verdicts =>
    have each : verdicts.length = trees.length := by
      rw [asked.length_eq, List.length_map]
    rw [Judge.run_bind_of_ok ran]
    show (Except.ok _, after) = (Except.ok _, after)
    rw [outcomeOf_eq each]

end Judged

/-- What a judge without a memory leaves is left again as it is. -/
theorem survivors_again {ε : Type} {reject : UInt16 → Except ε Bool} {trees left : List AnnotationTree}
    (first : survivors reject trees = .ok left) :
    left.Sublist trees ∧ survivors reject left = .ok left := by
  induction trees generalizing left with
  | nil =>
    cases first
    exact ⟨.slnil, rfl⟩
  | cons tree rest ih =>
    rw [survivors] at first
    cases verdict : reject tree.typeIndex with
    | error fault =>
      rw [verdict] at first
      cases first
    | ok rejected =>
      rw [verdict] at first
      cases others : survivors reject rest with
      | error fault =>
        rw [others] at first
        cases first
      | ok behind =>
        rw [others] at first
        obtain ⟨part, again⟩ := ih others
        cases rejected with
        | true =>
          cases first
          exact ⟨part.cons tree, again⟩
        | false =>
          cases first
          refine ⟨part.cons_cons tree, ?_⟩
          show survivors reject (tree :: behind) = _
          rw [survivors, verdict, again]
          rfl

theorem filter_again {ε : Type} {reject : UInt16 → Except ε Bool} {trees : List AnnotationTree}
    {out : Bytes} (first : filter reject trees = .ok (.replaced out)) :
    ∃ left, left.Sublist trees ∧ out = encodeList left ∧ filter reject left = .ok .unchanged := by
  rw [filter] at first
  cases outcome : survivors reject trees with
  | error fault =>
    rw [outcome] at first
    cases first
  | ok left =>
    rw [outcome] at first
    obtain ⟨part, again⟩ := survivors_again outcome
    have written : (if left.length = trees.length then FilterOutcome.unchanged
        else if left.isEmpty then .emptied else .replaced (encodeList left)) = .replaced out :=
      Except.ok.inj first
    refine ⟨left, part, ?_, ?_⟩
    · split at written
      · cases written
      · split at written
        · cases written
        · exact (FilterOutcome.replaced.inj written).symm
    · rw [filter, again]
      show Except.ok (if left.length = left.length then _ else _) = _
      rw [if_pos rfl]

theorem filterBody_of_fits {m : Type → Type} [Monad m] (reject : UInt16 → m Bool)
    {trees : List AnnotationTree} (fits : ListFits trees) :
    filterBody reject (encodeList trees) = .ok (filter reject trees) := by
  rw [filterBody, (parseList_eq_ok_iff _ trees).mpr ⟨fits, rfl⟩]
  rfl

/-- A body that is no encoding of annotations is refused, whoever would be asked. Of any other one each
annotation is asked about once and in order until a question fails; without a failure the verdicts say
what is left, and a judge without a memory leaves that as it is when the result is filtered again. -/
theorem filterBody_exact (info : Bytes) :
    ((¬ ∃ trees, ListFits trees ∧ info = encodeList trees) →
      ∃ fault, ∀ (m : Type → Type) [Monad m] (reject : UInt16 → m Bool),
        filterBody reject info = .error fault) ∧
    ∀ trees, ListFits trees → info = encodeList trees →
      (∀ (ε memory : Type) (judge : Judge ε memory UInt16),
        ∃ filtering, filterBody judge info = .ok filtering ∧
          ∀ before, ∃ result after, judge.Asked (trees.map typeIndex) before result after ∧
            filtering.run.run before =
              (result.map fun verdicts => outcomeOf verdicts (encodeList (kept trees verdicts)),
                after)) ∧
      ∀ (ε : Type) (reject : UInt16 → Except ε Bool) (out : Bytes),
        filterBody reject info = .ok (.ok (.replaced out)) →
          filterBody reject out = .ok (.ok .unchanged) := by
  constructor
  · intro isNone
    cases outcome : parseList info with
    | ok trees => exact absurd ⟨trees, (parseList_eq_ok_iff info trees).mp outcome⟩ isNone
    | error fault =>
      refine ⟨fault, fun m _ reject => ?_⟩
      rw [filterBody, outcome]
      rfl
  · rintro trees fits rfl
    constructor
    · intro ε memory judge
      exact ⟨_, filterBody_of_fits judge fits, run_filter judge trees⟩
    · intro ε reject out first
      rw [filterBody_of_fits reject fits] at first
      obtain ⟨left, part, rfl, again⟩ := filter_again (Except.ok.inj first)
      rw [filterBody_of_fits reject (CountedFits.ofSublist fits part), again]

/-- Fails at type 13, rejects type 10, and notes what it is asked, the last question first. -/
def notingJudge {item : Type} (typeOf : item → UInt16) : Judge String (List item) item := fun asked => do
  modify (asked :: ·)
  if typeOf asked = 13 then throw "13" else return typeOf asked = 10

def threeTrees : List AnnotationTree := [⟨10, []⟩, ⟨11, [(1, .constant 0x49 2)]⟩, ⟨12, []⟩]

theorem threeTrees_fit : ListFits threeTrees := by
  have number : ElementValue.FitsWithin ElementValue.maxDepth (.constant 0x49 2) := by
    show (0x49 : UInt8) ∈ ElementValue.constantTags
    decide
  refine ⟨by decide, ?_⟩
  simp [threeTrees, Fits, CountedFits, number]

/-- Half a body is refused; of three annotations the first goes, and the two others stay again. -/
theorem filterBody_exact_threeTrees :
    (∃ fault, ∀ (m : Type → Type) [Monad m] (reject : UInt16 → m Bool),
      filterBody reject [0, 1] = .error fault) ∧
    (∃ filtering, filterBody (notingJudge id) (encodeList threeTrees) = .ok filtering ∧
      filtering.run.run [] = (.ok (.replaced (encodeList (threeTrees.drop 1))), [12, 11, 10])) ∧
    filterBody (fun index => (.ok (index = 10) : Except String Bool)) (encodeList (threeTrees.drop 1))
      = .ok (.ok .unchanged) := by
  refine ⟨(filterBody_exact [0, 1]).1 ?_, ?_⟩
  · rintro ⟨trees, fits, same⟩
    have read := (parseList_eq_ok_iff [0, 1] trees).mpr ⟨fits, same⟩
    cases (show parseList [0, 1] = .error (.truncated 2 2 2) from rfl).symm.trans read
  · obtain ⟨judged, again⟩ := (filterBody_exact (encodeList threeTrees)).2 threeTrees threeTrees_fit rfl
    obtain ⟨filtering, read, -⟩ := judged String (List UInt16) (notingJudge id)
    refine ⟨⟨filtering, read, ?_⟩, again String _ _ ?_⟩
    · cases (filterBody_of_fits (notingJudge id) threeTrees_fit).symm.trans read
      rfl
    · rw [filterBody_of_fits _ threeTrees_fit]
      rfl

/-- Nothing is asked after a question that failed. -/
example : (filter (notingJudge id) [⟨10, []⟩, ⟨13, []⟩, ⟨12, []⟩]).run.run []
    = (.error "13", [13, 10]) := rfl

/-! ## A list for each parameter -/

/-- What is asked about parameters, numbered from `first` on: the number of the parameter in whose list an
annotation stands, and its type. -/
def questions (first : Nat) (parameters : List (List AnnotationTree)) : List (UInt8 × UInt16) :=
  (parameters.zipIdx first).flatMap fun numbered =>
    numbered.1.map fun tree => (UInt8.ofNat numbered.2, tree.typeIndex)

/-- The annotations of each parameter that are not rejected, given the verdicts on all of them. -/
def keptLists (parameters : List (List AnnotationTree)) (verdicts : List Bool) :
    List (List AnnotationTree) :=
  List.zipWith kept parameters ((parameters.map List.length).splitLengths verdicts)

theorem keptLists_cons (trees : List AnnotationTree) (rest : List (List AnnotationTree))
    (verdicts : List Bool) :
    keptLists (trees :: rest) verdicts
      = kept trees (verdicts.take trees.length) :: keptLists rest (verdicts.drop trees.length) := by
  rw [keptLists, List.map_cons, List.splitLengths_cons, List.zipWith_cons_cons, keptLists]

theorem length_keptLists (parameters : List (List AnnotationTree)) (verdicts : List Bool) :
    (keptLists parameters verdicts).length = parameters.length := by
  rw [keptLists, List.length_zipWith, List.length_splitLengths, List.length_map, Nat.min_self]

theorem flatten_keptLists (parameters : List (List AnnotationTree)) (verdicts : List Bool) :
    (keptLists parameters verdicts).flatten = kept parameters.flatten verdicts := by
  induction parameters generalizing verdicts with
  | nil => rfl
  | cons trees rest ih => rw [keptLists_cons, List.flatten_cons, ih, List.flatten_cons, kept_append]

theorem length_questions (first : Nat) (parameters : List (List AnnotationTree)) :
    (questions first parameters).length = parameters.flatten.length := by
  induction parameters generalizing first with
  | nil => rfl
  | cons trees rest ih =>
    have others := ih (first + 1)
    rw [questions] at others
    rw [questions, List.zipIdx_cons, List.flatMap_cons, List.length_append, others, List.length_map,
      List.flatten_cons, List.length_append]

section Judged

variable {ε memory : Type}

theorem run_parameterSurvivors (judge : Judge ε memory (UInt8 × UInt16)) (first : Nat)
    (parameters : List (List AnnotationTree)) (before : memory) :
    ∃ result after, judge.Asked (questions first parameters) before result after ∧
      (parameterSurvivors (fun parameter index => judge (parameter, index)) first parameters).run.run
        before = (result.map (keptLists parameters), after) := by
  induction parameters generalizing first before with
  | nil => exact ⟨.ok [], before, .done, rfl⟩
  | cons trees rest ih =>
    obtain ⟨result, between, asked, ran⟩ :=
      run_survivors (fun index => judge (UInt8.ofNat first, index)) trees before
    have askedHere := asked.map
    rw [List.map_map] at askedHere
    rw [parameterSurvivors, questions, List.zipIdx_cons, List.flatMap_cons]
    cases result with
    | error fault =>
      exact ⟨.error fault, between, askedHere.append_of_error, Judge.run_bind_of_error ran⟩
    | ok front =>
      obtain ⟨result, after, askedOn, others⟩ := ih (first + 1) between
      refine ⟨result.map (front ++ ·), after, askedHere.append askedOn, ?_⟩
      rw [Judge.run_bind_of_ok ran]
      cases result with
      | error fault => exact Judge.run_bind_of_error others
      | ok verdicts =>
        have width : front.length = trees.length := by
          rw [asked.length_eq, List.length_map]
        rw [Judge.run_bind_of_ok others]
        show (Except.ok _, after) = (Except.ok (keptLists (trees :: rest) (front ++ verdicts)), after)
        rw [keptLists_cons, List.take_left' width, List.drop_left' width]

theorem run_filterParameters (judge : Judge ε memory (UInt8 × UInt16))
    (parameters : List (List AnnotationTree)) (before : memory) :
    ∃ result after, judge.Asked (questions 0 parameters) before result after ∧
      (filterParameters (fun parameter index => judge (parameter, index)) parameters).run.run before =
        (result.map fun verdicts =>
          outcomeOf verdicts (encodeParameters (keptLists parameters verdicts)), after) := by
  obtain ⟨result, after, asked, ran⟩ := run_parameterSurvivors judge 0 parameters before
  refine ⟨result, after, asked, ?_⟩
  rw [filterParameters]
  cases result with
  | error fault => exact Judge.run_bind_of_error ran
  | ok verdicts =>
    have each : verdicts.length = parameters.flatten.length := by
      rw [asked.length_eq, length_questions]
    rw [Judge.run_bind_of_ok ran]
    show (Except.ok _, after) = (Except.ok _, after)
    rw [flatten_keptLists, outcomeOf_eq each]

end Judged

theorem filterParametersBody_of_fits {m : Type → Type} [Monad m] (reject : UInt8 → UInt16 → m Bool)
    {parameters : List (List AnnotationTree)} (fits : ParametersFit parameters) :
    filterParametersBody reject (encodeParameters parameters)
      = .ok (filterParameters reject parameters) := by
  rw [filterParametersBody, (parseParameters_eq_ok_iff _ parameters).mpr ⟨fits, rfl⟩]
  rfl

/-- A body that is no encoding of parameter lists is refused, whoever would be asked. Of any other one
each annotation is asked about once and in order, with the number of its parameter, which fits its byte,
until a question fails; without a failure the verdicts say what is left, and a rewritten body has a list
for each parameter, with what stays of that parameter's own. -/
theorem filterParametersBody_exact (info : Bytes) :
    ((¬ ∃ parameters, ParametersFit parameters ∧ info = encodeParameters parameters) →
      ∃ fault, ∀ (m : Type → Type) [Monad m] (reject : UInt8 → UInt16 → m Bool),
        filterParametersBody reject info = .error fault) ∧
    ∀ parameters, ParametersFit parameters → info = encodeParameters parameters →
      ((∀ position < parameters.length, (UInt8.ofNat position).toNat = position) ∧
        ∀ verdicts, (keptLists parameters verdicts).length = parameters.length) ∧
      ∀ (ε memory : Type) (judge : Judge ε memory (UInt8 × UInt16)),
        ∃ filtering, filterParametersBody (fun parameter index => judge (parameter, index)) info
            = .ok filtering ∧
          ∀ before, ∃ result after, judge.Asked (questions 0 parameters) before result after ∧
            filtering.run.run before =
              (result.map fun verdicts =>
                outcomeOf verdicts (encodeParameters (keptLists parameters verdicts)), after) := by
  constructor
  · intro isNone
    cases outcome : parseParameters info with
    | ok parameters =>
      exact absurd ⟨parameters, (parseParameters_eq_ok_iff info parameters).mp outcome⟩ isNone
    | error fault =>
      refine ⟨fault, fun m _ reject => ?_⟩
      rw [filterParametersBody, outcome]
      rfl
  · rintro parameters fits rfl
    refine ⟨⟨fun position inside => ?_, length_keptLists parameters⟩, fun ε memory judge => ?_⟩
    · exact UInt8.toNat_ofNat_of_lt (Nat.lt_trans inside fits.1)
    · exact ⟨_, filterParametersBody_of_fits _ fits, run_filterParameters judge parameters⟩

/-- The first parameter keeps an empty list, as does the second, which had one. -/
def threeLists : List (List AnnotationTree) := [[⟨10, []⟩], [], [⟨11, []⟩, ⟨10, []⟩]]

theorem threeLists_fit : ParametersFit threeLists := by
  refine ⟨by decide, ?_⟩
  simp [threeLists, ListFits, Fits, CountedFits]

theorem filterParametersBody_exact_threeLists :
    (∃ fault, ∀ (m : Type → Type) [Monad m] (reject : UInt8 → UInt16 → m Bool),
      filterParametersBody reject [1] = .error fault) ∧
    ∃ filtering,
      filterParametersBody (fun parameter index => notingJudge Prod.snd (parameter, index))
          (encodeParameters threeLists) = .ok filtering ∧
        filtering.run.run [] = (.ok (.replaced (encodeParameters [[], [], [⟨11, []⟩]])),
          [(2, 10), (2, 11), (0, 10)]) := by
  refine ⟨(filterParametersBody_exact [1]).1 ?_, ?_⟩
  · rintro ⟨parameters, fits, same⟩
    have read := (parseParameters_eq_ok_iff [1] parameters).mpr ⟨fits, same⟩
    cases (show parseParameters [1] = .error (.truncated 2 1 1) from rfl).symm.trans read
  · obtain ⟨-, judged⟩ := (filterParametersBody_exact (encodeParameters threeLists)).2 threeLists
      threeLists_fit rfl
    obtain ⟨filtering, read, -⟩ := judged String (List (UInt8 × UInt16)) (notingJudge Prod.snd)
    refine ⟨filtering, read, ?_⟩
    cases (filterParametersBody_of_fits _ threeLists_fit).symm.trans read
    rfl

end AnnotationTree

end Unannotate
