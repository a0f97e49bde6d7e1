import Unannotate.Proofs.ClassFile.Blocks
import Unannotate.Proofs.Purge.PassFile

/-!
# Which classes a purge accepts

A purge fails when the class cannot be read as far as its flags look into it, and for no other reason.
All points are resolved before anything is decided about them, and what is left always fits its counts and
lengths, so the decision neither causes a fault nor hides one.
-/
set_option autoImplicit false

namespace Unannotate

/-! ## Surveys fail on what they read -/

namespace Survey

variable {α β γ : Type}

theorem readsOnly_map {found : Except Malformation (Purgeable α)} (change : α → β)
    (reads : ReadsOnly found) : ReadsOnly (map change found) :=
  Unannotate.readsOnly_map _ reads

theorem readsOnly_map₂ {front : Except Malformation (Purgeable α)}
    {back : Except Malformation (Purgeable β)} (join : α → β → γ) (frontReads : ReadsOnly front)
    (backReads : ReadsOnly back) : ReadsOnly (map₂ join front back) :=
  readsOnly_bind frontReads fun _ => readsOnly_bind backReads fun _ => readsOnly_ok _

theorem readsOnly_collect {find : α → Except Malformation (Purgeable β)}
    (join : β → List γ → List γ) (each : ∀ item, ReadsOnly (find item)) (list : List α) :
    ReadsOnly (collect join find list) := by
  induction list with
  | nil => exact readsOnly_ok _
  | cons item rest ih => exact readsOnly_map₂ join (each item) ih

end Survey

namespace ClassContext

variable (context : ClassContext) (flags : StripFlags)

theorem readsOnly_surveyTrees (site : Site) (kind : ElementKind) (parameter : Option UInt8)
    (visible : Bool) (trees : List AnnotationTree) :
    ReadsOnly (context.surveyTrees site kind parameter visible trees) := by
  refine Survey.readsOnly_collect _ (fun tree => Survey.readsOnly_map _ ?_) trees
  have point : ReadsOnly (context.point site kind parameter visible tree) :=
    readsOnly_bind (context.pool.readsOnly_text _) fun descriptor =>
      readsOnly_bind (readsOnly_annotationClassName descriptor) fun _ => readsOnly_ok _
  exact readsOnly_bind point fun _ => readsOnly_ok _

theorem readsOnly_surveyList
    {ofBody : String → Bytes → Except Malformation (Purgeable (Option Bytes))}
    (each : ∀ name info, ReadsOnly (ofBody name info)) (attributes : List Attribute) :
    ReadsOnly (context.surveyList ofBody attributes) := by
  refine Survey.readsOnly_collect _ (fun item => ?_) attributes
  exact readsOnly_bind (context.pool.readsOnly_text item.nameIndex) fun name =>
    Survey.readsOnly_map _ (each name item.info)

theorem readsOnly_surveyCode (info : Bytes) : ReadsOnly (context.surveyCode flags info) :=
  readsOnly_bind (Code.readsOnly_parse info) fun code => Survey.readsOnly_map _
    (context.readsOnly_surveyList (fun _ _ => readsOnly_ok _) code.attributes)

theorem readsOnly_surveyBody (site : Site) (name : String) (info : Bytes) :
    ReadsOnly (context.surveyBody flags site name info) := by
  unfold surveyBody
  split
  · exact readsOnly_bind (AnnotationTree.readsOnly_parseList info) fun trees =>
      Survey.readsOnly_map _ (context.readsOnly_surveyTrees _ _ _ _ trees)
  · exact readsOnly_bind (AnnotationTree.readsOnly_parseParameters info) fun lists =>
      Survey.readsOnly_map _
        (Survey.readsOnly_collect _ (fun _ => context.readsOnly_surveyTrees _ _ _ _ _) _)
  · split
    · exact readsOnly_ok _
    · split
      · exact context.readsOnly_surveyCode flags info
      · exact readsOnly_ok _
  · exact readsOnly_ok _
  · exact readsOnly_ok _
  · exact readsOnly_ok _

theorem readsOnly_surveyNamed {α : Type} (place : String → String → Site)
    (nameIndex descriptorIndex : UInt16) (attributes : List Attribute)
    (around : List Attribute → α) :
    ReadsOnly
      (context.surveyNamed flags place nameIndex descriptorIndex attributes around) :=
  readsOnly_bind (context.pool.readsOnly_text nameIndex) fun _ =>
    readsOnly_bind (context.pool.readsOnly_text descriptorIndex) fun _ =>
      Survey.readsOnly_map _
        (context.readsOnly_surveyList (context.readsOnly_surveyBody flags _) attributes)

theorem readsOnly_surveyClassBody (name : String) (info : Bytes) :
    ReadsOnly (context.surveyClassBody flags name info) := by
  unfold surveyClassBody
  split
  · exact readsOnly_bind (RecordComponent.readsOnly_parseList info) fun components =>
      Survey.readsOnly_map _
        (Survey.readsOnly_collect _ (fun _ => context.readsOnly_surveyNamed flags _ _ _ _ _) components)
  · exact context.readsOnly_surveyBody flags .classBody name info

theorem readsOnly_surveyFile (file : ClassFile) : ReadsOnly (context.surveyFile flags file) := by
  have members (place : String → String → Site) (list : List Member) :
      ReadsOnly (Survey.traverse (context.surveyMember flags place) list) :=
    Survey.readsOnly_collect _ (fun _ => context.readsOnly_surveyNamed flags _ _ _ _ _) list
  exact Survey.readsOnly_map₂ _
    (context.readsOnly_surveyList (context.readsOnly_surveyClassBody flags) file.attributes)
    (Survey.readsOnly_map₂ _ (members .field file.fields) (members .method file.methods))

end ClassContext

theorem ClassFile.readsOnly_survey (flags : StripFlags) (file : ClassFile) :
    ReadsOnly (file.survey flags) :=
  readsOnly_bind (readsOnly_bind file.readsOnly_name fun _ => readsOnly_ok _) fun context =>
    context.readsOnly_surveyFile flags file

/-! ## Purges fail as surveys do -/

theorem bind_error_iff {α β : Type} {first : Except Malformation α}
    {second : α → Except Malformation β} {fault : Malformation} :
    (first >>= second) = .error fault ↔
      first = .error fault ∨ ∃ value, first = .ok value ∧ second value = .error fault := by
  cases first with
  | error met => simp [bind, Except.bind]
  | ok value => simp [bind, Except.bind]

namespace PurgedClass

theorem readsOnly_ofBytes (data : Bytes) (flags : StripFlags) (decision : Decision) :
    ReadsOnly (ofBytes data flags decision) := by
  rw [ofBytes_eq]
  exact readsOnly_bind (ClassFile.readsOnly_parse data) fun file =>
    readsOnly_bind file.readsOnly_name fun _ =>
      readsOnly_bind (file.readsOnly_survey flags) fun _ => readsOnly_ok _

/-- Whether a class is refused, and with which fault, does not depend on the decision, and no fault of
writing is among the reasons. -/
theorem refusal_independent_of_decision (data : Bytes) (flags : StripFlags)
    (decision other : Decision) :
    (∀ fault, ofBytes data flags decision = .error fault ↔ ofBytes data flags other = .error fault) ∧
      (∀ part count, ofBytes data flags decision ≠ .error (.tooMany part count)) ∧
      ofBytes data flags decision ≠ .error .attributeTooLong := by
  have reads := readsOnly_ofBytes data flags decision
  refine ⟨?_, ?_, ?_⟩
  · intro fault
    -- Past the survey nothing can fail any more, whatever is decided.
    have resolved (decision : Decision) : ofBytes data flags decision = .error fault ↔
        ClassFile.parse data = .error fault ∨ ∃ file, ClassFile.parse data = .ok file ∧
          (file.name = .error fault ∨ ∃ name, file.name = .ok name ∧
            file.survey flags = .error fault) := by
      rw [ofBytes_eq]
      simp only [bind_error_iff, pure, Except.pure, reduceCtorEq, and_false, exists_false, or_false]
    rw [resolved decision, resolved other]
  · intro part count refused
    exact reads _ refused
  · intro refused
    exact reads _ refused

end PurgedClass

end Unannotate
