import Unannotate.Proofs.Purge.InnerRecords

/-!
# What records say where they are not opened

Two class files that differ only in their versions and in what records outside of the list of the class say
are surveyed alike: the same points are found or the same fault is met, and what is left of one differs from
what is left of the other in nothing else either.
-/
set_option autoImplicit false

namespace Unannotate

open Reader

/-! ## Surveys that agree -/

namespace Survey

variable {α β γ : Type}

/-- Two surveys meet the same fault, or they find the same points, leave what is related, and for the same
verdicts leave all that there was. -/
def Agree (related : α → α → Prop) (whole whole' : α) (found found' : Except Malformation (Purgeable α)) :
    Prop :=
  (∃ fault, found = .error fault ∧ found' = .error fault) ∨
    ∃ part part', found = .ok part ∧ found' = .ok part' ∧ part'.points = part.points ∧
      ∀ decision first, related (part.left decision first) (part'.left decision first) ∧
        (part.left decision first = whole ↔ part'.left decision first = whole')

theorem agree_refl {related : α → α → Prop} (reflexive : ∀ value, related value value) (whole : α)
    (found : Except Malformation (Purgeable α)) : Agree related whole whole found found := by
  cases found with
  | error fault => exact .inl ⟨fault, rfl, rfl⟩
  | ok part => exact .inr ⟨part, part, rfl, rfl, rfl, fun _ _ => ⟨reflexive _, Iff.rfl⟩⟩

theorem agree_fixed {related : α → α → Prop} {whole whole' value value' : α} (relates : related value value')
    (same : value = whole ↔ value' = whole') : Agree related whole whole' (fixed value) (fixed value') :=
  .inr ⟨.fixed value, .fixed value', rfl, rfl, rfl, fun _ _ => ⟨relates, same⟩⟩

theorem Agree.mono {related weaker : α → α → Prop} {whole whole' : α}
    {found found' : Except Malformation (Purgeable α)} (agrees : Agree related whole whole' found found')
    (weakens : ∀ value value', related value value' → weaker value value') :
    Agree weaker whole whole' found found' := by
  obtain failed | ⟨part, part', here, there, points, left⟩ := agrees
  · exact .inl failed
  · refine .inr ⟨part, part', here, there, points, fun decision first => ?_⟩
    exact ⟨weakens _ _ (left decision first).1, (left decision first).2⟩

theorem agree_map {related : α → α → Prop} {related' : β → β → Prop} {whole whole' : α}
    {changed changed' : β} {change change' : α → β} {found found' : Except Malformation (Purgeable α)}
    (agrees : Agree related whole whole' found found')
    (each : ∀ part part', found = .ok part → found' = .ok part' → ∀ decision first,
      related (part.left decision first) (part'.left decision first) →
      related' (change (part.left decision first)) (change' (part'.left decision first)) ∧
        (change (part.left decision first) = changed ↔ part.left decision first = whole) ∧
        (change' (part'.left decision first) = changed' ↔ part'.left decision first = whole')) :
    Agree related' changed changed' (map change found) (map change' found') := by
  obtain ⟨fault, rfl, rfl⟩ | ⟨part, part', rfl, rfl, points, left⟩ := agrees
  · exact .inl ⟨fault, rfl, rfl⟩
  · refine .inr ⟨part.map change, part'.map change', rfl, rfl, points, ?_⟩
    intro decision first
    obtain ⟨relates, same⟩ := left decision first
    obtain ⟨relates', here, there⟩ := each part part' rfl rfl decision first relates
    exact ⟨relates', here.trans (same.trans there.symm)⟩

theorem agree_map₂ {related : α → α → Prop} {related' : β → β → Prop} {joined : γ → γ → Prop}
    {whole whole' : α} {rest rest' : β} {all all' : γ} {join join' : α → β → γ}
    {front front' : Except Malformation (Purgeable α)} {back back' : Except Malformation (Purgeable β)}
    (frontAgrees : Agree related whole whole' front front')
    (backAgrees : Agree related' rest rest' back back')
    (each : ∀ part part', back = .ok part → back' = .ok part' → ∀ value value' decision first,
      related value value' → related' (part.left decision first) (part'.left decision first) →
      joined (join value (part.left decision first)) (join' value' (part'.left decision first)) ∧
        (join value (part.left decision first) = all ↔
          value = whole ∧ part.left decision first = rest) ∧
        (join' value' (part'.left decision first) = all' ↔
          value' = whole' ∧ part'.left decision first = rest')) :
    Agree joined all all' (map₂ join front back) (map₂ join' front' back') := by
  obtain ⟨fault, rfl, rfl⟩ | ⟨head, head', rfl, rfl, headPoints, headLeft⟩ := frontAgrees
  · exact .inl ⟨fault, rfl, rfl⟩
  obtain ⟨fault, rfl, rfl⟩ | ⟨tail, tail', rfl, rfl, tailPoints, tailLeft⟩ := backAgrees
  · exact .inl ⟨fault, rfl, rfl⟩
  refine .inr ⟨head.map₂ join tail, head'.map₂ join' tail', rfl, rfl, ?_, ?_⟩
  · show head'.points ++ tail'.points = head.points ++ tail.points
    rw [headPoints, tailPoints]
  · intro decision first
    obtain ⟨headRelates, headSame⟩ := headLeft decision first
    obtain ⟨tailRelates, tailSame⟩ := tailLeft decision (first + head.points.length)
    obtain ⟨relates, here, there⟩ := each tail tail' rfl rfl _ _ decision
      (first + head.points.length) headRelates tailRelates
    -- The second parts are offered under the same number, since the first ones have as many points.
    have number : (head'.map₂ join' tail').left decision first
        = join' (head'.left decision first) (tail'.left decision (first + head.points.length)) := by
      show join' _ (tail'.left decision (first + head'.points.length)) = _
      rw [headPoints]
    rw [number]
    exact ⟨relates, here.trans ((and_congr headSame tailSame).trans there.symm)⟩

theorem agree_traverse {related : α → α → Prop} {find : α → Except Malformation (Purgeable α)}
    (each : ∀ item other, related item other → Agree related item other (find item) (find other))
    {list list' : List α} (alike : List.Forall₂ related list list') :
    Agree (List.Forall₂ related) list list' (traverse find list) (traverse find list') := by
  induction alike with
  | nil => exact .inr ⟨_, _, rfl, rfl, rfl, fun _ _ => ⟨.nil, Iff.rfl⟩⟩
  | cons head _ ih =>
    refine agree_map₂ (each _ _ head) ih ?_
    intro part part' _ _ value value' decision first relates others
    exact ⟨.cons relates others, by simp, by simp⟩

theorem append_eq_cons_iff {fate : Option α} {item : α} {others rest : List α}
    (short : others.length ≤ rest.length) :
    fate.toList ++ others = item :: rest ↔ fate = some item ∧ others = rest := by
  cases fate with
  | none =>
    refine iff_of_false ?_ (by simp)
    intro same
    have count := congrArg List.length same
    rw [Option.toList_none, List.nil_append, List.length_cons] at count
    omega
  | some value => simp

theorem agree_filterMap {related : α → α → Prop}
    {find : α → Except Malformation (Purgeable (Option α))}
    (each : ∀ item other, related item other →
      Agree (Option.Rel related) (some item) (some other) (find item) (find other))
    {list list' : List α} (alike : List.Forall₂ related list list') :
    Agree (List.Forall₂ related) list list' (filterMap find list) (filterMap find list') := by
  have short (list : List α) (part : Purgeable (List α)) (found : filterMap find list = .ok part)
      (decision : Decision) (first : Nat) : (part.left decision first).length ≤ list.length := by
    have leaves : List.SublistForall₂ (fun _ _ => True) (part.left decision first) list :=
      filterMap_leaves (fun _ _ _ _ _ _ _ => trivial) list part found decision first
    obtain ⟨staying, remaining, sublist⟩ := List.sublistForall₂_iff.mp leaves
    exact remaining.length_eq ▸ sublist.length_le
  induction alike with
  | nil => exact .inr ⟨_, _, rfl, rfl, rfl, fun _ _ => ⟨.nil, Iff.rfl⟩⟩
  | cons head _ ih =>
    refine agree_map₂ (each _ _ head) ih ?_
    intro part part' found found' value value' decision first relates others
    refine ⟨?_, append_eq_cons_iff (short _ part found decision first),
      append_eq_cons_iff (short _ part' found' decision first)⟩
    cases relates with
    | none => exact others
    | some relates => exact .cons relates others

end Survey

/-! ## Class files that are alike -/

namespace Attribute

/-- Attributes of one name, whose bodies are alike under it. -/
structure Alike (pool : ConstantPool) (alike : String → Bytes → Bytes → Prop)
    (item other : Attribute) : Prop where
  nameIndex : other.nameIndex = item.nameIndex
  body : ∀ name, pool.text item.nameIndex = .ok name → alike name item.info other.info

abbrev ListAlike (pool : ConstantPool) (alike : String → Bytes → Bytes → Prop) :
    List Attribute → List Attribute → Prop :=
  List.Forall₂ (Alike pool alike)

end Attribute

/-- In a code body a record may say anything. -/
def NestedAlike (name : String) (info other : Bytes) : Prop := other = info ∨ name = "Record"

section Bodies

variable (pool : ConstantPool)

def CodeAlike (info other : Bytes) : Prop :=
  ∃ code attributes, Code.parse info = .ok code ∧ Code.parse other = .ok { code with attributes } ∧
    Attribute.ListAlike pool NestedAlike code.attributes attributes

/-- Bodies of attributes that are not in the list of the class. -/
def BodyAlike (name : String) (info other : Bytes) : Prop :=
  other = info ∨ name = "Record" ∨ name = "Code" ∧ CodeAlike pool info other

structure RecordComponent.Alike (component other : RecordComponent) : Prop where
  nameIndex : other.nameIndex = component.nameIndex
  descriptorIndex : other.descriptorIndex = component.descriptorIndex
  attributes : Attribute.ListAlike pool (BodyAlike pool) component.attributes other.attributes

def ComponentsAlike (info other : Bytes) : Prop :=
  ∃ components others, RecordComponent.parseList info = .ok components ∧
    RecordComponent.parseList other = .ok others ∧
      List.Forall₂ (RecordComponent.Alike pool) components others

/-- Bodies of attributes of the class itself, whose records are opened. -/
def ClassBodyAlike (name : String) (info other : Bytes) : Prop :=
  other = info ∨ name = "Record" ∧ ComponentsAlike pool info other ∨
    name = "Code" ∧ CodeAlike pool info other

structure Member.Alike (member other : Member) : Prop where
  accessFlags : other.accessFlags = member.accessFlags
  nameIndex : other.nameIndex = member.nameIndex
  descriptorIndex : other.descriptorIndex = member.descriptorIndex
  attributes : Attribute.ListAlike pool (BodyAlike pool) member.attributes other.attributes

end Bodies

/-- Class files that may differ in their versions and in what records say that are not opened. -/
structure ClassFile.Alike (file other : ClassFile) : Prop where
  pool : other.pool = file.pool
  accessFlags : other.accessFlags = file.accessFlags
  thisClass : other.thisClass = file.thisClass
  superClass : other.superClass = file.superClass
  interfaces : other.interfaces = file.interfaces
  fields : List.Forall₂ (Member.Alike file.pool) file.fields other.fields
  methods : List.Forall₂ (Member.Alike file.pool) file.methods other.methods
  attributes : Attribute.ListAlike file.pool (ClassBodyAlike file.pool) file.attributes other.attributes

/-! ## Surveys of what is alike -/

theorem Code.with_attributes_eq_iff {code : Code} {attributes whole : List Attribute} :
    ({ code with attributes } : Code) = { code with attributes := whole } ↔ attributes = whole := by
  simp

namespace ClassContext

variable {context : ClassContext} {flags : StripFlags} {site : Site} {name : String} {info other : Bytes}

/-- Surveys of bodies that are alike agree. -/
def Respects (alike : String → Bytes → Bytes → Prop)
    (ofBody : String → Bytes → Except Malformation (Purgeable (Option Bytes))) : Prop :=
  ∀ name info other, alike name info other →
    Survey.Agree (Option.Rel (alike name)) (some info) (some other) (ofBody name info) (ofBody name other)

theorem map_info_eq_some_iff (item : Attribute) (fate : Option Bytes) :
    fate.map (fun info => { item with info }) = some item ↔ fate = some item.info := by
  cases fate with
  | none => simp
  | some info =>
    rw [Option.map_some, Option.some_inj, Option.some_inj]
    constructor
    · intro same
      exact congrArg Attribute.info same
    · rintro rfl
      rfl

theorem surveyList_agree {alike : String → Bytes → Bytes → Prop}
    {ofBody : String → Bytes → Except Malformation (Purgeable (Option Bytes))}
    (respects : Respects alike ofBody) {attributes others : List Attribute}
    (same : Attribute.ListAlike context.pool alike attributes others) :
    Survey.Agree (Attribute.ListAlike context.pool alike) attributes others
      (context.surveyList ofBody attributes) (context.surveyList ofBody others) := by
  refine Survey.agree_filterMap ?_ same
  rintro item ⟨nameIndex, info⟩ ⟨sameIndex, body⟩
  dsimp only at sameIndex body
  subst sameIndex
  unfold surveyAttribute
  cases named : context.pool.text item.nameIndex with
  | error fault => exact .inl ⟨fault, rfl, rfl⟩
  | ok name =>
    rw [ok_bind, ok_bind]
    refine Survey.agree_map (respects name item.info info (body name named)) ?_
    intro part part' _ _ decision first relates
    refine ⟨?_, map_info_eq_some_iff item _, map_info_eq_some_iff ⟨item.nameIndex, info⟩ _⟩
    generalize part.left decision first = fate at relates ⊢
    generalize part'.left decision first = fate' at relates ⊢
    cases relates with
    | none => exact .none
    | some relates =>
      refine .some ⟨rfl, fun name' named' => ?_⟩
      obtain rfl := Except.ok.inj (named.symm.trans named')
      exact relates

theorem optionRel_refl {related : Bytes → Bytes → Prop} (reflexive : ∀ info, related info info)
    (fate : Option Bytes) : Option.Rel related fate fate := by
  cases fate with
  | none => exact .none
  | some info => exact .some (reflexive info)

theorem optionRel_mono {related weaker : Bytes → Bytes → Prop}
    (weakens : ∀ info other, related info other → weaker info other) (fate fate' : Option Bytes)
    (relates : Option.Rel related fate fate') : Option.Rel weaker fate fate' := by
  cases relates with
  | none => exact .none
  | some relates => exact .some (weakens _ _ relates)

theorem surveyNested_agree {attributes others : List Attribute}
    (same : Attribute.ListAlike context.pool NestedAlike attributes others) :
    Survey.Agree (Attribute.ListAlike context.pool NestedAlike) attributes others
      (context.surveyNested flags attributes) (context.surveyNested flags others) := by
  refine surveyList_agree ?_ same
  intro name info other alike
  dsimp only
  by_cases strips : flags.stripsFromCode name = true
  · rw [if_pos strips, if_pos strips]
    exact Survey.agree_fixed .none (by simp)
  · rw [if_neg strips, if_neg strips]
    exact Survey.agree_fixed (.some alike) (by simp)

/-- Texts that are read back are equal when what they were written from is. -/
theorem some_layout_eq_iff {α : Type} {parse : Bytes → Except Malformation α} {layout : α → Bytes}
    {whole left : α} (parsed : parse (layout whole) = .ok whole) (again : parse (layout left) = .ok left) :
    some (layout left) = some (layout whole) ↔ left = whole := by
  rw [Option.some_inj]
  exact ⟨Reader.eq_of_layout_eq again parsed, congrArg layout⟩

theorem surveyCode_agree (alike : CodeAlike context.pool info other) :
    Survey.Agree (Option.Rel (CodeAlike context.pool)) (some info) (some other)
      (context.surveyCode flags info) (context.surveyCode flags other) := by
  obtain ⟨code, attributes, parsed, parsed', same⟩ := alike
  obtain ⟨fits, rfl⟩ := (Code.parse_eq_ok_iff _ _).mp parsed
  obtain ⟨fits', rfl⟩ := (Code.parse_eq_ok_iff _ _).mp parsed'
  unfold surveyCode
  rw [parsed, parsed', ok_bind, ok_bind]
  refine Survey.agree_map (surveyNested_agree same) ?_
  intro part part' found found' decision first relates
  have left := parse_left_of_surveyNested fits found decision first
  have left' := parse_left_of_surveyNested fits' found' decision first
  refine ⟨.some ⟨_, _, left, left', relates⟩, ?_, ?_⟩
  · rw [some_layout_eq_iff parsed left, Code.with_attributes_eq_iff]
  · rw [some_layout_eq_iff parsed' left', Code.with_attributes_eq_iff]

/-- Where no record is meant, bodies differ inside of code at most. -/
theorem surveyBody_agree (alike : other = info ∨ name = "Code" ∧ CodeAlike context.pool info other) :
    Survey.Agree
      (Option.Rel fun info other => other = info ∨ name = "Code" ∧ CodeAlike context.pool info other)
      (some info) (some other)
      (context.surveyBody flags site name info) (context.surveyBody flags site name other) := by
  obtain rfl | ⟨rfl, code⟩ := alike
  · exact Survey.agree_refl (optionRel_refl fun _ => .inl rfl) _ _
  have view : AttributeView.of site "Code" = .code := by
    simp [AttributeView.of]
  rw [surveyBody_of_code view, surveyBody_of_code view]
  split
  · exact Survey.agree_fixed .none (by simp)
  split
  · exact (surveyCode_agree code).mono (optionRel_mono fun _ _ alike => .inr ⟨rfl, alike⟩)
  · exact Survey.agree_fixed (.some (.inr ⟨rfl, code⟩)) (by simp)

theorem respects_surveyBody (inner : site ≠ .classBody) :
    Respects (BodyAlike context.pool) (context.surveyBody flags site) := by
  intro name info other alike
  by_cases isRecord : name = "Record"
  · subst isRecord
    have view : AttributeView.of site "Record" = .other := by
      simp [AttributeView.of, inner]
    rw [surveyBody_of_other (.inr view), surveyBody_of_other (.inr view)]
    exact Survey.agree_fixed (.some (.inr (.inl rfl))) (by simp)
  · have alike : other = info ∨ name = "Code" ∧ CodeAlike context.pool info other := by
      obtain same | named | code := alike
      · exact .inl same
      · exact absurd named isRecord
      · exact .inr code
    exact (surveyBody_agree alike).mono (optionRel_mono fun _ _ alike => alike.imp id .inr)

theorem surveyNamed_agree {α : Type} {related : α → α → Prop}
    {place : String → String → Site} {nameIndex descriptorIndex : UInt16}
    {attributes others : List Attribute} {around around' : List Attribute → α}
    (inner : ∀ name descriptor, place name descriptor ≠ .classBody)
    (injective : around.Injective) (injective' : around'.Injective)
    (relates : ∀ left left', Attribute.ListAlike context.pool (BodyAlike context.pool) left left' →
      related (around left) (around' left'))
    (same : Attribute.ListAlike context.pool (BodyAlike context.pool) attributes others) :
    Survey.Agree related (around attributes) (around' others)
      (context.surveyNamed flags place nameIndex descriptorIndex attributes around)
      (context.surveyNamed flags place nameIndex descriptorIndex others around') := by
  unfold surveyNamed
  cases context.pool.text nameIndex with
  | error fault => exact .inl ⟨fault, rfl, rfl⟩
  | ok name =>
    cases context.pool.text descriptorIndex with
    | error fault => exact .inl ⟨fault, rfl, rfl⟩
    | ok descriptor =>
      refine Survey.agree_map (surveyList_agree (respects_surveyBody (inner name descriptor)) same) ?_
      intro part part' _ _ decision first alike
      exact ⟨relates _ _ alike, injective.eq_iff, injective'.eq_iff⟩

theorem surveyComponent_agree (component component' : RecordComponent)
    (alike : component.Alike context.pool component') :
    Survey.Agree (RecordComponent.Alike context.pool) component component'
      (context.surveyComponent flags component) (context.surveyComponent flags component') := by
  obtain ⟨nameIndex, descriptorIndex, attributes⟩ := component'
  obtain ⟨sameName, sameDescriptor, same⟩ := alike
  dsimp only at sameName sameDescriptor same
  subst sameName sameDescriptor
  apply surveyNamed_agree (by simp) _ _ _ same
  · exact fun _ _ => congrArg RecordComponent.attributes
  · exact fun _ _ => congrArg RecordComponent.attributes
  · exact fun _ _ relates => ⟨rfl, rfl, relates⟩

theorem surveyMember_agree {place : String → String → Site}
    (inner : ∀ name descriptor, place name descriptor ≠ .classBody) (member member' : Member)
    (alike : member.Alike context.pool member') :
    Survey.Agree (Member.Alike context.pool) member member'
      (context.surveyMember flags place member) (context.surveyMember flags place member') := by
  obtain ⟨accessFlags, nameIndex, descriptorIndex, attributes⟩ := member'
  obtain ⟨sameAccess, sameName, sameDescriptor, same⟩ := alike
  dsimp only at sameAccess sameName sameDescriptor same
  subst sameAccess sameName sameDescriptor
  apply surveyNamed_agree inner _ _ _ same
  · exact fun _ _ => congrArg Member.attributes
  · exact fun _ _ => congrArg Member.attributes
  · exact fun _ _ relates => ⟨rfl, rfl, rfl, relates⟩

theorem surveyRecord_agree (alike : ComponentsAlike context.pool info other) :
    Survey.Agree (Option.Rel (ComponentsAlike context.pool)) (some info) (some other)
      (context.surveyRecord flags info) (context.surveyRecord flags other) := by
  obtain ⟨components, others, parsed, parsed', same⟩ := alike
  obtain ⟨fits, rfl⟩ := (RecordComponent.parseList_eq_ok_iff _ _).mp parsed
  obtain ⟨fits', rfl⟩ := (RecordComponent.parseList_eq_ok_iff _ _).mp parsed'
  unfold surveyRecord
  rw [parsed, parsed', ok_bind, ok_bind]
  refine Survey.agree_map (Survey.agree_traverse surveyComponent_agree same) ?_
  intro part part' found found' decision first relates
  have left := parseList_left_of_surveyComponents fits found decision first
  have left' := parseList_left_of_surveyComponents fits' found' decision first
  exact ⟨.some ⟨_, _, left, left', relates⟩, some_layout_eq_iff parsed left, some_layout_eq_iff parsed' left'⟩

theorem respects_surveyClassBody :
    Respects (ClassBodyAlike context.pool) (context.surveyClassBody flags) := by
  intro name info other alike
  by_cases isRecord : name = "Record"
  · subst isRecord
    rw [surveyClassBody_of_record (AttributeView.of_classBody_eq_record_iff.mpr rfl)]
    obtain rfl | ⟨-, components⟩ | ⟨isCode, -⟩ := alike
    · exact Survey.agree_refl (optionRel_refl fun _ => .inl rfl) _ _
    · exact (surveyRecord_agree components).mono
        (optionRel_mono fun _ _ alike => .inr (.inl ⟨rfl, alike⟩))
    · exact absurd isCode (by decide)
  · have alike : other = info ∨ name = "Code" ∧ CodeAlike context.pool info other := by
      obtain same | ⟨named, -⟩ | code := alike
      · exact .inl same
      · exact absurd named isRecord
      · exact .inr code
    rw [surveyClassBody_of_not_record
      fun view => isRecord (AttributeView.of_classBody_eq_record_iff.mp view)]
    exact (surveyBody_agree alike).mono (optionRel_mono fun _ _ alike => alike.imp id .inr)

end ClassContext

namespace ClassFile

variable {file other : ClassFile}

theorem Alike.name (alike : file.Alike other) : other.name = file.name := by
  rw [ClassFile.name, ClassFile.name, alike.pool, alike.thisClass]

/-- Neither the versions nor what unopened records say can be seen in a survey. -/
theorem Alike.survey (alike : file.Alike other) (flags : StripFlags) :
    Survey.Agree ClassFile.Alike file other (file.survey flags) (other.survey flags) := by
  unfold ClassFile.survey ClassFile.context
  rw [alike.name, alike.pool]
  cases file.name with
  | error fault => exact .inl ⟨fault, rfl, rfl⟩
  | ok name =>
    rw [ok_bind, pure_bind, pure_bind]
    let context : ClassContext := ⟨file.pool, dotted name.toList⟩
    have own : Survey.Agree (Attribute.ListAlike file.pool (ClassBodyAlike file.pool)) file.attributes
        other.attributes (context.surveyList (context.surveyClassBody flags) file.attributes)
        (context.surveyList (context.surveyClassBody flags) other.attributes) :=
      ClassContext.surveyList_agree ClassContext.respects_surveyClassBody alike.attributes
    have fields : Survey.Agree (List.Forall₂ (Member.Alike file.pool)) file.fields other.fields
        (Survey.traverse (context.surveyMember flags .field) file.fields)
        (Survey.traverse (context.surveyMember flags .field) other.fields) :=
      Survey.agree_traverse (ClassContext.surveyMember_agree (by simp)) alike.fields
    have methods : Survey.Agree (List.Forall₂ (Member.Alike file.pool)) file.methods other.methods
        (Survey.traverse (context.surveyMember flags .method) file.methods)
        (Survey.traverse (context.surveyMember flags .method) other.methods) :=
      Survey.agree_traverse (ClassContext.surveyMember_agree (by simp)) alike.methods
    have members : Survey.Agree
        (fun pair pair' : List Member × List Member =>
          List.Forall₂ (Member.Alike file.pool) pair.1 pair'.1 ∧
            List.Forall₂ (Member.Alike file.pool) pair.2 pair'.2)
        (file.fields, file.methods) (other.fields, other.methods)
        (Survey.map₂ Prod.mk (Survey.traverse (context.surveyMember flags .field) file.fields)
          (Survey.traverse (context.surveyMember flags .method) file.methods))
        (Survey.map₂ Prod.mk (Survey.traverse (context.surveyMember flags .field) other.fields)
          (Survey.traverse (context.surveyMember flags .method) other.methods)) := by
      refine Survey.agree_map₂ fields methods ?_
      intro part part' _ _ left left' decision first fieldsAlike methodsAlike
      exact ⟨⟨fieldsAlike, methodsAlike⟩, by rw [Prod.mk.injEq], by rw [Prod.mk.injEq]⟩
    refine Survey.agree_map₂ own members ?_
    intro part part' _ _ attributes attributes' decision first ownAlike membersAlike
    refine ⟨?_, ?_, ?_⟩
    · exact {
        pool := alike.pool, accessFlags := alike.accessFlags, thisClass := alike.thisClass
        superClass := alike.superClass, interfaces := alike.interfaces, fields := membersAlike.1
        methods := membersAlike.2, attributes := ownAlike }
    · rw [PassRules.edited_eq_iff, Prod.ext_iff]
    · rw [PassRules.edited_eq_iff, Prod.ext_iff]

end ClassFile

end Unannotate
