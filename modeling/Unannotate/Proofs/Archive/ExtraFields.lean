import Unannotate.Archive.Entry
import Unannotate.Proofs.LittleEndian

/-!
# The extra fields of an entry, one after another

Extra data are complete fields and a tail in exactly one way. Going through them gives each field that is
not of the writer to the new entry, in order; one that is refused leaves those before and behind it as
they are. What is refused is up to whoever takes the fields, as long as a field that is taken stands
behind those taken before.
-/
set_option autoImplicit false

namespace Unannotate

namespace ExtraField

/-! ## Fields and the tail -/

/-- The numbers of a field fit their places. -/
structure Bounded (field : ExtraField) : Prop where
  id_lt : field.id < 0x10000
  length_lt : field.body.length < 0x10000

/-- No complete field begins here: there is no header, or less behind it than it announces. -/
def Incomplete (data : Bytes) : Prop := data.length < 4 ∨ data.length < 4 + data.field 2 2

/-- All complete fields at the front, and what is left over. -/
structure Splits (data : Bytes) (fields : List ExtraField) (tail : Bytes) : Prop where
  parts : data = fields.flatMap encode ++ tail
  bounded : ∀ field ∈ fields, field.Bounded
  incomplete : Incomplete tail

theorem field_eq_drop_take (data : Bytes) :
    data.field 2 2 = Bytes.ofLittleEndian ((data.take 4).drop 2) := by
  rw [Bytes.field, List.drop_take]

theorem take?_encode {field : ExtraField} (bounded : field.Bounded) (rest : Bytes) :
    take? (field.encode ++ rest) = some (field, rest) := by
  have id : Bytes.ofLittleEndian (Bytes.littleEndian 2 field.id) = field.id :=
    Bytes.ofLittleEndian_littleEndian_of_lt bounded.id_lt
  have length : Bytes.ofLittleEndian (Bytes.littleEndian 2 field.body.length) = field.body.length :=
    Bytes.ofLittleEndian_littleEndian_of_lt bounded.length_lt
  have header : (field.encode ++ rest).take 4
      = Bytes.littleEndian 2 field.id ++ Bytes.littleEndian 2 field.body.length := by
    rw [encode, List.append_assoc]
    exact List.take_left' (by simp [Bytes.length_littleEndian])
  have behind : (field.encode ++ rest).drop 4 = field.body ++ rest := by
    rw [encode, List.append_assoc]
    exact List.drop_left' (by simp [Bytes.length_littleEndian])
  have second : (Bytes.littleEndian 2 field.id ++ Bytes.littleEndian 2 field.body.length).drop 2
      = Bytes.littleEndian 2 field.body.length := List.drop_left' (Bytes.length_littleEndian 2 _)
  have first : (Bytes.littleEndian 2 field.id ++ Bytes.littleEndian 2 field.body.length).take 2
      = Bytes.littleEndian 2 field.id := List.take_left' (Bytes.length_littleEndian 2 _)
  simp only [take?, header, behind, second, first, length, id, List.take_left, List.drop_left]
  simp [Bytes.length_littleEndian]

theorem bounded_of_take? {data rest : Bytes} {field : ExtraField}
    (taken : take? data = some (field, rest)) : field.Bounded := by
  simp only [take?] at taken
  split at taken
  · next complete =>
    cases taken
    have wide (bytes : Bytes) (size : bytes.length ≤ 2) : Bytes.ofLittleEndian bytes < 0x10000 :=
      Nat.lt_of_lt_of_le (Bytes.ofLittleEndian_lt bytes) (Bytes.capacity_mono size)
    obtain ⟨four, length⟩ := complete
    refine ⟨wide _ (List.length_take_le _ _), ?_⟩
    rw [length]
    exact wide _ (by rw [List.length_drop]; omega)
  · cases taken

theorem eq_encode_of_take? {data rest : Bytes} {field : ExtraField}
    (taken : take? data = some (field, rest)) : data = field.encode ++ rest := by
  simp only [take?] at taken
  split at taken
  · next complete =>
    cases taken
    obtain ⟨four, length⟩ := complete
    -- Two bytes spell the identifier and two the length, so writing both gives the header back.
    have spelled (bytes : Bytes) (size : bytes.length = 2) :
        Bytes.littleEndian 2 (Bytes.ofLittleEndian bytes) = bytes := by
      rw [← size]
      exact Bytes.littleEndian_ofLittleEndian bytes
    have first := spelled ((data.take 4).take 2) (by simp only [List.length_take] at four ⊢; omega)
    have second := spelled ((data.take 4).drop 2) (by rw [List.length_drop, four])
    rw [encode, length, first, second, List.take_append_drop, List.append_assoc, List.take_append_drop,
      List.take_append_drop]
  · cases taken

theorem take?_eq_none_iff {data : Bytes} : take? data = none ↔ Incomplete data := by
  have announced := field_eq_drop_take data
  simp only [take?, Incomplete, announced]
  split
  · next complete =>
    obtain ⟨four, length⟩ := complete
    simp only [List.length_take, List.length_drop] at four length
    simp only [reduceCtorEq, false_iff]
    omega
  · next incomplete =>
    simp only [List.length_take, List.length_drop] at incomplete
    simp only [true_iff]
    omega

theorem parse_of_splits {data tail : Bytes} {fields : List ExtraField}
    (splits : Splits data fields tail) : parse data = (fields, tail) := by
  obtain ⟨rfl, bounded, incomplete⟩ := splits
  induction fields with
  | nil =>
    rw [List.flatMap_nil, List.nil_append, parse.eq_def]
    split
    · rfl
    · next found =>
      rw [take?_eq_none_iff.mpr incomplete] at found
      cases found
  | cons field rest ih =>
    rw [List.forall_mem_cons] at bounded
    have taken := take?_encode bounded.1 (rest.flatMap encode ++ tail)
    rw [List.flatMap_cons, List.append_assoc, parse.eq_def]
    split
    · next missing =>
      rw [taken] at missing
      cases missing
    · next found =>
      rw [taken] at found
      cases found
      rw [ih bounded.2]

theorem splits_parse (data : Bytes) : Splits data (parse data).1 (parse data).2 := by
  fun_induction parse data with
  | case1 data missing => exact ⟨rfl, by simp, take?_eq_none_iff.mp missing⟩
  | case2 data field rest taken fields tail more ih =>
    rw [more] at ih
    obtain ⟨parts, bounded, incomplete⟩ := ih
    refine ⟨?_, List.forall_mem_cons.mpr ⟨bounded_of_take? taken, bounded⟩, incomplete⟩
    rw [eq_encode_of_take? taken, List.flatMap_cons, List.append_assoc, ← parts]

theorem Splits.unique {data tail rest : Bytes} {fields others : List ExtraField}
    (splits : Splits data fields tail) (again : Splits data others rest) :
    others = fields ∧ rest = tail := by
  have same := (parse_of_splits again).symm.trans (parse_of_splits splits)
  cases same
  exact ⟨rfl, rfl⟩

/-! ## Fields that are given -/

variable {add : List ExtraField → ExtraField → Option (List ExtraField)}

/-- What is made of fields that are given one after another to an entry that has some already. Each is
`kept`, or it is refused and changes nothing. -/
inductive Gives (add : List ExtraField → ExtraField → Option (List ExtraField)) :
    (given fields kept : List ExtraField) → (refused : List Nat) → Prop
  | done {given : List ExtraField} : Gives add given [] [] []
  | taken {given fields kept : List ExtraField} {refused : List Nat} {field : ExtraField}
      (accepts : add given field = some (given ++ [field]))
      (rest : Gives add (given ++ [field]) fields kept refused) :
      Gives add given (field :: fields) (field :: kept) refused
  | refused {given fields kept : List ExtraField} {refused : List Nat} {field : ExtraField}
      (refuses : add given field = none) (rest : Gives add given fields kept refused) :
      Gives add given (field :: fields) kept (field.id :: refused)

/-- A field is put behind those that were given, or refused. -/
def Appends (add : List ExtraField → ExtraField → Option (List ExtraField)) : Prop :=
  ∀ given field, add given field = some (given ++ [field]) ∨ add given field = none

theorem exists_gives (appends : Appends add) (given fields : List ExtraField) :
    ∃ kept refused, Gives add given fields kept refused := by
  induction fields generalizing given with
  | nil => exact ⟨[], [], .done⟩
  | cons field rest ih =>
    rcases appends given field with accepts | refuses
    · obtain ⟨kept, refused, gives⟩ := ih (given ++ [field])
      exact ⟨field :: kept, refused, .taken accepts gives⟩
    · obtain ⟨kept, refused, gives⟩ := ih given
      exact ⟨kept, field.id :: refused, .refused refuses gives⟩

theorem carry_cons {field : ExtraField} (bounded : field.Bounded) (given : List ExtraField)
    (rest : Bytes) :
    carry add given (field.encode ++ rest) =
      if field.id ∈ ofWriter then carry add given rest
      else
        match add given field with
        | some candidate => carry add candidate rest
        | none => ((carry add given rest).1, field.id :: (carry add given rest).2) := by
  have taken := take?_encode bounded rest
  rw [carry.eq_def]
  split
  · next missing =>
    rw [taken] at missing
    cases missing
  · next found =>
    rw [taken] at found
    cases found
    rfl

/-- Going through extra data gives the fields that are not of the writer, in order. -/
theorem carry_eq {data tail : Bytes} {given fields kept : List ExtraField} {refused : List Nat}
    (splits : Splits data fields tail)
    (gives : Gives add given (fields.filter (·.id ∉ ofWriter)) kept refused) :
    carry add given data = (given ++ kept, refused) := by
  obtain ⟨rfl, bounded, incomplete⟩ := splits
  induction fields generalizing given kept refused with
  | nil =>
    cases gives
    rw [List.flatMap_nil, List.nil_append, List.append_nil, carry.eq_def]
    split
    · rfl
    · next found =>
      rw [take?_eq_none_iff.mpr incomplete] at found
      cases found
  | cons field rest ih =>
    rw [List.forall_mem_cons] at bounded
    rw [List.flatMap_cons, List.append_assoc, carry_cons bounded.1]
    by_cases own : field.id ∈ ofWriter
    · rw [List.filter_cons_of_neg (by simpa using own)] at gives
      rw [if_pos own]
      exact ih gives bounded.2
    · rw [List.filter_cons_of_pos (by simpa using own)] at gives
      rw [if_neg own]
      cases gives with
      | taken accepts later =>
        have carried := ih later bounded.2
        rw [List.append_assoc] at carried
        simp only [accepts]
        exact carried
      | refused refuses later =>
        simp only [refuses, ih later bounded.2]

/-- Whoever takes the fields one after another, each at the end or not at all, is given those of the data
that are not of the writer. -/
theorem exists_carry_eq (appends : Appends add) {data tail : Bytes} {fields : List ExtraField}
    (splits : Splits data fields tail) :
    ∃ kept refused, Gives add [] (fields.filter (·.id ∉ ofWriter)) kept refused ∧
      carry add [] data = (kept, refused) := by
  obtain ⟨kept, refused, gives⟩ := exists_gives appends [] (fields.filter (·.id ∉ ofWriter))
  exact ⟨kept, refused, gives, carry_eq splits gives⟩

end ExtraField

namespace Entry

open ExtraField

theorem appends_giveField : Appends giveField := by
  intro given field
  unfold giveField
  split
  · exact .inl rfl
  · exact .inr rfl

theorem gives_giveField (given fields : List ExtraField) :
    Gives giveField given fields (fields.filter acceptsField)
      ((fields.filter fun field => !acceptsField field).map (·.id)) := by
  induction fields generalizing given with
  | nil => exact .done
  | cons field rest ih =>
    by_cases accepted : acceptsField field = true
    · rw [List.filter_cons_of_pos accepted, List.filter_cons_of_neg (by simpa using accepted)]
      exact .taken (if_pos accepted) (ih _)
    · rw [List.filter_cons_of_neg accepted, List.filter_cons_of_pos (by simpa using accepted),
        List.map_cons]
      exact .refused (if_neg accepted) (ih given)

/-- New content keeps the complete fields that are not of the writer and can be given. -/
theorem keptFields_eq {entry : Entry} {fields : List ExtraField} {tail : Bytes}
    (splits : Splits entry.extra fields tail) :
    entry.keptFields.1
      = fields.filter fun field => field.id ∉ ofWriter ∧ acceptsField field = true := by
  rw [keptFields, carry_eq splits (gives_giveField [] _), List.nil_append, List.filter_filter]
  simp only [Bool.decide_and, Bool.decide_eq_true, Bool.and_comm]

end Entry

end Unannotate
