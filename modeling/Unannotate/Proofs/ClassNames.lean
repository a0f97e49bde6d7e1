import Unannotate.Descriptor
import Unannotate.Proofs.Marks

/-!
# Class names of descriptors

The name of an annotation is read from the front of its descriptor: whatever stands between `L` and the
first semicolon is the name, and what follows is not looked at. Among descriptors that are one class type
and nothing else a name belongs to one descriptor only. A text that is accepted need not be one of them,
and then it can have the name of another type.
-/
set_option autoImplicit false

namespace Unannotate

/-! ## One class type and nothing else -/

/-- What may stand between the slashes of a class name. -/
def IsNameSegment (segment : List Char) : Prop :=
  segment ≠ [] ∧ ∀ letter ∈ segment, letter ∉ ['.', ';', '[', '/']

/-- `L`, segments with slashes between them, and a semicolon as the last character. -/
def IsClassDescriptor (text : List Char) : Prop :=
  ∃ segments, segments ≠ [] ∧ (∀ segment ∈ segments, IsNameSegment segment) ∧
    text = 'L' :: ['/'].intercalate segments ++ [';']

/-- A segment is evaluated letter by letter. -/
theorem isNameSegment_iff {segment : List Char} : IsNameSegment segment ↔
    segment ≠ [] ∧ segment.all (fun letter => letter ∉ ['.', ';', '[', '/']) = true := by
  simp [IsNameSegment]

section Segments

variable {segments : List (List Char)}

/-- Neither dots nor semicolons stand in the name of a class descriptor. -/
theorem plain_of_segments (named : ∀ segment ∈ segments, IsNameSegment segment) {letter : Char}
    (excluded : letter = '.' ∨ letter = ';') : letter ∉ ['/'].intercalate segments := by
  intro member
  obtain isSlash | ⟨segment, held, inSegment⟩ := mem_intercalate member
  · obtain rfl | rfl := excluded <;> exact absurd isSlash (by decide)
  · have allowed := (named segment held).2 letter inSegment
    obtain rfl | rfl := excluded <;> exact absurd allowed (by decide)

/-- A name has one reading as segments. -/
theorem splitOn_segments (nonempty : segments ≠ [])
    (named : ∀ segment ∈ segments, IsNameSegment segment) :
    (['/'].intercalate segments).splitOn '/' = segments := by
  apply List.splitOn_intercalate '/' _ nonempty
  intro segment held slash
  exact absurd ((named segment held).2 '/' slash) (by decide)

end Segments

/-! ## Reading a name -/

theorem TypeDescriptor.map_array_ne_object {dimensions : Nat} {internal : List Char}
    (found : Except DescriptorFault TypeDescriptor) :
    found.map (array dimensions) ≠ .ok (.object internal) := by
  cases found <;> simp [Except.map]

/-- An object type is read exactly from `L`, its name and a semicolon. -/
theorem TypeDescriptor.read_eq_object_iff {text internal : List Char} :
    read text = .ok (.object internal) ↔
      ∃ rest, text = 'L' :: internal ++ ';' :: rest ∧ ';' ∉ internal := by
  constructor
  · intro success
    unfold read at success
    dsimp only at success
    split at success
    · unfold readItem at success
      split at success
      · cases success
      · cases success
      · next rest =>
        split at success
        · next closed =>
          cases success
          obtain ⟨before, behind, rfl, plain⟩ := List.eq_append_cons_of_mem closed
          rw [takeWhile_ne_append plain]
          exact ⟨behind, rfl, plain⟩
        · cases success
      · cases success
      · split at success <;> cases success
    · -- With dimensions in front the type is an array, whatever stands behind them.
      split at success
      · cases success
      · split at success
        · cases success
        · exact absurd success (map_array_ne_object _)
  · rintro ⟨rest, rfl, plain⟩
    have flat : (('L' :: internal ++ ';' :: rest).takeWhile (· = '[')).length = 0 := by
      simp
    rw [read, flat, if_pos rfl, List.cons_append, readItem, if_pos (by simp),
      takeWhile_ne_append plain]

/-- A name is read exactly from `L`, the name with slashes and a semicolon, whatever follows. -/
theorem annotationClassName_eq_ok_iff {descriptor name : String} :
    annotationClassName descriptor = .ok name ↔ ∃ internal rest,
      descriptor.toList = 'L' :: internal ++ ';' :: rest ∧ ';' ∉ internal ∧ name = dotted internal := by
  constructor
  · intro success
    unfold annotationClassName at success
    split at success
    · cases success
    · next internal isObject =>
      cases success
      obtain ⟨rest, same, plain⟩ := TypeDescriptor.read_eq_object_iff.mp isObject
      exact ⟨internal, rest, same, plain, rfl⟩
    · cases success
  · rintro ⟨internal, rest, same, plain, rfl⟩
    rw [annotationClassName, TypeDescriptor.read_eq_object_iff.mpr ⟨rest, same, plain⟩]

/-! ## Names and descriptors -/

/-- Dots in place of slashes lead back to one name only when there was no dot before. -/
theorem dotted_inj {internal other : List Char} (plain : '.' ∉ internal) (plain' : '.' ∉ other)
    (same : dotted internal = dotted other) : internal = other := by
  have letters := String.ofList_injective same
  have undotted (text : List Char) (plain : '.' ∉ text) :
      (text.map fun letter => if letter = '/' then '.' else letter).map
        (fun letter => if letter = '.' then '/' else letter) = text := by
    rw [List.map_map]
    refine (List.map_congr_left ?_).trans (List.map_id text)
    intro letter member
    have noDot : letter ≠ '.' := fun equal => plain (equal ▸ member)
    by_cases slash : letter = '/'
    · simp [slash]
    · simp [slash, noDot]
  rw [← undotted internal plain, letters, undotted other plain']

/-- The name of a class descriptor is what stands between `L` and the semicolon, with dots. -/
theorem annotationClassName_of_isClassDescriptor {descriptor : String}
    (isClass : IsClassDescriptor descriptor.toList) :
    ∃ internal, descriptor.toList = 'L' :: internal ++ [';'] ∧ '.' ∉ internal ∧
      annotationClassName descriptor = .ok (dotted internal) := by
  obtain ⟨segments, -, named, same⟩ := isClass
  have accepted : annotationClassName descriptor = .ok (dotted (['/'].intercalate segments)) :=
    annotationClassName_eq_ok_iff.mpr ⟨_, [], same, plain_of_segments named (.inr rfl), rfl⟩
  exact ⟨_, same, plain_of_segments named (.inl rfl), accepted⟩

/-- What is read is a class descriptor when nothing follows it and the segments of its name are ones. -/
theorem isClassDescriptor_iff {internal rest : List Char} (plain : ';' ∉ internal) :
    IsClassDescriptor ('L' :: internal ++ ';' :: rest) ↔
      rest = [] ∧ ∀ segment ∈ internal.splitOn '/', IsNameSegment segment := by
  constructor
  · rintro ⟨segments, nonempty, named, same⟩
    obtain ⟨rfl, rfl⟩ := eq_of_append_mark plain (plain_of_segments named (.inr rfl))
      (List.cons.inj same).2
    refine ⟨rfl, ?_⟩
    rw [splitOn_segments nonempty named]
    exact named
  · rintro ⟨rfl, named⟩
    refine ⟨internal.splitOn '/', List.splitOn_ne_nil _ _, named, ?_⟩
    rw [List.intercalate_splitOn]

/-- Names are equal when the descriptors agree in front of the semicolon, up to dots and slashes. -/
theorem name_eq_iff {descriptor other name name' : String}
    (named : annotationClassName descriptor = .ok name)
    (named' : annotationClassName other = .ok name') :
    name = name' ↔
      dotted (descriptor.toList.takeWhile (· ≠ ';')) = dotted (other.toList.takeWhile (· ≠ ';')) := by
  have front {descriptor name : String} (named : annotationClassName descriptor = .ok name) :
      dotted (descriptor.toList.takeWhile (· ≠ ';')) = String.ofList ('L' :: name.toList) := by
    obtain ⟨internal, rest, same, plain, rfl⟩ := annotationClassName_eq_ok_iff.mp named
    rw [same, takeWhile_ne_append (by simpa using plain)]
    simp [dotted]
  rw [front named, front named']
  constructor
  · rintro rfl
    rfl
  · intro same
    exact String.toList_inj.mp (List.cons.inj (String.ofList_injective same)).2

/-- Class descriptors that have one name are one descriptor. -/
theorem eq_of_name_eq {descriptor other name : String} (isClass : IsClassDescriptor descriptor.toList)
    (isClass' : IsClassDescriptor other.toList) (named : annotationClassName descriptor = .ok name)
    (named' : annotationClassName other = .ok name) : descriptor = other := by
  obtain ⟨internal, same, plain, accepted⟩ := annotationClassName_of_isClassDescriptor isClass
  obtain ⟨internal', same', plain', accepted'⟩ := annotationClassName_of_isClassDescriptor isClass'
  rw [accepted] at named
  rw [accepted'] at named'
  have names : dotted internal = dotted internal' := Except.ok.inj (named.trans named'.symm)
  apply String.toList_inj.mp
  rw [same, same', dotted_inj plain plain' names]

/-- A descriptor is accepted for its front, and its name says no more than the front does. Acceptance
stands for a class descriptor exactly when no text `L…;` with more behind the first semicolon, or without
proper segments in front of it, is given. Class descriptors are all accepted, and equal names are names of
one of them. -/
theorem classNames_read_from_front (descriptor : String) :
    ((∀ name, annotationClassName descriptor = .ok name → IsClassDescriptor descriptor.toList) ↔
      ∀ internal rest, descriptor.toList = 'L' :: internal ++ ';' :: rest → ';' ∉ internal →
        rest = [] ∧ ∀ segment ∈ internal.splitOn '/', IsNameSegment segment) ∧
    (∀ name, annotationClassName descriptor = .ok name ↔ ∃ internal rest,
      descriptor.toList = 'L' :: internal ++ ';' :: rest ∧ ';' ∉ internal ∧ name = dotted internal) ∧
    (IsClassDescriptor descriptor.toList → ∃ internal,
      descriptor.toList = 'L' :: internal ++ [';'] ∧
        annotationClassName descriptor = .ok (dotted internal)) ∧
    ∀ other name name', annotationClassName descriptor = .ok name →
      annotationClassName other = .ok name' →
      (name = name' ↔ dotted (descriptor.toList.takeWhile (· ≠ ';'))
        = dotted (other.toList.takeWhile (· ≠ ';'))) ∧
      (IsClassDescriptor descriptor.toList → IsClassDescriptor other.toList → name = name' →
        descriptor = other) := by
  refine ⟨⟨?_, ?_⟩, fun name => annotationClassName_eq_ok_iff, ?_, ?_⟩
  · intro proper internal rest same plain
    have isClass := proper _ (annotationClassName_eq_ok_iff.mpr ⟨internal, rest, same, plain, rfl⟩)
    rw [same] at isClass
    exact (isClassDescriptor_iff plain).mp isClass
  · intro proper name named
    obtain ⟨internal, rest, same, plain, -⟩ := annotationClassName_eq_ok_iff.mp named
    rw [same]
    exact (isClassDescriptor_iff plain).mpr (proper internal rest same plain)
  · intro isClass
    obtain ⟨internal, same, -, accepted⟩ := annotationClassName_of_isClassDescriptor isClass
    exact ⟨internal, same, accepted⟩
  · intro other name name' named named'
    refine ⟨name_eq_iff named named', ?_⟩
    intro isClass isClass' equal
    subst equal
    exact eq_of_name_eq isClass isClass' named named'

theorem isClassDescriptor_anno : IsClassDescriptor "Lcom/example/Anno;".toList := by
  refine ⟨["com".toList, "example".toList, "Anno".toList], by simp, ?_, by simp [List.intercalate]⟩
  simp only [isNameSegment_iff]
  decide

theorem annotationClassName_anno : annotationClassName "Lcom/example/Anno;" = .ok "com.example.Anno" :=
  annotationClassName_eq_ok_iff.mpr ⟨"com/example/Anno".toList, [], by simp, by simp, by simp [dotted]⟩

/-- The descriptor of a class in a package, and no other class descriptor, has the name of the class. -/
theorem classNames_read_from_front_anno :
    IsClassDescriptor "Lcom/example/Anno;".toList ∧
      annotationClassName "Lcom/example/Anno;" = .ok "com.example.Anno" ∧
      ∀ other, IsClassDescriptor other.toList → annotationClassName other = .ok "com.example.Anno" →
        other = "Lcom/example/Anno;" := by
  refine ⟨isClassDescriptor_anno, annotationClassName_anno, fun other isClass named => ?_⟩
  exact ((classNames_read_from_front other).2.2.2 _ _ _ named annotationClassName_anno).2 isClass
    isClassDescriptor_anno rfl

/-- What trails a class type or has dots in its name is accepted too, under the name of another type. -/
theorem descriptors_confused :
    annotationClassName "Lcom/example/Anno;x" = .ok "com.example.Anno" ∧
      ¬IsClassDescriptor "Lcom/example/Anno;x".toList ∧
      annotationClassName "Lcom.example.Anno;" = .ok "com.example.Anno" ∧
      ¬IsClassDescriptor "Lcom.example.Anno;".toList ∧
      annotationClassName "Lcom/example/Anno;" = .ok "com.example.Anno" := by
  have trailed : "Lcom/example/Anno;x".toList = 'L' :: "com/example/Anno".toList ++ ';' :: ['x'] := by
    simp
  have dots : "Lcom.example.Anno;".toList = 'L' :: "com.example.Anno".toList ++ ';' :: [] := by
    simp
  refine ⟨?_, ?_, ?_, ?_, annotationClassName_anno⟩
  · exact annotationClassName_eq_ok_iff.mpr ⟨_, _, trailed, by simp, by simp [dotted]⟩
  · rw [trailed, isClassDescriptor_iff (by simp)]
    simp
  · exact annotationClassName_eq_ok_iff.mpr ⟨_, _, dots, by simp, by simp [dotted]⟩
  · rw [dots, isClassDescriptor_iff (by simp)]
    simp only [isNameSegment_iff]
    decide

end Unannotate
