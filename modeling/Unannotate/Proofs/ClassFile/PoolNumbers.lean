import Unannotate.Proofs.ClassFile.ConstantPool

/-!
# Constants have the numbers that the file gives them

The constants of a pool that was read follow each other without a gap: each has the number behind those
that the constants in front of it take, a wide one keeps the next number from every other, and the last
number taken is the last one that the pool announces. Looking up a number therefore finds exactly the
constant of that number, and nothing at 0, at the second number of a wide constant or behind the last one.
-/
set_option autoImplicit false

namespace Unannotate

theorem Constant.length_slots (constant : Constant) : constant.slots.length = constant.width := by
  rw [slots, width]
  split <;> rfl

theorem Constant.width_pos (constant : Constant) : 0 < constant.width := by
  rw [width]
  split <;> decide

/-- The first number of a constant leads to it, and a second one nowhere. -/
theorem Constant.slots_getElem? (constant : Constant) {shift : Nat} (narrow : shift < constant.width) :
    constant.slots[shift]? = some (if shift = 0 then some constant else none) := by
  cases shift with
  | zero => rfl
  | succ shift =>
    rw [slots, List.getElem?_cons_succ, List.getElem?_replicate, if_pos (by omega)]
    rfl

namespace ConstantPool

open Reader

/-! ## The numbers that constants take -/

section Numbers

variable {constants : List Constant} {position number : Nat} {constant : Constant}

/-- The number of the constant at a position in the file, counted from zero. -/
def numberAt (constants : List Constant) (position : Nat) : Nat :=
  1 + numbers (constants.take position)

theorem length_flatMap_slots (constants : List Constant) :
    (constants.flatMap Constant.slots).length = numbers constants := by
  induction constants with
  | nil => rfl
  | cons first rest ih =>
    rw [List.flatMap_cons, List.length_append, ih, Constant.length_slots, numbers_cons]

/-- Behind the numbers that other constants take, the table goes on with those of the next constant. -/
theorem flatMap_slots_getElem? (found : constants[position]? = some constant) {shift : Nat}
    (narrow : shift < constant.width) :
    (constants.flatMap Constant.slots)[numbers (constants.take position) + shift]?
      = constant.slots[shift]? := by
  induction constants generalizing position with
  | nil => simp at found
  | cons first rest ih =>
    cases position with
    | zero =>
      obtain rfl : first = constant := by simpa using found
      rw [List.take_zero, numbers, Nat.zero_add, List.flatMap_cons,
        List.getElem?_append_left (by rwa [Constant.length_slots])]
    | succ position =>
      have behind : first.slots.length
          ≤ numbers ((first :: rest).take (position + 1)) + shift := by
        rw [List.take_succ_cons, numbers_cons, Constant.length_slots]
        omega
      rw [List.flatMap_cons, List.getElem?_append_right behind, List.take_succ_cons, numbers_cons,
        Constant.length_slots, Nat.add_assoc, Nat.add_sub_cancel_left]
      exact ih (by simpa using found)

/-- Each number below the total is one of some constant. -/
theorem exists_constant_of_lt (below : number < numbers constants) :
    ∃ position constant shift, constants[position]? = some constant ∧ shift < constant.width ∧
      number = numbers (constants.take position) + shift := by
  induction constants generalizing number with
  | nil => simp [numbers] at below
  | cons first rest ih =>
    by_cases own : number < first.width
    · exact ⟨0, first, number, rfl, own, by simp [numbers]⟩
    · have left : number - first.width < numbers rest := by
        rw [numbers_cons] at below
        omega
      obtain ⟨position, constant, shift, found, narrow, same⟩ := ih left
      refine ⟨position + 1, constant, shift, by simpa using found, narrow, ?_⟩
      rw [List.take_succ_cons, numbers_cons]
      omega

end Numbers

/-! ## Looking up numbers -/

section LookUp

variable (pool : ConstantPool) {position : Nat} {constant : Constant}

theorem size_slots : pool.slots.size = 1 + numbers pool.constants := by
  rw [pool.slots_eq, List.size_toArray, List.length_cons, length_flatMap_slots, Nat.add_comm]

theorem slots_zero : pool.slots[0]? = some none := by
  rw [pool.slots_eq, List.getElem?_toArray]
  rfl

variable {pool}

theorem slots_numberAt (found : pool.constants[position]? = some constant) {shift : Nat}
    (narrow : shift < constant.width) :
    pool.slots[numberAt pool.constants position + shift]?
      = some (if shift = 0 then some constant else none) := by
  have above : numberAt pool.constants position + shift
      = numbers (pool.constants.take position) + shift + 1 := by
    rw [numberAt]
    omega
  rw [pool.slots_eq, List.getElem?_toArray, above, List.getElem?_cons_succ,
    flatMap_slots_getElem? found narrow, constant.slots_getElem? narrow]

theorem constant?_eq_some_iff {index : UInt16} :
    pool.constant? index = some constant ↔ ∃ position,
      pool.constants[position]? = some constant ∧ index.toNat = numberAt pool.constants position := by
  rw [constant?, Option.join_eq_some_iff]
  constructor
  · intro found
    have inside : index.toNat < 1 + numbers pool.constants := by
      rw [← pool.size_slots]
      exact (Array.getElem?_eq_some_iff.mp found).1
    have positive : index.toNat ≠ 0 := by
      intro zero
      rw [zero, pool.slots_zero] at found
      cases found
    have below : index.toNat - 1 < numbers pool.constants := by
      omega
    obtain ⟨position, holder, shift, held, narrow, same⟩ := exists_constant_of_lt below
    have number : index.toNat = numberAt pool.constants position + shift := by
      rw [numberAt]
      omega
    rw [number, slots_numberAt held narrow] at found
    -- A second number holds nothing, so this is the first number of its constant.
    by_cases first : shift = 0
    · rw [if_pos first] at found
      cases found
      exact ⟨position, held, by omega⟩
    · rw [if_neg first] at found
      cases found
  · rintro ⟨position, found, number⟩
    rw [number]
    exact slots_numberAt found constant.width_pos

theorem text_eq_ok_iff {index : UInt16} {value : String} :
    pool.text index = .ok value ↔ ∃ position encoded,
      pool.constants[position]? = some (.text encoded) ∧
      index.toNat = numberAt pool.constants position ∧ ModifiedUtf8.decode encoded = .ok value := by
  constructor
  · intro looked
    unfold text at looked
    split at looked
    · next encoded found =>
      obtain ⟨position, held, number⟩ := constant?_eq_some_iff.mp found
      exact ⟨position, encoded, held, number, looked⟩
    · cases looked
  · rintro ⟨position, encoded, held, number, decoded⟩
    rw [text, constant?_eq_some_iff.mpr ⟨position, held, number⟩]
    exact decoded

theorem className_eq_ok_iff {index : UInt16} {value : String} :
    pool.className index = .ok value ↔ ∃ position name,
      pool.constants[position]? = some (.classRef name) ∧
      index.toNat = numberAt pool.constants position ∧ pool.text name = .ok value := by
  constructor
  · intro looked
    unfold className at looked
    split at looked
    · next name found =>
      obtain ⟨position, held, number⟩ := constant?_eq_some_iff.mp found
      exact ⟨position, name, held, number, looked⟩
    · cases looked
  · rintro ⟨position, name, held, number, named⟩
    rw [className, constant?_eq_some_iff.mpr ⟨position, held, number⟩]
    exact named

theorem not_found_of_constant?_eq_none {index : UInt16} (absent : pool.constant? index = none) :
    pool.text index = .error (.notText index.toNat) ∧
      pool.className index = .error (.notClass index.toNat) := by
  rw [text, className, absent]
  exact ⟨rfl, rfl⟩

end LookUp

/-! ## Pools that were read -/

/-- The numbers of a pool lead to its constants in order, and no number leads anywhere else. -/
structure Numbered (pool : ConstantPool) : Prop where
  size : pool.slots.size = max pool.count.toNat 1
  /-- A constant is found at the number behind those that the constants in front of it take. -/
  place : ∀ position constant, pool.constants[position]? = some constant →
    pool.slots[numberAt pool.constants position]? = some (some constant)
  text_iff : ∀ index value, pool.text index = .ok value ↔ ∃ position encoded,
    pool.constants[position]? = some (.text encoded) ∧
    index.toNat = numberAt pool.constants position ∧ ModifiedUtf8.decode encoded = .ok value
  /-- No text of the pool is beyond decoding. -/
  decoded : ∀ encoded, .text encoded ∈ pool.constants →
    ∃ value, ModifiedUtf8.decode encoded = .ok value
  className_iff : ∀ index value, pool.className index = .ok value ↔ ∃ position name,
    pool.constants[position]? = some (.classRef name) ∧
    index.toNat = numberAt pool.constants position ∧ pool.text name = .ok value
  /-- Number 0, second numbers and numbers that the pool does not announce. -/
  nowhere : ∀ index : UInt16,
    (index = 0 ∨ pool.count ≤ index ∨ ∃ position constant,
      pool.constants[position]? = some constant ∧ Constant.isWide constant.tag ∧
      index.toNat = numberAt pool.constants position + 1) →
    pool.text index = .error (.notText index.toNat) ∧
      pool.className index = .error (.notClass index.toNat)

theorem Fits.size_slots {pool : ConstantPool} (fits : pool.Fits) :
    pool.slots.size = max pool.count.toNat 1 := by
  rw [pool.size_slots, fits.1]
  omega

theorem Fits.numbered {pool : ConstantPool} (fits : pool.Fits) : pool.Numbered where
  size := fits.size_slots
  place position constant found := slots_numberAt found constant.width_pos
  text_iff index value := text_eq_ok_iff
  decoded encoded member := (fits.2 (.text encoded) member).2
  className_iff index value := className_eq_ok_iff
  nowhere index outside := by
    apply not_found_of_constant?_eq_none
    rw [constant?]
    obtain rfl | behind | ⟨position, constant, found, wide, number⟩ := outside
    · rw [show (0 : UInt16).toNat = 0 from rfl, pool.slots_zero]
      rfl
    · -- Without constants the table still has number 0.
      have beyond : pool.count.toNat ≤ index.toNat := UInt16.le_iff_toNat_le.mp behind
      by_cases zero : index.toNat = 0
      · rw [zero, pool.slots_zero]
        rfl
      · rw [Array.getElem?_eq_none (by rw [fits.size_slots]; omega)]
        rfl
    · rw [number, slots_numberAt found (by rw [constant.width_eq, if_pos wide]; decide)]
      rfl

/-- A pool that is read stands in the file as its count and its constants, and each constant has the
number that its place among them gives it. -/
theorem read_numbers_constants (cursor next : Cursor) (pool : ConstantPool)
    (success : read cursor = .ok (pool, next)) :
    cursor.rest = Bytes.ofUInt16 pool.count ++ pool.constants.flatMap Constant.encode ++ next.rest ∧
      next.since (cursor.offset + 2) = pool.constants.flatMap Constant.encode ∧
      pool.Numbered := by
  obtain ⟨front, ⟨fits, rfl⟩, passes⟩ := (accepts_read ..).mp success
  refine ⟨passes.1, ?_, fits.numbered⟩
  obtain ⟨middle, counted, constantsPassed⟩ := passes.split
  have start : middle.offset = cursor.offset + 2 := by
    rw [counted.offset_eq, Bytes.length_ofUInt16]
  rw [← start]
  exact constantsPassed.since_eq

/-- The text behind a wide constant has number 3, and the class behind it number 4. -/
theorem read_numbers_constants_wideFirst :
    ∃ next pool, read (.ofBytes [0, 5, 5, 0, 0, 0, 0, 0, 0, 0, 42, 1, 0, 1, 65, 7, 0, 3])
        = .ok (pool, next) ∧
      pool.Numbered ∧ pool.text 3 = .ok "A" ∧ pool.className 4 = .ok "A" ∧
      pool.text 2 = .error (.notText 2) := by
  let pool : ConstantPool := ofConstants 5 [.long 42, .text [65], .classRef 3]
  let next : Cursor := ⟨[3, 0, 7, 65, 1, 0, 1, 42, 0, 0, 0, 0, 0, 0, 0, 5, 5, 0], []⟩
  have success : read (.ofBytes [0, 5, 5, 0, 0, 0, 0, 0, 0, 0, 42, 1, 0, 1, 65, 7, 0, 3])
      = .ok (pool, next) := rfl
  obtain ⟨-, -, numbered⟩ := read_numbers_constants _ next pool success
  have second := numbered.nowhere 2 (.inr (.inr ⟨0, .long 42, rfl, by decide, rfl⟩))
  exact ⟨next, pool, success, numbered, rfl, rfl, second.1⟩

end ConstantPool

end Unannotate
