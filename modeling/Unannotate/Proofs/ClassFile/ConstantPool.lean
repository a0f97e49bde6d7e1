import Unannotate.ClassFile.ConstantPool
import Unannotate.Proofs.ClassFile.Reading

/-!
# The constant pool is read as it is written

The pool reader accepts exactly the encodings of pools whose constants take as many numbers as the pool
announces and whose texts can be decoded.
-/
set_option autoImplicit false

namespace Unannotate

namespace Constant

open Reader

/-- Text has a 16-bit length and has to be modified UTF-8; nothing else can be out of range. -/
def Fits : Constant → Prop
  | text encoded => encoded.length < 65536 ∧ ∃ value, ModifiedUtf8.decode encoded = .ok value
  | _ => True

theorem width_eq (constant : Constant) :
    constant.width = if isWide constant.tag then 2 else 1 := rfl

/-! ## One constant -/

theorem accepts_readText :
    Accepts readText fun constant front =>
      ∃ encoded, constant = text encoded ∧ (text encoded).Fits ∧ front = (text encoded).body := by
  have decoded (encoded : Bytes) (reader : Reader Constant)
      (returns : ∀ value, ModifiedUtf8.decode encoded = .ok value → reader = pure (text encoded))
      (fails : ∀ fault, ModifiedUtf8.decode encoded = .error fault → reader = Reader.fail fault) :
      reader.Accepts fun constant front => (constant = text encoded ∧ front = []) ∧
        ∃ value, ModifiedUtf8.decode encoded = .ok value := by
    cases attempt : ModifiedUtf8.decode encoded with
    | ok value =>
      rw [returns value attempt]
      exact (accepts_pure _).congr (by simp)
    | error fault =>
      rw [fails fault attempt]
      exact (accepts_fail fault).congr (by simp)
  refine (accepts_bind accepts_u16 fun length => accepts_bind (accepts_bytes length.toNat)
    fun encoded => decoded encoded _ ?_ ?_).congr ?_
  · intro value attempt
    rw [attempt]
  · intro fault attempt
    rw [attempt]
  intro constant front
  constructor
  · rintro ⟨length, _, _, rfl, ⟨_, encoded, _, ⟨width, rfl⟩, ⟨⟨rfl, rfl⟩, readable⟩, rfl⟩, rfl⟩
    refine ⟨encoded, rfl, ⟨?_, readable⟩, ?_⟩
    · rw [show encoded.length = length.toNat from width]
      exact length.toNat_lt
    · rw [body, show encoded.length = length.toNat from width, Bytes.ofUInt16]
      simp
  · rintro ⟨encoded, rfl, ⟨bound, readable⟩, rfl⟩
    have width : (UInt16.ofNat encoded.length).toNat = encoded.length :=
      UInt16.toNat_ofNat_of_lt bound
    refine ⟨UInt16.ofNat encoded.length, _, encoded, rfl,
      ⟨encoded, encoded, [], ⟨width.symm, rfl⟩, ⟨⟨rfl, rfl⟩, readable⟩, by simp⟩, ?_⟩
    rw [body, Bytes.ofUInt16, width]

/-- Three bytes are a kind and a 16-bit number. -/
theorem handle_eq (taken : Bytes) (width : taken.length = 3) :
    Bytes.ofUInt8 (UInt8.ofNat (Bytes.ofBigEndian taken / 65536))
      ++ Bytes.ofUInt16 (UInt16.ofNat (Bytes.ofBigEndian taken)) = taken := by
  have whole := Bytes.bigEndian_ofBigEndian taken
  rw [width, Bytes.bigEndian_add 1 2] at whole
  rw [Bytes.ofUInt8_ofNat, Bytes.ofUInt16_ofNat]
  exact whole

theorem accepts_readHandle :
    Accepts
      (do
        let handle := Bytes.ofBigEndian (← Reader.bytes 3)
        return methodHandle (UInt8.ofNat (handle / 65536)) (UInt16.ofNat handle))
      fun constant front =>
        ∃ kind target, constant = methodHandle kind target ∧
          front = Bytes.ofUInt8 kind ++ Bytes.ofUInt16 target := by
  refine (accepts_bind (accepts_bytes 3) fun taken => accepts_pure _).congr ?_
  intro constant front
  constructor
  · rintro ⟨_, taken, _, ⟨width, rfl⟩, ⟨rfl, rfl⟩, rfl⟩
    refine ⟨_, _, rfl, ?_⟩
    rw [handle_eq taken width, List.append_nil]
  · rintro ⟨kind, target, rfl, rfl⟩
    have width : (Bytes.ofUInt8 kind ++ Bytes.ofUInt16 target).length = 3 := by
      rw [List.length_append, Bytes.length_ofUInt16]
      rfl
    obtain ⟨sameKind, sameTarget⟩ := List.append_inj (handle_eq _ width) rfl
    refine ⟨_, _, [], ⟨width, rfl⟩, ⟨?_, rfl⟩, by simp⟩
    rw [List.singleton_inj.mp sameKind, Bytes.ofUInt16_inj sameTarget]

variable {γ : Type} {tag : UInt8} {index : Nat} {cursor next : Cursor} {constant : Constant}

theorem of_field {reader : Reader γ} {part : γ → Bytes} {make : γ → Constant}
    (accepts : reader.Accepts fun value front => front = part value)
    (read : (make <$> reader) cursor = .ok (constant, next))
    (form : ∀ value, (make value).tag = tag ∧ (make value).Fits ∧ (make value).body = part value) :
    constant.tag = tag ∧ constant.Fits ∧ cursor.Passes next constant.body := by
  obtain ⟨_, ⟨value, rfl, rfl⟩, passes⟩ := (accepts_map make accepts ..).mp read
  obtain ⟨known, fits, same⟩ := form value
  exact ⟨known, fits, same ▸ passes⟩

theorem of_pair {make : UInt16 → UInt16 → Constant}
    (read : pairOf make cursor = .ok (constant, next))
    (form : ∀ upper lower, (make upper lower).tag = tag ∧ (make upper lower).Fits ∧
      (make upper lower).body = Bytes.ofUInt16 upper ++ Bytes.ofUInt16 lower) :
    constant.tag = tag ∧ constant.Fits ∧ cursor.Passes next constant.body := by
  obtain ⟨_, ⟨upper, lower, rfl, rfl⟩, passes⟩ := (accepts_pair make ..).mp read
  obtain ⟨known, fits, same⟩ := form upper lower
  exact ⟨known, fits, same ▸ passes⟩

/-- A successful read leaves a constant that has the tag, and passes over its body. -/
theorem of_readBody (read : readBody tag index cursor = .ok (constant, next)) :
    constant.tag = tag ∧ constant.Fits ∧ cursor.Passes next constant.body := by
  have chosen : ∀ reader, readBody tag index = reader → reader cursor = .ok (constant, next) →
      constant.tag = tag ∧ constant.Fits ∧ cursor.Passes next constant.body := by
    intro reader chosen read
    unfold readBody at chosen
    split at chosen
    all_goals subst chosen
    case h_1 known =>
      obtain ⟨_, ⟨encoded, rfl, fits, rfl⟩, passes⟩ := (accepts_readText ..).mp read
      exact ⟨UInt8.toNat_inj.mp known.symm, fits, passes⟩
    case h_12 known =>
      obtain ⟨_, ⟨kind, target, rfl, rfl⟩, passes⟩ := (accepts_readHandle ..).mp read
      exact ⟨UInt8.toNat_inj.mp known.symm, trivial, passes⟩
    case h_18 => simp [Reader.fail] at read
    all_goals next known =>
      first
      | exact of_field accepts_u16 read fun _ => ⟨UInt8.toNat_inj.mp known.symm, trivial, rfl⟩
      | exact of_field accepts_u32 read fun _ => ⟨UInt8.toNat_inj.mp known.symm, trivial, rfl⟩
      | exact of_field accepts_u64 read fun _ => ⟨UInt8.toNat_inj.mp known.symm, trivial, rfl⟩
      | exact of_pair read fun _ _ => ⟨UInt8.toNat_inj.mp known.symm, trivial, rfl⟩
  exact chosen _ rfl read

/-- A constant is read exactly from its body, once its tag is known. -/
theorem accepts_readBody (tag : UInt8) (index : Nat) :
    Accepts (readBody tag index) fun constant front =>
      constant.tag = tag ∧ constant.Fits ∧ front = constant.body := by
  intro cursor constant next
  constructor
  · intro read
    obtain ⟨known, fits, passes⟩ := of_readBody read
    exact ⟨_, ⟨known, fits, rfl⟩, passes⟩
  · rintro ⟨_, ⟨rfl, fits, rfl⟩, passes⟩
    cases constant with
    | text encoded => exact (accepts_readText ..).mpr ⟨_, ⟨encoded, rfl, fits, rfl⟩, passes⟩
    | integer bits | float bits =>
      exact (accepts_map _ accepts_u32 ..).mpr ⟨_, ⟨bits, rfl, rfl⟩, passes⟩
    | long bits | double bits =>
      exact (accepts_map _ accepts_u64 ..).mpr ⟨_, ⟨bits, rfl, rfl⟩, passes⟩
    | classRef name | string name | methodType name | module name | package name =>
      exact (accepts_map _ accepts_u16 ..).mpr ⟨_, ⟨name, rfl, rfl⟩, passes⟩
    | fieldRef owner member | methodRef owner member | interfaceMethodRef owner member
    | nameAndType owner member | dynamic owner member | invokeDynamic owner member =>
      exact (accepts_pair _ ..).mpr ⟨_, ⟨owner, member, rfl, rfl⟩, passes⟩
    | methodHandle kind target =>
      exact (accepts_readHandle ..).mpr ⟨_, ⟨kind, target, rfl, rfl⟩, passes⟩

end Constant

namespace ConstantPool

open Reader

/-- How many numbers a list of constants takes. -/
def numbers : List Constant → Nat
  | [] => 0
  | constant :: others => constant.width + numbers others

/-- The constants take all numbers that the pool announces, and each of them can be read back. -/
def Fits (pool : ConstantPool) : Prop :=
  numbers pool.constants = pool.count.toNat - 1 ∧ ∀ constant ∈ pool.constants, constant.Fits

theorem ofConstants_eq (pool : ConstantPool) : ofConstants pool.count pool.constants = pool := by
  obtain ⟨count, constants, slots, slots_eq⟩ := pool
  subst slots_eq
  rfl

theorem numbers_cons (constant : Constant) (others : List Constant) :
    numbers (constant :: others) = constant.width + numbers others := rfl

theorem eq_nil_of_numbers_eq_zero {constants : List Constant} (none : numbers constants = 0) :
    constants = [] := by
  cases constants with
  | nil => rfl
  | cons constant others =>
    have positive : 0 < constant.width := by
      rw [Constant.width]
      split <;> decide
    rw [numbers_cons] at none
    omega

/-- Constants whose first has the tag and whose numbers are `remaining` many, written without that
tag. -/
def WrittenAfterTag (remaining : Nat) (tag : UInt8) (constants : List Constant) (front : Bytes) : Prop :=
  ∃ constant others, constants = constant :: others ∧ constant.tag = tag ∧
    numbers constants = remaining ∧ (∀ item ∈ constants, item.Fits) ∧
    front = constant.body ++ others.flatMap Constant.encode

theorem accepts_afterTag {left : Nat} {others : Reader (List Constant)} (tag : UInt8) (index : Nat)
    (accepts : others.Accepts
      (Written (fun constants => numbers constants = left ∧ ∀ constant ∈ constants, constant.Fits)
        fun constants => constants.flatMap Constant.encode)) :
    Accepts
      (do
        let constant ← Constant.readBody tag index
        let others ← others
        return constant :: others)
      (WrittenAfterTag (left + if Constant.isWide tag then 2 else 1) tag) := by
  refine (accepts_bind (Constant.accepts_readBody tag index) fun constant =>
    accepts_bind accepts fun others => accepts_pure (constant :: others)).congr ?_
  intro constants front
  constructor
  · rintro ⟨constant, _, _, ⟨known, fits, rfl⟩, ⟨others, _, _, ⟨⟨total, fitting⟩, rfl⟩, ⟨rfl, rfl⟩, rfl⟩,
      rfl⟩
    refine ⟨constant, others, rfl, known, ?_, List.forall_mem_cons.mpr ⟨fits, fitting⟩, ?_⟩
    · rw [numbers_cons, total, constant.width_eq, known, Nat.add_comm]
    · rw [List.append_nil]
  · rintro ⟨constant, others, rfl, known, total, fitting, rfl⟩
    obtain ⟨fits, othersFit⟩ := List.forall_mem_cons.mp fitting
    rw [numbers_cons, constant.width_eq, known, Nat.add_comm] at total
    refine ⟨constant, _, _, ⟨known, fits, rfl⟩,
      ⟨others, _, _, ⟨⟨Nat.add_right_cancel total, othersFit⟩, rfl⟩, ⟨rfl, rfl⟩, rfl⟩, ?_⟩
    rw [List.append_nil]

theorem accepts_readConstants (count : UInt16) (remaining index : Nat) :
    Accepts (readConstants count remaining index)
      (Written
        (fun constants => numbers constants = remaining ∧ ∀ constant ∈ constants, constant.Fits)
        fun constants => constants.flatMap Constant.encode) := by
  induction remaining using Nat.strongRecOn generalizing index with
  | ind remaining ih =>
    cases remaining with
    | zero =>
      rw [readConstants]
      refine (accepts_pure []).congr ?_
      intro constants front
      constructor
      · rintro ⟨rfl, rfl⟩
        exact ⟨⟨rfl, by simp⟩, rfl⟩
      · rintro ⟨⟨none, _⟩, rfl⟩
        rw [eq_nil_of_numbers_eq_zero none]
        exact ⟨rfl, rfl⟩
    | succ remaining =>
      rw [readConstants]
      refine (accepts_bind accepts_u8
        (?_ : ∀ tag, Accepts _ (WrittenAfterTag (remaining + 1) tag))).congr ?_
      · intro tag
        by_cases wide : Constant.isWide tag
        · rw [if_pos wide]
          cases remaining with
          | zero =>
            -- A wide constant needs two numbers, and one is left.
            refine (accepts_fail _).congr ?_
            rintro constants front
            refine ⟨False.elim, ?_⟩
            rintro ⟨constant, others, rfl, known, total, -, -⟩
            rw [numbers_cons, constant.width_eq, known, if_pos wide] at total
            omega
          | succ remaining =>
            have accepts := accepts_afterTag tag index (ih remaining (by omega) (index + 2))
            rw [if_pos wide] at accepts
            exact accepts
        · have accepts := accepts_afterTag tag index (ih remaining (by omega) (index + 1))
          rw [if_neg wide] at accepts ⊢
          exact accepts
      · intro constants front
        constructor
        · rintro ⟨tag, _, _, rfl, ⟨constant, others, rfl, rfl, total, fitting, rfl⟩, rfl⟩
          exact ⟨⟨total, fitting⟩, rfl⟩
        · rintro ⟨⟨total, fitting⟩, rfl⟩
          cases constants with
          | nil => simp [numbers] at total
          | cons constant others =>
            exact ⟨constant.tag, _, _, rfl, ⟨constant, others, rfl, rfl, total, fitting, rfl⟩, rfl⟩

theorem accepts_read : Accepts read (Written Fits encode) := by
  refine (accepts_bind accepts_u16 fun count =>
    accepts_bind (accepts_readConstants count (count.toNat - 1) 1) fun constants =>
      accepts_pure _).congr ?_
  intro pool front
  constructor
  · rintro ⟨count, _, _, rfl, ⟨constants, _, _, ⟨fits, rfl⟩, ⟨rfl, rfl⟩, rfl⟩, rfl⟩
    refine ⟨fits, ?_⟩
    rw [List.append_nil]
    rfl
  · rintro ⟨fits, rfl⟩
    refine ⟨pool.count, _, _, rfl, ⟨pool.constants, _, _, ⟨fits, rfl⟩, ⟨?_, rfl⟩, rfl⟩, ?_⟩
    · rw [ofConstants_eq]
    · rw [List.append_nil]
      rfl

end ConstantPool

end Unannotate
