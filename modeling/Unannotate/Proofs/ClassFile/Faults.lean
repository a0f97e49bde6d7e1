import Unannotate.ClassFile.Basic
import Unannotate.Proofs.ModifiedUtf8

/-!
# Faults of reading and faults of writing

Two faults belong to writing: a list that is longer than its count can say, and an attribute body that is
longer than its length can say. Whatever only reads fails with neither: texts, names, and descriptors
here, and every reader of class file data, being made of blocks of bytes.
-/
set_option autoImplicit false

namespace Unannotate

/-- Whether a fault can come from bytes that are read. -/
def Malformation.FromReading : Malformation → Prop
  | .tooMany _ _ | .attributeTooLong => False
  | _ => True

/-- If this failed, then because of what was read. -/
def ReadsOnly {α : Type} (result : Except Malformation α) : Prop :=
  ∀ fault, result = .error fault → fault.FromReading

section Results

variable {α β : Type}

theorem readsOnly_ok (value : α) : ReadsOnly (.ok value) := by
  intro fault failed
  cases failed

theorem readsOnly_error {fault : Malformation} (fromReading : fault.FromReading) :
    ReadsOnly (.error fault : Except Malformation α) := by
  intro other failed
  cases failed
  exact fromReading

theorem readsOnly_bind {first : Except Malformation α} {second : α → Except Malformation β}
    (firstReads : ReadsOnly first) (secondReads : ∀ value, ReadsOnly (second value)) :
    ReadsOnly (first >>= second) := by
  cases first with
  | error fault => exact readsOnly_error (firstReads fault rfl)
  | ok value => exact secondReads value

theorem readsOnly_map {result : Except Malformation α} (change : α → β) (reads : ReadsOnly result) :
    ReadsOnly (result.map change) := by
  cases result with
  | error fault => exact readsOnly_error (reads fault rfl)
  | ok value => exact readsOnly_ok _

end Results

/-- Wherever it starts, the reader fails because of what it reads. -/
def Reader.MeetsReadingFaults {α : Type} (reader : Reader α) : Prop :=
  ∀ cursor, ReadsOnly (reader cursor)

/-! ## Texts -/

theorem ModifiedUtf8.readsOnly_units (bytes : Bytes) : ReadsOnly (units bytes) := by
  fun_induction units bytes with
  | case1 => exact readsOnly_ok _
  | case2 first rest ascii ih => exact readsOnly_map _ ih
  | case3 first ascii two second rest continued ih => exact readsOnly_map _ ih
  | case6 first ascii two three second third rest continued ih => exact readsOnly_map _ ih
  | case4 | case5 | case7 | case8 | case9 => exact readsOnly_error trivial

theorem ModifiedUtf8.readsOnly_decode (bytes : Bytes) : ReadsOnly (decode bytes) := by
  rw [decode_eq_decodeUnits]
  exact readsOnly_map _ (readsOnly_units bytes)

theorem readsOnly_annotationClassName (descriptor : String) :
    ReadsOnly (annotationClassName descriptor) := by
  unfold annotationClassName
  split
  · exact readsOnly_error trivial
  · exact readsOnly_ok _
  · exact readsOnly_error trivial

/-! ## Names -/

theorem ConstantPool.readsOnly_text (pool : ConstantPool) (index : UInt16) :
    ReadsOnly (pool.text index) := by
  unfold text
  split
  · exact ModifiedUtf8.readsOnly_decode _
  · exact readsOnly_error trivial

theorem ConstantPool.readsOnly_className (pool : ConstantPool) (index : UInt16) :
    ReadsOnly (pool.className index) := by
  unfold className
  split
  · exact pool.readsOnly_text _
  · exact readsOnly_error trivial

theorem ClassFile.readsOnly_name (file : ClassFile) : ReadsOnly file.name :=
  file.pool.readsOnly_className file.thisClass

end Unannotate
