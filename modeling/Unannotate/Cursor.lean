import Unannotate.Bytes

/-!
A reading position in a byte string.

A cursor keeps the bytes already passed, nearest first, and the bytes still ahead. The position is
therefore never beyond the end, and no bound has to be carried along. `take?` moves over a block of
bytes or leaves everything as it is; `data_take?` says that moving never changes the byte string.
-/
set_option autoImplicit false

namespace Unannotate

structure Cursor where
  passed : Bytes
  rest : Bytes
  deriving DecidableEq, Repr

namespace Cursor

def ofBytes (data : Bytes) : Cursor := ⟨[], data⟩

def offset (cursor : Cursor) : Nat := cursor.passed.length

/-- The whole byte string, wherever the cursor stands in it. -/
def data (cursor : Cursor) : Bytes := cursor.passed.reverseAux cursor.rest

def size (cursor : Cursor) : Nat := cursor.passed.length + cursor.rest.length

/-- Move over the next `count` bytes, when there are that many. -/
def take? (count : Nat) (cursor : Cursor) : Option (Bytes × Cursor) :=
  let taken := cursor.rest.take count
  if taken.length = count then
    some (taken, ⟨taken.reverseAux cursor.passed, cursor.rest.drop count⟩)
  else
    none

/-- The bytes passed since the position `start`. -/
def since (start : Nat) (cursor : Cursor) : Bytes := cursor.passed.reverse.drop start

theorem take?_append (passed front rest : Bytes) :
    take? front.length ⟨passed, front ++ rest⟩ = some (front, ⟨front.reverseAux passed, rest⟩) := by
  simp [take?]

theorem take?_eq_some {count : Nat} {cursor next : Cursor} {taken : Bytes}
    (success : take? count cursor = some (taken, next)) :
    taken.length = count ∧ cursor.rest = taken ++ next.rest ∧
      next.passed = taken.reverseAux cursor.passed := by
  unfold take? at success
  dsimp only at success
  split at success
  · next enough =>
    simp only [Option.some.injEq, Prod.mk.injEq] at success
    obtain ⟨rfl, rfl⟩ := success
    exact ⟨enough, (List.take_append_drop count cursor.rest).symm, rfl⟩
  · simp at success

theorem data_take? {count : Nat} {cursor next : Cursor} {taken : Bytes}
    (success : take? count cursor = some (taken, next)) : next.data = cursor.data := by
  obtain ⟨_, ahead, behind⟩ := take?_eq_some success
  simp [data, ahead, behind, List.reverseAux_eq]

theorem offset_take? {count : Nat} {cursor next : Cursor} {taken : Bytes}
    (success : take? count cursor = some (taken, next)) : next.offset = cursor.offset + count := by
  obtain ⟨width, _, behind⟩ := take?_eq_some success
  simp [offset, behind, List.reverseAux_eq, width, Nat.add_comm]

end Cursor

end Unannotate
