import Mathlib.Algebra.Order.Ring.Nat
import Mathlib.Data.List.Induction
import Unannotate.Endpoint.Host
import Unannotate.Proofs.Outcomes

/-!
# Numbers in addresses

A number written in some base up to sixteen has its value back when its digits are read, and so the
parts of a host are read back from what they are written as.
-/
set_option autoImplicit false

namespace Unannotate.Ipv4

variable {base number : Nat} {character : Char}

theorem hexValue?_digitChar {digit : Nat} (small : digit < 16) :
    Percent.hexValue? (Nat.digitChar digit) = some digit := by
  have all : ∀ value ∈ List.range 16, Percent.hexValue? (Nat.digitChar value) = some value := by
    decide
  exact all digit (List.mem_range.mpr small)

theorem valueIn_concat (base : Nat) (front : List Char) (digit : Char) :
    valueIn base (front ++ [digit])
      = valueIn base front * base + (Percent.hexValue? digit).getD 0 := by
  rw [valueIn, List.foldl_append]
  rfl

theorem valueIn_toDigits (least : 1 < base) (most : base ≤ 16) (number : Nat) :
    valueIn base (Nat.toDigits base number) = number := by
  induction number using Nat.strongRecOn with
  | ind number ih =>
    by_cases single : number < base
    · rw [Nat.toDigits_of_lt_base single, ← List.nil_append [_], valueIn_concat,
        hexValue?_digitChar (by omega)]
      simp [valueIn]
    · have smaller : number / base < number := Nat.div_lt_self (by omega) least
      have last : number % base < base := Nat.mod_lt _ (by omega)
      rw [Nat.toDigits_of_base_le least (by omega), valueIn_concat, ih _ smaller,
        hexValue?_digitChar (by omega)]
      exact Nat.div_add_mod' number base

theorem mem_toDigits (least : 1 < base) (member : character ∈ Nat.toDigits base number) :
    ∃ digit < base, character = Nat.digitChar digit := by
  induction number using Nat.strongRecOn with
  | ind number ih =>
    by_cases single : number < base
    · rw [Nat.toDigits_of_lt_base single, List.mem_singleton] at member
      exact ⟨number, single, member⟩
    · rw [Nat.toDigits_of_base_le least (by omega), List.mem_append, List.mem_singleton] at member
      obtain inFront | isLast := member
      · exact ih _ (Nat.div_lt_self (by omega) least) inFront
      · exact ⟨number % base, Nat.mod_lt _ (by omega), isLast⟩

theorem not_mem_toDigits (least : 1 < base) (most : base ≤ 16)
    (absent : ∀ value ∈ List.range 16, character ≠ Nat.digitChar value) :
    character ∉ Nat.toDigits base number := by
  intro member
  obtain ⟨digit, small, same⟩ := mem_toDigits least member
  exact absent digit (List.mem_range.mpr (by omega)) same

theorem valueIn_lt (text : List Char) (base : Nat)
    (digits : ∀ digit ∈ text, ∃ value < base, Percent.hexValue? digit = some value) :
    valueIn base text < base ^ text.length := by
  induction text using List.reverseRecOn with
  | nil => simp [valueIn]
  | append_singleton front digit ih =>
    obtain ⟨value, small, read⟩ := digits digit (by simp)
    have before := ih fun digit member => digits digit (by simp [member])
    rw [valueIn_concat, read, List.length_append, List.length_singleton, pow_succ]
    have room : valueIn base front * base + base ≤ base ^ front.length * base := by
      rw [← Nat.succ_mul]
      exact Nat.mul_le_mul_right base before
    exact Nat.lt_of_lt_of_le (Nat.add_lt_add_left small _) room

/-! ## Addresses of four bytes -/

/-- Bytes from the most significant one on. -/
def bytesOf (address : Nat) : List Nat :=
  [address / Bytes.capacity 3 % 256, address / Bytes.capacity 2 % 256,
    address / Bytes.capacity 1 % 256, address / Bytes.capacity 0 % 256]

theorem render_eq (address : Nat) :
    render address = ['.'].intercalate ((bytesOf address).map (Nat.toDigits 10)) := by
  have decimal (number : Nat) : (toString number).toList = Nat.toDigits 10 number := Nat.toList_repr
  simp only [render, bytesOf, decimal, List.map_cons, List.map_nil]

theorem bytesOf_lt (address : Nat) : ∀ byte ∈ bytesOf address, byte < 256 := by
  simp only [bytesOf, List.forall_mem_cons, List.not_mem_nil, false_implies, implies_true, and_true]
  omega

theorem splitOn_render (address : Nat) :
    (render address).splitOn '.' = (bytesOf address).map (Nat.toDigits 10) := by
  rw [render_eq]
  apply List.splitOn_intercalate '.'
  · intro part member
    obtain ⟨byte, -, rfl⟩ := List.mem_map.mp member
    exact not_mem_toDigits (by decide) (by decide) (by decide)
  · simp [bytesOf]

theorem parts_render (address : Nat) :
    parts (render address) = (bytesOf address).map (Nat.toDigits 10) := by
  rw [parts, splitOn_render]
  simp [bytesOf]

theorem endsInNumber_render (address : Nat) : endsInNumber (render address) = true := by
  have digits : (Nat.toDigits 10 (address / Bytes.capacity 0 % 256)).all Char.isDigit = true := by
    rw [List.all_eq_true]
    intro digit member
    exact Nat.isDigit_of_mem_toDigits (by decide) (by decide) member
  rw [endsInNumber, parts_render]
  simp [bytesOf, digits]

theorem number?_toDigits {byte : Nat} (small : byte < 256) :
    number? (Nat.toDigits 10 byte) = some byte := by
  have all : ∀ value ∈ List.range 256, number? (Nat.toDigits 10 value) = some value := by
    decide +kernel
  exact all byte (List.mem_range.mpr small)

theorem mapM_number? {numbers : List Nat} (small : ∀ byte ∈ numbers, byte < 256) :
    (numbers.map (Nat.toDigits 10)).mapM number? = some numbers := by
  apply mapM_eq_some_iff.mpr
  apply List.forall₂_map_left_iff.mpr
  apply List.forall₂_same.mpr
  intro byte held
  exact number?_toDigits (small byte held)

theorem ofNumbers?_bytesOf {address : Nat} (bound : address < Bytes.capacity 4) :
    ofNumbers? (bytesOf address) = some address := by
  have small := bytesOf_lt address
  simp only [bytesOf, List.forall_mem_cons] at small
  simp only [Bytes.capacity] at bound small
  simp only [ofNumbers?, bytesOf, List.getLast?_cons_cons, List.getLast?_singleton, List.dropLast,
    List.length_cons, List.length_nil, List.all_cons, List.all_nil, Bytes.capacity, List.foldl_cons,
    List.foldl_nil, Bool.and_true, Bool.and_eq_true, decide_eq_true_eq]
  rw [if_pos (by omega)]
  congr 1
  omega

theorem ofName?_render {address : Nat} (bound : address < Bytes.capacity 4) :
    ofName? (render address) = some address := by
  rw [ofName?, parts_render, mapM_number? (bytesOf_lt address)]
  exact ofNumbers?_bytesOf bound

theorem foldl_bytes_lt (bytes : List Nat) (small : ∀ byte ∈ bytes, byte < 256) :
    bytes.foldl (fun value byte => value * 256 + byte) 0 < Bytes.capacity bytes.length := by
  induction bytes using List.reverseRecOn with
  | nil => decide
  | append_singleton front byte ih =>
    have before := ih fun item member => small item (by simp [member])
    have last := small byte (by simp)
    rw [List.foldl_append, List.length_append, List.length_singleton, Bytes.capacity, List.foldl_cons,
      List.foldl_nil]
    omega

theorem capacity_add (front back : Nat) :
    Bytes.capacity (front + back) = Bytes.capacity front * Bytes.capacity back := by
  induction front with
  | zero => simp [Bytes.capacity]
  | succ front ih => rw [Nat.succ_add, Bytes.capacity, ih, Bytes.capacity, Nat.mul_assoc]

theorem lt_of_ofNumbers? {numbers : List Nat} {address : Nat}
    (read : ofNumbers? numbers = some address) : address < Bytes.capacity 4 := by
  unfold ofNumbers? at read
  split at read
  · cases read
  · next last _ =>
    dsimp only at read
    split at read
    · next fits =>
      cases read
      obtain ⟨short, small, lastFits⟩ := fits
      have front := foldl_bytes_lt numbers.dropLast (by simpa using small)
      have whole := capacity_add numbers.dropLast.length (4 - numbers.dropLast.length)
      rw [show numbers.dropLast.length + (4 - numbers.dropLast.length) = 4 by omega] at whole
      rw [whole]
      have room := Nat.mul_le_mul_right (Bytes.capacity (4 - numbers.dropLast.length)) front
      rw [Nat.succ_mul] at room
      exact Nat.lt_of_lt_of_le (Nat.add_lt_add_left lastFits _) room
    · cases read

end Unannotate.Ipv4
