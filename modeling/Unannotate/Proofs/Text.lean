import Unannotate.Archive.Basic

/-!
# Names are read back as they were written

A character is read back from the bytes that encode it, whatever was read before, so text is read back
from its encoding. ASCII text has one byte a character, and both encodings that archives use read it
alike.
-/
set_option autoImplicit false

namespace Unannotate

namespace Utf8

/-! ## One character -/

theorem following_one {lead : UInt8} (small : lead.toNat < 0x80) :
    following lead = some (0, 0x80, 0xBF) := by
  rw [following, if_pos (UInt8.lt_iff_toNat_lt.mpr small)]

theorem following_two {lead : UInt8} (least : 0xC2 ≤ lead.toNat) (most : lead.toNat < 0xE0) :
    following lead = some (1, 0x80, 0xBF) := by
  have wide : ¬ lead < 0x80 := by simp only [UInt8.lt_iff_toNat_lt, UInt8.reduceToNat]; omega
  have begins : ¬ lead < 0xC2 := by simp only [UInt8.lt_iff_toNat_lt, UInt8.reduceToNat]; omega
  rw [following, if_neg wide, if_neg begins, if_pos (UInt8.lt_iff_toNat_lt.mpr most)]

/-- The range of the second of three bytes leaves out longer spellings and surrogates. -/
theorem following_three {lead : UInt8} (least : 0xE0 ≤ lead.toNat) (most : lead.toNat < 0xF0) :
    following lead = some (2, if lead.toNat = 0xE0 then 0xA0 else 0x80,
      if lead.toNat = 0xED then 0x9F else 0xBF) := by
  unfold following
  simp only [UInt8.lt_iff_toNat_lt, ← UInt8.toNat_inj, UInt8.reduceToNat]
  grind

theorem following_four {lead : UInt8} (least : 0xF0 ≤ lead.toNat) (most : lead.toNat < 0xF5) :
    following lead = some (3, if lead.toNat = 0xF0 then 0x90 else 0x80,
      if lead.toNat = 0xF4 then 0x8F else 0xBF) := by
  unfold following
  simp only [UInt8.lt_iff_toNat_lt, ← UInt8.toNat_inj, UInt8.reduceToNat]
  grind

theorem step_start {lead : UInt8} {done : List Char} {count : Nat} {low high : UInt8}
    (leads : following lead = some (count + 1, low, high)) :
    step (done, none) lead = (done, some ⟨leadBits lead (count + 1), count + 1, low, high⟩) := by
  simp [step, start, leads]

theorem step_continue {done : List Char} {bits missing : Nat} {low high byte : UInt8}
    (least : low.toNat ≤ byte.toNat) (most : byte.toNat ≤ high.toNat) :
    step (done, some ⟨bits, missing + 2, low, high⟩) byte
      = (done, some ⟨bits * 64 + byte.toNat % 64, missing + 1, 0x80, 0xBF⟩) := by
  have inside : low ≤ byte ∧ byte ≤ high :=
    ⟨UInt8.le_iff_toNat_le.mpr least, UInt8.le_iff_toNat_le.mpr most⟩
  simp [step, inside]

theorem step_finish {done : List Char} {bits : Nat} {byte : UInt8} (least : 0x80 ≤ byte.toNat)
    (most : byte.toNat ≤ 0xBF) :
    step (done, some ⟨bits, 1, 0x80, 0xBF⟩) byte
      = (Char.ofNat (bits * 64 + byte.toNat % 64) :: done, none) := by
  have inside : 0x80 ≤ byte ∧ byte ≤ 0xBF :=
    ⟨UInt8.le_iff_toNat_le.mpr least, UInt8.le_iff_toNat_le.mpr most⟩
  simp [step, inside]

theorem foldl_step_two {lead second : UInt8} (done : List Char) (least : 0xC2 ≤ lead.toNat)
    (most : lead.toNat < 0xE0) (low : 0x80 ≤ second.toNat) (high : second.toNat ≤ 0xBF) :
    [lead, second].foldl step (done, none)
      = (Char.ofNat (lead.toNat % 32 * 64 + second.toNat % 64) :: done, none) := by
  rw [List.foldl_cons, step_start (following_two least most), List.foldl_cons, step_finish low high]
  rfl

theorem foldl_step_three {lead second third : UInt8} (done : List Char) (least : 0xE0 ≤ lead.toNat)
    (most : lead.toNat < 0xF0) (low : (if lead.toNat = 0xE0 then 0xA0 else 0x80) ≤ second.toNat)
    (high : second.toNat ≤ if lead.toNat = 0xED then 0x9F else 0xBF) (lowThird : 0x80 ≤ third.toNat)
    (highThird : third.toNat ≤ 0xBF) :
    [lead, second, third].foldl step (done, none)
      = (Char.ofNat ((lead.toNat % 16 * 64 + second.toNat % 64) * 64 + third.toNat % 64) :: done,
        none) := by
  rw [List.foldl_cons, step_start (following_three least most), List.foldl_cons,
    step_continue (by split at low <;> simp [*]) (by split at high <;> simp [*]),
    List.foldl_cons, step_finish lowThird highThird]
  rfl

theorem foldl_step_four {lead second third fourth : UInt8} (done : List Char)
    (least : 0xF0 ≤ lead.toNat) (most : lead.toNat < 0xF5)
    (low : (if lead.toNat = 0xF0 then 0x90 else 0x80) ≤ second.toNat)
    (high : second.toNat ≤ if lead.toNat = 0xF4 then 0x8F else 0xBF) (lowThird : 0x80 ≤ third.toNat)
    (highThird : third.toNat ≤ 0xBF) (lowFourth : 0x80 ≤ fourth.toNat)
    (highFourth : fourth.toNat ≤ 0xBF) :
    [lead, second, third, fourth].foldl step (done, none)
      = (Char.ofNat (((lead.toNat % 8 * 64 + second.toNat % 64) * 64 + third.toNat % 64) * 64
        + fourth.toNat % 64) :: done, none) := by
  rw [List.foldl_cons, step_start (following_four least most), List.foldl_cons,
    step_continue (by split at low <;> simp [*]) (by split at high <;> simp [*]),
    List.foldl_cons, step_continue (by simpa using lowThird) (by simpa using highThird), List.foldl_cons,
    step_finish lowFourth highFourth]
  rfl

theorem foldl_step_encodeChar (done : List Char) (char : Char) :
    (String.utf8EncodeChar char).foldl step (done, none) = (char :: done, none) := by
  have same : Char.ofNat char.val.toNat = char := Char.ofNat_toNat char
  have valid : char.val.toNat < 0xD800 ∨ 0xDFFF < char.val.toNat ∧ char.val.toNat < 0x110000 :=
    char.valid
  -- One case for each number of bytes. The code is the same in all of them, and what its bytes spell is
  -- arithmetic.
  unfold String.utf8EncodeChar
  generalize char.val.toNat = code at same valid ⊢
  have byte {value : Nat} (small : value < 256) : (UInt8.ofNat value).toNat = value :=
    UInt8.toNat_ofNat_of_lt small
  have last : (UInt8.ofNat (code % 64 + 128)).toNat = code % 64 + 128 := byte (by omega)
  have middle : (UInt8.ofNat (code / 64 % 64 + 128)).toNat = code / 64 % 64 + 128 :=
    byte (by omega)
  have early : (UInt8.ofNat (code / 4096 % 64 + 128)).toNat = code / 4096 % 64 + 128 :=
    byte (by omega)
  dsimp only
  split
  · have lead : (UInt8.ofNat code).toNat = code := byte (by omega)
    have leads : following (UInt8.ofNat code) = some (0, 0x80, 0xBF) := following_one (by omega)
    simp [step, start, leads, lead, same]
  split
  · have lead : (UInt8.ofNat (code / 64 % 32 + 192)).toNat = code / 64 % 32 + 192 :=
      byte (by omega)
    rw [foldl_step_two done (by omega) (by omega) (by omega) (by omega), lead, last, ← same]
    congr 3
    omega
  split
  · have lead : (UInt8.ofNat (code / 4096 % 16 + 224)).toNat = code / 4096 % 16 + 224 :=
      byte (by omega)
    rw [foldl_step_three done (by omega) (by omega) (by split <;> omega) (by split <;> omega)
      (by omega) (by omega), lead, middle, last, ← same]
    congr 3
    omega
  · have lead : (UInt8.ofNat (code / 262144 % 8 + 240)).toNat = code / 262144 % 8 + 240 :=
      byte (by omega)
    rw [foldl_step_four done (by omega) (by omega) (by split <;> omega) (by split <;> omega)
      (by omega) (by omega) (by omega) (by omega), lead, early, middle, last, ← same]
    congr 3
    omega

/-! ## Text -/

theorem encode_eq (text : String) : encode text = text.toList.flatMap String.utf8EncodeChar := by
  rw [encode, String.toUTF8_eq_toByteArray, ← String.utf8Encode_toList, List.utf8Encode,
    List.toList_data_toByteArray]

theorem foldl_step_flatMap (done chars : List Char) :
    (chars.flatMap String.utf8EncodeChar).foldl step (done, none) = (chars.reverse ++ done, none) := by
  induction chars generalizing done with
  | nil => rfl
  | cons char rest ih =>
    rw [List.flatMap_cons, List.foldl_append, foldl_step_encodeChar, ih]
    simp

theorem decodeLossy_encode (text : String) : decodeLossy (encode text) = text := by
  rw [decodeLossy, encode_eq, foldl_step_flatMap]
  simp

theorem encode_injective : Function.Injective encode :=
  Function.LeftInverse.injective decodeLossy_encode

end Utf8

/-! ## ASCII text -/

theorem toLower_eq_self {character : Char}
    (noCapital : character.toNat < 0x41 ∨ 0x5A < character.toNat) :
    character.toLower = character := by
  refine dif_neg ?_
  rintro ⟨least, most⟩
  have low : 0x41 ≤ character.toNat := UInt32.le_iff_toNat_le.mp least
  have high : character.toNat ≤ 0x5A := UInt32.le_iff_toNat_le.mp most
  omega

theorem CodePage437.decode_encode {text : String} (ascii : NewEntry.isAscii text = true) :
    CodePage437.decode (Utf8.encode text) = text := by
  have bytes (chars : List Char) (small : ∀ char ∈ chars, char.val.toNat < 128) :
      (chars.flatMap String.utf8EncodeChar).map decodeByte = chars := by
    induction chars with
    | nil => rfl
    | cons char rest ih =>
      rw [List.forall_mem_cons] at small
      have value : (UInt8.ofNat char.val.toNat).toNat = char.val.toNat :=
        UInt8.toNat_ofNat_of_lt (Nat.lt_trans small.1 (by decide))
      have below : UInt8.ofNat char.val.toNat < 0x80 := by
        rw [UInt8.lt_iff_toNat_lt, value]
        exact small.1
      have single : String.utf8EncodeChar char = [UInt8.ofNat char.val.toNat] := by
        rw [String.utf8EncodeChar, if_pos (Nat.le_of_lt_succ small.1)]
      have same : Char.ofNat char.val.toNat = char := Char.ofNat_toNat char
      rw [List.flatMap_cons, List.map_append, ih small.2, single, List.map_singleton,
        decodeByte_ascii below, value, same]
      rfl
  have small (char : Char) (member : char ∈ text.toList) : char.val.toNat < 128 := by
    simpa using List.all_eq_true.mp ascii char member
  rw [decode, Utf8.encode_eq, bytes _ small, String.ofList_toList]

end Unannotate
