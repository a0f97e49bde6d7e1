import Unannotate.Proofs.Endpoint.Numerals
import Unannotate.Proofs.Marks
import Unannotate.Proofs.Outcomes

/-!
# Addresses of eight pieces are read back

Every piece has a digit and no piece has a colon, so a double colon is found where a run of zeros was left
out and nowhere else. Reading fills up with zeros to eight pieces, which are as many as were left out.
-/
set_option autoImplicit false

namespace Unannotate.Ipv6

variable {pieces : List Nat} {final : Bool}

/-- Eight numbers of 16 bits. -/
structure IsAddress (pieces : List Nat) : Prop where
  count : pieces.length = 8
  small : ∀ piece ∈ pieces, piece < 65536

/-! ## Reading gives addresses -/

theorem hexValue?_lt {digit : Char} {value : Nat} (read : Percent.hexValue? digit = some value) :
    value < 16 := by
  have ofNat (letter : Char) : letter.val.toNat = letter.toNat := rfl
  unfold Percent.hexValue? at read
  split at read
  · next decimal =>
    simp only [Char.isDigit, Bool.and_eq_true, decide_eq_true_eq, UInt32.le_iff_toNat_le, ofNat,
      Char.reduceToNat] at decimal
    cases read
    simp only [Char.reduceToNat]
    omega
  split at read
  · next lower =>
    simp only [Char.le_def, UInt32.le_iff_toNat_le, ofNat, Char.reduceToNat] at lower
    cases read
    simp only [Char.reduceToNat]
    omega
  split at read
  · next upper =>
    simp only [Char.le_def, UInt32.le_iff_toNat_le, ofNat, Char.reduceToNat] at upper
    cases read
    simp only [Char.reduceToNat]
    omega
  · cases read

theorem piece?_lt {text : List Char} {piece : Nat} (read : piece? text = some piece) :
    piece < 65536 := by
  unfold piece? at read
  split at read
  · next form =>
    cases read
    simp only [Bool.and_eq_true, decide_eq_true_eq, List.all_eq_true] at form
    obtain ⟨⟨-, short⟩, digits⟩ := form
    have bound := Ipv4.valueIn_lt text 16 fun digit member => by
      obtain ⟨value, read⟩ := Option.isSome_iff_exists.mp (digits digit member)
      exact ⟨value, hexValue?_lt read, read⟩
    exact Nat.lt_of_lt_of_le bound (Nat.pow_le_pow_right (by decide) short)
  · cases read

theorem byte?_lt {text : List Char} {byte : Nat} (read : byte? text = some byte) : byte < 256 := by
  unfold byte? at read
  split at read
  · cases read
  dsimp only at read
  split at read
  · next small =>
    cases read
    exact small
  · cases read

theorem small_of_dotted? {text : List Char} (read : dotted? text = some pieces) :
    ∀ piece ∈ pieces, piece < 65536 := by
  unfold dotted? at read
  split at read
  · next first second third fourth four =>
    have small : ∀ byte ∈ [first, second, third, fourth], byte < 256 := by
      intro byte member
      obtain ⟨text, -, read⟩ := exists_related_of_mem (mapM_eq_some_iff.mp four).flip member
      exact byte?_lt read
    simp only [List.forall_mem_cons, List.not_mem_nil, false_implies, implies_true, and_true] at small
    cases read
    simp only [List.forall_mem_cons, List.not_mem_nil, false_implies, implies_true, and_true]
    omega
  · cases read

theorem small_of_piecesOf? {texts : List (List Char)} (read : piecesOf? final texts = some pieces) :
    ∀ piece ∈ pieces, piece < 65536 := by
  induction texts using piecesOf?.induct final generalizing pieces with
  | case1 =>
    cases read
    simp
  | case2 last dotted =>
    rw [piecesOf?, if_pos dotted] at read
    exact small_of_dotted? read
  | case3 last single =>
    rw [piecesOf?, if_neg single] at read
    obtain ⟨piece, one, rfl⟩ := Option.map_eq_some_iff.mp read
    simpa using piece?_lt one
  | case4 first rest several ih =>
    rw [piecesOf?] at read
    · obtain ⟨piece, one, read⟩ := Option.bind_eq_some_iff.mp read
      obtain ⟨others, later, read⟩ := Option.bind_eq_some_iff.mp read
      cases read
      exact List.forall_mem_cons.mpr ⟨piece?_lt one, ih later⟩
    · exact several

theorem small_of_groups? {text : List Char} (read : groups? final text = some pieces) :
    ∀ piece ∈ pieces, piece < 65536 := by
  unfold groups? at read
  split at read
  · cases read
    simp
  · exact small_of_piecesOf? read

theorem isAddress_of_ofText? {text : List Char} (read : ofText? text = some pieces) :
    IsAddress pieces := by
  unfold ofText? at read
  split at read
  · obtain ⟨given, whole, read⟩ := Option.bind_eq_some_iff.mp read
    split at read
    · next eight =>
      cases read
      exact ⟨eight, small_of_groups? whole⟩
    · cases read
  · obtain ⟨front, first, read⟩ := Option.bind_eq_some_iff.mp read
    obtain ⟨back, second, read⟩ := Option.bind_eq_some_iff.mp read
    dsimp only at read
    split at read
    · next room =>
      cases read
      constructor
      · simp only [List.length_append, List.length_replicate]
        omega
      · intro piece member
        rw [List.mem_append, List.mem_append] at member
        obtain (inFront | zero) | inBack := member
        · exact small_of_groups? first piece inFront
        · rw [List.eq_of_mem_replicate zero]
          decide
        · exact small_of_groups? second piece inBack
    · cases read

/-! ## Pieces between colons -/

theorem colon_not_mem_toDigits (piece : Nat) : ':' ∉ Nat.toDigits 16 piece :=
  Ipv4.not_mem_toDigits (by decide) (by decide) (by decide)

theorem renderPieces_cons_cons (first second : Nat) (rest : List Nat) :
    renderPieces (first :: second :: rest)
      = Nat.toDigits 16 first ++ ':' :: renderPieces (second :: rest) := by
  rw [renderPieces, List.map_cons, List.map_cons, List.intercalate_cons_cons, List.append_assoc]
  rfl

theorem mem_renderPieces {character : Char} (member : character ∈ renderPieces pieces) :
    character = ':' ∨ ∃ digit < 16, character = Nat.digitChar digit := by
  obtain colon | ⟨text, written, inText⟩ := mem_intercalate member
  · exact .inl colon
  · obtain ⟨piece, -, rfl⟩ := List.mem_map.mp written
    exact .inr (Ipv4.mem_toDigits (by decide) inText)

theorem piece?_toDigits {piece : Nat} (small : piece < 65536) :
    piece? (Nat.toDigits 16 piece) = some piece := by
  have nonempty : (Nat.toDigits 16 piece).isEmpty = false := by
    rw [List.isEmpty_eq_false_iff]
    exact Nat.toDigits_ne_nil
  have short : (Nat.toDigits 16 piece).length ≤ 4 :=
    (Nat.length_toDigits_le_iff (by decide) (by decide)).mpr small
  have digits : (Nat.toDigits 16 piece).all (fun digit => (Percent.hexValue? digit).isSome) := by
    rw [List.all_eq_true]
    intro character member
    obtain ⟨digit, bound, rfl⟩ := Ipv4.mem_toDigits (by decide) member
    rw [Ipv4.hexValue?_digitChar bound]
    rfl
  rw [piece?, nonempty, digits, Ipv4.valueIn_toDigits (by decide) (by decide)]
  simp [short]

theorem piecesOf?_toDigits (small : ∀ piece ∈ pieces, piece < 65536) :
    piecesOf? final (pieces.map (Nat.toDigits 16)) = some pieces := by
  induction pieces with
  | nil => rfl
  | cons first rest ih =>
    rw [List.forall_mem_cons] at small
    cases rest with
    | nil =>
      have noDot : '.' ∉ Nat.toDigits 16 first :=
        Ipv4.not_mem_toDigits (by decide) (by decide) (by decide)
      rw [List.map_cons, List.map_nil, piecesOf?, if_neg (by simp [noDot]), piece?_toDigits small.1]
      rfl
    | cons second rest =>
      rw [List.map_cons, piecesOf?, piece?_toDigits small.1, ih small.2]
      · rfl
      · simp

theorem groups?_renderPieces (small : ∀ piece ∈ pieces, piece < 65536) :
    groups? final (renderPieces pieces) = some pieces := by
  cases pieces with
  | nil => rfl
  | cons first rest =>
    have nonempty : (renderPieces (first :: rest)).isEmpty = false := by
      cases rest with
      | nil => simp [renderPieces, List.intercalate]
      | cons second rest => simp [renderPieces_cons_cons]
    have split : (renderPieces (first :: rest)).splitOn ':' = (first :: rest).map (Nat.toDigits 16) := by
      apply List.splitOn_intercalate ':'
      · intro text member
        obtain ⟨piece, -, rfl⟩ := List.mem_map.mp member
        exact colon_not_mem_toDigits piece
      · simp
    rw [groups?, nonempty, split]
    exact piecesOf?_toDigits small

/-! ## The run that is left out -/

/-- The text in front of what is split is part of what stands before the double colon. -/
def behindFront (front : List Char) (found : List Char × List Char) : List Char × List Char :=
  (front ++ found.1, found.2)

@[simp] theorem map_behindFront_nil (found : Option (List Char × List Char)) :
    found.map (behindFront []) = found := by
  cases found <;> rfl

theorem splitRun_cons {first : Char} {rest : List Char} (single : first ≠ ':' ∨ rest.head? ≠ some ':') :
    splitRun (first :: rest) = (splitRun rest).map (behindFront [first]) := by
  rw [splitRun]
  · rfl
  · rintro behind rfl rfl
    simp at single

theorem map_behindFront (front back : List Char) (found : Option (List Char × List Char)) :
    (found.map (behindFront back)).map (behindFront front) = found.map (behindFront (front ++ back)) := by
  cases found with
  | none => rfl
  | some pair => simp [behindFront]

theorem splitRun_append {text : List Char} (noColon : ':' ∉ text) (rest : List Char) :
    splitRun (text ++ rest) = (splitRun rest).map (behindFront text) := by
  induction text with
  | nil => simp
  | cons first text ih =>
    rw [List.mem_cons, not_or] at noColon
    rw [List.cons_append, splitRun_cons (.inl (Ne.symm noColon.1)), ih noColon.2, map_behindFront]
    rfl

/-- A piece has a digit, so no two colons follow each other. -/
theorem head?_renderPieces (first : Nat) (others : List Nat) (rest : List Char) :
    (renderPieces (first :: others) ++ rest).head? ≠ some ':' := by
  obtain ⟨digit, more, digits⟩ := List.exists_cons_of_ne_nil
    (Nat.toDigits_ne_nil (n := first) (b := 16))
  have noColon : ':' ∉ Nat.toDigits 16 first := colon_not_mem_toDigits first
  rw [digits, List.mem_cons, not_or] at noColon
  cases others with
  | nil => simpa [renderPieces, List.intercalate, digits] using Ne.symm noColon.1
  | cons second others => simpa [renderPieces_cons_cons, digits] using Ne.symm noColon.1

theorem splitRun_renderPieces (pieces : List Nat) (rest : List Char) :
    splitRun (renderPieces pieces ++ rest) = (splitRun rest).map (behindFront (renderPieces pieces)) := by
  induction pieces with
  | nil => simp [renderPieces, List.intercalate]
  | cons first others ih =>
    cases others with
    | nil =>
      have one : renderPieces [first] = Nat.toDigits 16 first := by
        simp [renderPieces, List.intercalate]
      rw [one]
      exact splitRun_append (colon_not_mem_toDigits first) rest
    | cons second others =>
      rw [renderPieces_cons_cons, List.append_assoc, List.cons_append,
        splitRun_append (colon_not_mem_toDigits first),
        splitRun_cons (.inr (head?_renderPieces second others rest)), ih, map_behindFront, map_behindFront]
      simp

theorem eq_append_of_longestRun (offset : Nat) (pieces : List Nat) :
    ∃ front back, pieces = front ++ List.replicate (longestRun offset pieces).2 0 ++ back ∧
      (longestRun offset pieces).1 = offset + front.length := by
  induction pieces generalizing offset with
  | nil => exact ⟨[], [], rfl, rfl⟩
  | cons piece rest ih =>
    simp only [longestRun]
    split
    · obtain ⟨front, back, shape, start⟩ := ih (offset + 1)
      refine ⟨piece :: front, back, ?_, ?_⟩
      · rw [List.cons_append, List.cons_append, ← shape]
      · rw [start, List.length_cons]
        omega
    · refine ⟨[], (piece :: rest).dropWhile (· = 0), ?_, rfl⟩
      have run : (piece :: rest).takeWhile (· = 0) = List.replicate (zeros (piece :: rest)) 0 := by
        rw [List.eq_replicate_iff]
        refine ⟨rfl, ?_⟩
        intro value member
        simpa using List.mem_takeWhile_imp member
      rw [List.nil_append, ← run, List.takeWhile_append_dropWhile]

theorem ofText?_render (address : IsAddress pieces) : ofText? (render pieces) = some pieces := by
  obtain ⟨front, back, shape, start⟩ := eq_append_of_longestRun 0 pieces
  rw [Nat.zero_add] at start
  unfold render
  dsimp only
  split
  · have noRun : splitRun (renderPieces pieces) = none := by
      have whole := splitRun_renderPieces pieces []
      rwa [List.append_nil] at whole
    rw [ofText?, noRun]
    dsimp only
    rw [groups?_renderPieces address.small]
    exact if_pos address.count
  · next long =>
    generalize (longestRun 0 pieces).2 = length at shape long ⊢
    rw [start]
    have count := address.count
    have small := address.small
    subst shape
    simp only [List.length_append, List.length_replicate] at count
    have before : (front ++ List.replicate length 0 ++ back).take front.length = front := by
      simp
    have behind : (front ++ List.replicate length 0 ++ back).drop (front.length + length) = back := by
      exact List.drop_left' (by simp)
    rw [before, behind]
    have run : splitRun (renderPieces front ++ "::".toList ++ renderPieces back)
        = some (renderPieces front, renderPieces back) := by
      rw [List.append_assoc, splitRun_renderPieces]
      simp [splitRun, behindFront]
    rw [ofText?, run]
    dsimp only
    rw [groups?_renderPieces fun piece member => small piece (by simp [member]),
      groups?_renderPieces fun piece member => small piece (by simp [member])]
    have left : 8 - (front.length + back.length) = length := by
      omega
    simp only [Option.bind_eq_bind, Option.bind_some, left]
    rw [if_pos (by omega)]

theorem mem_render {character : Char} (member : character ∈ render pieces) :
    character = ':' ∨ ∃ digit < 16, character = Nat.digitChar digit := by
  unfold render at member
  dsimp only at member
  split at member
  · exact mem_renderPieces member
  · rw [List.mem_append, List.mem_append] at member
    obtain (before | colons) | behind := member
    · exact mem_renderPieces before
    · exact .inl (by simpa using colons)
    · exact mem_renderPieces behind

end Unannotate.Ipv6
