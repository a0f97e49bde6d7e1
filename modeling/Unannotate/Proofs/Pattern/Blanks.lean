import Mathlib.Data.String.Basic
import Unannotate.Pattern.Reader

/-!
# Blanks of the pattern language

The characters that count as blank are listed as text, one range after another with spaces between them.
Splitting a text at its spaces is splitting the list of its characters, and so the list can be evaluated.
Neither a closing parenthesis nor a brace is in it.
-/
set_option autoImplicit false

namespace Unannotate

open String

theorem get_behind (front word rest : List Char) (letter : Char) :
    Pos.Raw.get (ofList (front ++ word ++ letter :: rest)) ⟨utf8Len front + utf8Len word⟩ = letter := by
  rw [← utf8Len_append, get_of_valid]
  rfl

theorem next_behind (front word rest : List Char) (letter : Char) :
    Pos.Raw.next (ofList (front ++ word ++ letter :: rest)) ⟨utf8Len front + utf8Len word⟩
      = ⟨utf8Len front + utf8Len word + letter.utf8Size⟩ := by
  rw [← utf8Len_append, next_of_valid]

/-- Splitting goes on with a word that has been read up to some place. -/
theorem splitOnAux_space (front word rest : List Char) (done : List String) :
    String.splitOnAux (ofList (front ++ word ++ rest)) " " ⟨utf8Len front⟩
        ⟨utf8Len front + utf8Len word⟩ 0 done
      = done.reverse ++ (List.splitOnPPrepend (· = ' ') rest word.reverse).map ofList := by
  induction rest generalizing front word done with
  | nil =>
    have atEnd : Pos.Raw.atEnd (ofList (front ++ word ++ [])) ⟨utf8Len front + utf8Len word⟩ = true := by
      simp only [atEnd_iff, rawEndPos_ofList, utf8Len_append, Pos.Raw.mk_le_mk, utf8Len_nil]
      omega
    rw [String.splitOnAux, if_pos atEnd, extract_of_valid]
    simp
  | cons letter rest ih =>
    have inside : ¬ Pos.Raw.atEnd (ofList (front ++ word ++ letter :: rest))
        ⟨utf8Len front + utf8Len word⟩ = true := by
      have positive := letter.utf8Size_pos
      simp only [atEnd_iff, rawEndPos_ofList, utf8Len_append, utf8Len_cons, Pos.Raw.mk_le_mk]
      omega
    rw [String.splitOnAux, if_neg inside, get_behind]
    have sign : Pos.Raw.get " " 0 = ' ' := rfl
    by_cases space : letter = ' '
    · have width : letter.utf8Size = 1 := by rw [space]; rfl
      have behind : (⟨utf8Len front + utf8Len word + 1⟩ : Pos.Raw)
          = ⟨utf8Len (front ++ word ++ [letter])⟩ := by
        simp only [utf8Len_append, utf8Len_cons, utf8Len_nil, width, Nat.zero_add]
      have start : (⟨utf8Len front + utf8Len word + 1⟩ : Pos.Raw).unoffsetBy (Pos.Raw.next " " 0)
          = ⟨utf8Len front + utf8Len word⟩ := rfl
      have later := ih (front ++ word ++ [letter]) [] (ofList word :: done)
      rw [utf8Len_nil, Nat.add_zero, ← behind] at later
      rw [sign, if_pos (beq_iff_eq.mpr space), next_behind, width]
      simp only [start]
      rw [if_pos (by rfl), extract_of_valid]
      simp only [List.append_assoc, List.append_nil, List.cons_append, List.nil_append] at later ⊢
      rw [later]
      simp [List.splitOnPPrepend_cons_eq_if, space]
    · have later := ih front (word ++ [letter]) done
      have unmoved : (⟨utf8Len front + utf8Len word⟩ : Pos.Raw).unoffsetBy 0
          = ⟨utf8Len front + utf8Len word⟩ := rfl
      rw [sign, if_neg (by simpa using space), unmoved, next_behind]
      simp only [utf8Len_append, utf8Len_cons, utf8Len_nil, Nat.zero_add, List.append_assoc, List.cons_append,
        List.nil_append, ← Nat.add_assoc] at later ⊢
      rw [later]
      simp [List.splitOnPPrepend_cons_eq_if, space]

theorem splitOn_space (text : String) :
    text.splitOn " " = (text.toList.splitOnP (· = ' ')).map ofList := by
  have whole := splitOnAux_space [] [] text.toList []
  rw [List.nil_append, List.nil_append, ofList_toList] at whole
  exact whole

namespace PatternReader

theorem isBlank_eq (letter : Char) : isBlank letter = CodePointSet.containsNat
    [(0x9, 0xD), (0x20, 0x20), (0x85, 0x85), (0xA0, 0xA0), (0x1680, 0x1680), (0x2000, 0x200A),
      (0x2028, 0x2029), (0x202F, 0x202F), (0x205F, 0x205F), (0x3000, 0x3000)] letter.toNat := by
  have ranges : Unicode.whiteSpace.ranges = [(0x9, 0xD), (0x20, 0x20), (0x85, 0x85), (0xA0, 0xA0),
      (0x1680, 0x1680), (0x2000, 0x200A), (0x2028, 0x2029), (0x202F, 0x202F), (0x205F, 0x205F),
      (0x3000, 0x3000)] := by
    unfold Unicode.whiteSpace CodePointSet.ofLines
    simp only [List.flatMap_cons, List.flatMap_nil, splitOn_space]
    decide +kernel
  rw [isBlank, CodePointSet.contains, ranges]

theorem not_isBlank_close : isBlank ')' = false := by
  rw [isBlank_eq]
  decide

theorem not_isBlank_brace : isBlank '\x7b' = false := by
  rw [isBlank_eq]
  decide

end PatternReader

end Unannotate
