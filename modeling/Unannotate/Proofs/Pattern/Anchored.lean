import Mathlib
import Unannotate.Matcher
import Unannotate.Proofs.Pattern.Bounded

/-!
# Patterns between the ends of a candidate

A matcher puts the text of a pattern into a group between two anchors and reads the whole as one pattern.
What is read inside the group is what the text is read as alone, unless a comment at the end of the text
takes the end of the group, or a parenthesis in the text closes the group. A pattern with neither, and with
room for the group, makes a matcher, which accepts what the pattern matches from end to end.
-/
set_option autoImplicit false

namespace Unannotate

open PatternReader

/-- A piece in a group between the ends of a text. -/
def PatternReader.Piece.enclosed (piece : Piece) : Piece :=
  ⟨.append (.look .textStart) (.append piece.pattern (.look .textEnd)), piece.depth + 2⟩

namespace Pattern

/-- The piece that a text is read as to its end, however large and deep it is. -/
def read? (text : List Char) : Option Piece :=
  match body (text.length + 1) [] [] { rest := text } with
  | some (piece, state) => if state.rest = [] then some piece else none
  | none => none

/-- The text of a pattern in a group between the ends of a text. -/
def enclose (text : List Char) : List Char := '^' :: '(' :: '?' :: ':' :: (text ++ [')', '$'])

theorem read?_eq_some_iff {text : List Char} {piece : Piece} : read? text = some piece ↔
    ∃ state, body (text.length + 1) [] [] { rest := text } = some (piece, state) ∧ state.rest = [] := by
  unfold read?
  cases body (text.length + 1) [] [] { rest := text } with
  | none => simp
  | some result =>
    obtain ⟨found, state⟩ := result
    by_cases nothing : state.rest = [] <;> simp [nothing]

theorem parse?_eq_some_iff {text : List Char} {pattern : Pattern} : parse? text = some pattern ↔
    ∃ piece, read? text = some piece ∧ piece.depth ≤ maxDepth ∧ piece.pattern.size ≤ maxSize ∧
      piece.pattern = pattern := by
  unfold parse? read?
  cases body (text.length + 1) [] [] { rest := text } with
  | none => simp
  | some result =>
    obtain ⟨found, state⟩ := result
    by_cases nothing : state.rest = [] <;> simp [nothing, and_assoc]

/-! ## The text around a pattern -/

theorem body_enclosed (fuel : Nat) (text : List Char) :
    body (fuel + 2) [] [] { rest := '^' :: '(' :: '?' :: ':' :: text } =
      insideGroup (body fuel) {} [some ⟨.look .textStart, 0⟩] [] { rest := text } := rfl

theorem closeGroup_enclosed (fuel : Nat) (piece : Piece) {state : PatternState}
    (rest : state.rest = [')', '$']) :
    closeGroup (body (fuel + 2)) {} [some ⟨.look .textStart, 0⟩] [] piece state
      = some (piece.enclosed, { state with rest := [], flags := {} }) := by
  have depth : 1 + max (max (max 0 0) (piece.depth + 1)) 0 = piece.depth + 2 := by omega
  obtain ⟨text, flags, names⟩ := state
  cases rest
  rw [Piece.enclosed, ← depth]
  rfl

/-- A group is closed by a parenthesis. -/
theorem rest_of_closeGroup {again : BodyReader} {flags : PatternFlags} {items : List (Option Piece)}
    {branches : List Piece} {piece : Piece} {state : PatternState} {result : Piece × PatternState}
    (closed : closeGroup again flags items branches piece state = some result) :
    ∃ behind, state.rest = ')' :: behind := by
  obtain ⟨_, _, ⟨⟩, closed⟩ := bind_eq_some_iff.mp closed
  obtain ⟨_, _, expected, -⟩ := bind_eq_some_iff.mp closed
  obtain ⟨behind, rest⟩ := rest_of_expect expected
  exact ⟨behind, rest⟩

theorem length_enclose (text : List Char) : (enclose text).length = text.length + 6 := by
  simp [enclose]

/-- What is read inside the group, and how the group is closed. -/
theorem read?_enclose_eq_some_iff {text : List Char} {whole : Piece} : read? (enclose text) = some whole ↔
    ∃ piece state, body (text.length + 5) [] [] { rest := text ++ [')', '$'] } = some (piece, state) ∧
      ∃ last, closeGroup (body (text.length + 5)) {} [some ⟨.look .textStart, 0⟩] [] piece state
        = some (whole, last) ∧ last.rest = [] := by
  rw [read?_eq_some_iff, length_enclose, enclose, body_enclosed (text.length + 5), insideGroup]
  simp only [bind_eq_some_iff]
  constructor
  · rintro ⟨last, ⟨piece, state, inside, closed⟩, nothing⟩
    exact ⟨piece, state, inside, last, closed, nothing⟩
  · rintro ⟨piece, state, inside, last, closed, nothing⟩
    exact ⟨last, ⟨piece, state, inside, closed⟩, nothing⟩

/-- The end of the group is part of the pattern when that is read to the end of the text. -/
theorem read?_append_close_eq_some_iff {text : List Char} {piece : Piece} :
    read? (text ++ [')', '$']) = some piece ↔
      ∃ state, body (text.length + 5) [] [] { rest := text ++ [')', '$'] } = some (piece, state) ∧
        state.rest = [] := by
  have length : (text ++ [')', '$']).length = text.length + 2 := by simp
  have fuel : body (text.length + 5) [] [] { rest := text ++ [')', '$'] }
      = body (text.length + 2 + 1) [] [] { rest := text ++ [')', '$'] } :=
    alike_body (by omega) [] [] (show (text ++ [')', '$']).length < text.length + 2 + 1 by omega)
  rw [read?_eq_some_iff, length, fuel]

/-- Inside the group the text is read as it is alone, or past the end of the group. -/
theorem agrees_inside (text back : List Char) (more : Nat) :
    Agrees back Never (body (text.length + 1) [] [] { rest := text })
      (body (text.length + more + 1) [] [] { rest := text ++ ')' :: back }) :=
  (locals_body (Nat.le_add_right _ _) [] []).agrees { rest := text } (Nat.lt_succ_self text.length)

/-- A pattern that stands alone stands in the group, unless its last comment takes the end of the group. -/
theorem read?_enclose {text : List Char} {piece whole : Piece} (read : read? text = some piece) :
    read? (enclose text) = some whole ↔ piece.enclosed = whole ∧ read? (text ++ [')', '$']) = none := by
  obtain ⟨state, found, nothing⟩ := read?_eq_some_iff.mp read
  have parts := agrees_inside text ['$'] 4
  rw [read?_enclose_eq_some_iff, Option.eq_none_iff_forall_ne_some]
  simp only [ne_eq, read?_append_close_eq_some_iff]
  rw [found] at parts
  generalize body (text.length + 5) [] [] { rest := text ++ [')', '$'] } = within at parts
  cases parts with
  | same =>
    have rest : (state.before ['$']).rest = [')', '$'] := by rw [PatternState.before, nothing]; rfl
    constructor
    · rintro ⟨_, _, ⟨⟩, last, closed, -⟩
      rw [closeGroup_enclosed (text.length + 3) piece rest] at closed
      cases closed
      refine ⟨rfl, ?_⟩
      rintro _ ⟨_, ⟨⟩, none⟩
      rw [rest] at none
      cases none
    · rintro ⟨rfl, -⟩
      exact ⟨piece, _, rfl, _, closeGroup_enclosed (text.length + 3) piece rest, rfl⟩
  | beyond short ended =>
    obtain ⟨-, same⟩ := ended piece state rfl
    obtain rfl := same (by decide)
    constructor
    · rintro ⟨_, _, ⟨⟩, last, closed, -⟩
      obtain ⟨behind, rest⟩ := rest_of_closeGroup closed
      rw [nothing] at rest
      cases rest
    · rintro ⟨-, open'⟩
      exact absurd ⟨state, rfl, nothing⟩ (open' piece)

/-- Where a reader stops in front of a parenthesis, it has read what is in front to its end. -/
theorem read?_of_stopped {text back : List Char} {piece : Piece} {state : PatternState}
    (found : body (text.length + 1) [] [] { rest := text } = some (piece, state))
    (rest : state.rest = ')' :: back) :
    ∃ front, text = front ++ ')' :: back ∧ read? front = some piece := by
  obtain ⟨front, rfl⟩ : ')' :: back <:+ text := rest ▸ shrinks_body _ _ _ found
  have parts := agrees_inside front back (back.length + 1)
  have length : (front ++ ')' :: back).length = front.length + (back.length + 1) := List.length_append
  rw [← length, found] at parts
  refine ⟨front, rfl, ?_⟩
  generalize alone : body (front.length + 1) [] [] { rest := front } = result at parts
  cases parts with
  | same =>
    next stopped =>
    exact read?_eq_some_iff.mpr ⟨stopped, alone, List.append_left_eq_self.mp rest⟩
  | stuck nothing => exact nothing.elim
  | beyond short _ =>
    have fewer := (short piece state rfl).length_le
    rw [rest, List.length_cons] at fewer
    omega

/-- A text that does not stand alone, and stands in the group, closes the group. -/
theorem exists_closed_of_read?_enclose {text : List Char} {whole : Piece}
    (enclosed : read? (enclose text) = some whole) (unread : read? text = none) :
    ∃ front back, text = front ++ ')' :: back ∧ (read? front).isSome := by
  obtain ⟨piece, state, within, last, closed, -⟩ := read?_enclose_eq_some_iff.mp enclosed
  obtain ⟨behind, rest⟩ := rest_of_closeGroup closed
  have parts := agrees_inside text ['$'] 4
  rw [within] at parts
  generalize alone : body (text.length + 1) [] [] { rest := text } = result at parts
  cases parts with
  | same =>
    next stopped =>
    cases left : stopped.rest with
    | nil =>
      rw [read?_eq_some_iff.mpr ⟨stopped, alone, left⟩] at unread
      cases unread
    | cons first back =>
      rw [PatternState.before, left] at rest
      obtain ⟨rfl, -⟩ := List.cons.inj rest
      obtain ⟨front, split, read⟩ := read?_of_stopped alone left
      exact ⟨front, back, split, Option.isSome_of_eq_some read⟩
  | stuck nothing => exact nothing.elim
  | beyond short _ =>
    have member := (short piece state rfl).subset (rest ▸ List.mem_cons_self)
    simp at member

/-! ## Texts that keep to the group -/

/-- A group and two anchors around the text keep it within the limits. -/
def HasRoom (text : List Char) : Prop :=
  ∀ piece, read? text = some piece → piece.depth + 2 ≤ maxDepth ∧ piece.pattern.size + 2 ≤ maxSize

/-- A comment is open at the end of the text and takes what is put behind. -/
def EndsInComment (text : List Char) : Prop := (read? (text ++ [')', '$'])).isSome

/-- The text is no pattern, and in a group a parenthesis of it closes that group. -/
def ClosesGroup (text : List Char) : Prop :=
  read? text = none ∧ ∃ front back, text = front ++ ')' :: back ∧ (read? front).isSome

theorem Piece.bounded_of_read? {text : List Char} {piece : Piece} (read : read? text = some piece) :
    piece.pattern.Bounded := by
  have every : Yields Piece.Bounded (body (text.length + 1) [] []) :=
    yields_body _ (fun _ member => nomatch member) fun _ member => nomatch member
  obtain ⟨state, found, -⟩ := read?_eq_some_iff.mp read
  exact every found

/-- What an enclosed text matches anywhere, the text matches from end to end. -/
theorem occursIn_enclosed_iff {text : List Char} {piece : Piece} (read : read? text = some piece)
    (candidate : List Char) : piece.enclosed.pattern.occursIn candidate = true ↔
      Matches candidate piece.pattern 0 candidate.length := by
  have bounded : piece.enclosed.pattern.Bounded := ⟨trivial, Piece.bounded_of_read? read, trivial⟩
  rw [occursIn_iff bounded]
  constructor
  · rintro ⟨start, stop, inside, found⟩
    exact ((matches_between_ends_iff inside).mp found).2.2
  · intro found
    have inside := Nat.zero_le candidate.length
    exact ⟨0, candidate.length, inside, (matches_between_ends_iff inside).mpr ⟨rfl, rfl, found⟩⟩

end Pattern

namespace Matcher

open Pattern

theorem toList_anchored (text : String) : (anchored text).toList = enclose text.toList := by
  simp [anchored, enclose]

theorem ofPattern?_eq_some_iff {text : String} {matcher : Matcher} : ofPattern? text = some matcher ↔
    ∃ whole, read? (enclose text.toList) = some whole ∧ whole.depth ≤ maxDepth ∧
      whole.pattern.size ≤ maxSize ∧ regex text whole.pattern = matcher := by
  rw [ofPattern?, toList_anchored]
  simp only [Option.map_eq_some_iff, parse?_eq_some_iff]
  constructor
  · rintro ⟨_, ⟨whole, read, deep, large, rfl⟩, made⟩
    exact ⟨whole, read, deep, large, made⟩
  · rintro ⟨whole, read, deep, large, made⟩
    exact ⟨whole.pattern, ⟨whole, read, deep, large, rfl⟩, made⟩

theorem size_enclosed (piece : Piece) : piece.enclosed.pattern.size = piece.pattern.size + 2 := by
  simp only [Piece.enclosed, size]
  omega

/-- A text that is a pattern makes a matcher when there is room for the group and no comment is open at its
end. -/
theorem ofPattern?_eq_some_iff_of_read? {text : String} {matcher : Matcher} {piece : Piece}
    (read : read? text.toList = some piece) : ofPattern? text = some matcher ↔
      HasRoom text.toList ∧ ¬EndsInComment text.toList ∧ regex text piece.enclosed.pattern = matcher := by
  have room : HasRoom text.toList ↔
      piece.enclosed.depth ≤ maxDepth ∧ piece.enclosed.pattern.size ≤ maxSize := by
    rw [HasRoom, read, size_enclosed]
    simp [Piece.enclosed]
  have closed : ¬EndsInComment text.toList ↔ read? (text.toList ++ [')', '$']) = none := by
    rw [EndsInComment, Option.not_isSome_iff_eq_none]
  rw [ofPattern?_eq_some_iff, room, closed]
  simp only [read?_enclose read]
  constructor
  · rintro ⟨_, ⟨rfl, alone⟩, deep, large, made⟩
    exact ⟨⟨deep, large⟩, alone, made⟩
  · rintro ⟨⟨deep, large⟩, alone, made⟩
    exact ⟨_, ⟨rfl, alone⟩, deep, large, made⟩

theorem isSome_parse?_of_read? {text : List Char} {piece : Piece} (read : read? text = some piece)
    (room : HasRoom text) : (parse? text).isSome := by
  obtain ⟨deep, large⟩ := room piece read
  exact Option.isSome_of_eq_some
    (parse?_eq_some_iff.mpr ⟨piece, read, Nat.le_of_add_right_le deep, Nat.le_of_add_right_le large, rfl⟩)

end Matcher

end Unannotate
