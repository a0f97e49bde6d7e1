import Mathlib.Data.List.TakeWhile
import Unannotate.Proofs.Pattern.Classes

/-!
# Classes, groups and whole patterns in front of a closing parenthesis

Readers of items that are put together, up to the reader of a whole pattern: each finds in front of a
closing parenthesis what it finds alone, or it runs past the parenthesis. A class that is still open at
the end of the text takes the parenthesis for an item.
-/
set_option autoImplicit false

namespace Unannotate.PatternReader

variable {α β : Type} {back : List Char} {starts : PatternState → Prop}

/-! ## Groups -/

theorem groupName_of_mark {name behind : List Char} {state : PatternState} (unmarked : '>' ∉ name)
    (rest : state.rest = name ++ '>' :: behind) :
    groupName state = if name.head?.any isNameStart ∧ name.tail.all isNamePart ∧ name ∉ state.names
      then some ((), { state with rest := behind, names := name :: state.names }) else none := by
  have taken : state.rest.takeWhile (· ≠ '>') = name := by
    rw [rest, List.takeWhile_append_of_pos, List.takeWhile_cons_of_neg (by simp), List.append_nil]
    intro letter member
    exact decide_eq_true fun same => unmarked (same ▸ member)
  rw [groupName, get_bind, taken, rest, List.drop_left]
  cases name with
  | nil => rfl
  | cons first others =>
    by_cases allowed : isNameStart first = true ∧ others.all isNamePart = true ∧ first :: others ∉ state.names
    · refine Eq.trans ?_ (if_pos allowed).symm
      simp only [if_pos allowed]
      rfl
    · refine Eq.trans ?_ (if_neg allowed).symm
      simp only [if_neg allowed]
      rfl

theorem groupName_of_no_mark {state : PatternState} (unmarked : '>' ∉ state.rest) :
    groupName state = none := by
  have taken : state.rest.takeWhile (· ≠ '>') = state.rest := by
    refine List.takeWhile_eq_self_iff.mpr fun letter member => ?_
    exact decide_eq_true fun same => unmarked (same ▸ member)
  rw [groupName, get_bind, taken, List.drop_length]
  cases state.rest <;> rfl

theorem local_groupName : Local back starts groupName := by
  refine ⟨shrinks_groupName, fun state _ => ?_⟩
  have whole : (state.before back).rest = state.rest ++ ')' :: back := rfl
  by_cases mark : '>' ∈ state.rest
  · obtain ⟨name, behind, rest, unmarked⟩ := List.eq_append_cons_of_mem mark
    have rest' : (state.before back).rest = name ++ '>' :: (behind ++ ')' :: back) := by
      rw [whole, rest]
      simp
    rw [groupName_of_mark unmarked rest, groupName_of_mark unmarked rest']
    have names : (state.before back).names = state.names := rfl
    rw [names]
    split_ifs
    · exact .same () { state with rest := behind, names := name :: state.names }
    · exact .of_none
  · rw [groupName_of_no_mark mark]
    refine .beyond (fun value after found => ?_) fun _ _ found => nomatch found
    by_cases later : '>' ∈ back
    · obtain ⟨name, behind, rest, unmarked⟩ := List.eq_append_cons_of_mem later
      have rest' : (state.before back).rest = (state.rest ++ ')' :: name) ++ '>' :: behind := by
        rw [whole, rest]
        simp
      rw [groupName_of_mark (by simp [mark, unmarked]) rest'] at found
      split_ifs at found
      cases found
      rw [rest]
      exact (List.suffix_cons '>' behind).trans (List.suffix_append name _)
    · rw [groupName_of_no_mark (by simp [whole, mark, later])] at found
      cases found

/-- Flags are read as they are alone, or the parenthesis ends them. -/
theorem readFlags_append (back text seen : List Char) (flags : PatternFlags) :
    readFlags (text ++ ')' :: back) seen flags
        = (readFlags text seen flags).map (fun found => (found.1, found.2.1, found.2.2 ++ ')' :: back)) ∨
      readFlags text seen flags = none ∧ ∀ final last behind,
        readFlags (text ++ ')' :: back) seen flags = some (final, last, behind) →
          behind <:+ ')' :: back := by
  induction text generalizing seen flags with
  | nil =>
    refine .inr ⟨rfl, fun final last behind found => ?_⟩
    exact behind_readFlags_suffix found
  | cons letter rest ih =>
    rw [List.cons_append, readFlags, readFlags]
    split_ifs
    · exact .inl rfl
    · exact .inl rfl
    · exact .inl rfl
    · exact ih _ _
    · cases setFlag flags letter ('-' ∉ seen) with
      | none => exact .inl rfl
      | some flags => exact ih _ _

theorem behind_readFlags {text seen last behind : List Char} {flags final : PatternFlags}
    (found : readFlags text seen flags = some (final, last, behind)) :
    (∃ rest, behind = ':' :: rest) ∨ ∃ rest, behind = ')' :: rest := by
  induction text generalizing seen flags with
  | nil => cases found
  | cons letter rest ih =>
    rw [readFlags] at found
    split_ifs at found with ends
    · cases found
      exact ends.imp (fun same => ⟨rest, by rw [same]⟩) fun same => ⟨rest, by rw [same]⟩
    · exact ih found
    · split at found
      · exact ih found
      · cases found

theorem local_flagGroup (flags : PatternFlags) : Local back starts (flagGroup flags) := by
  refine ⟨shrinks_flagGroup flags, fun state _ => ?_⟩
  have whole : (state.before back).rest = state.rest ++ ')' :: back := rfl
  rw [flagGroup, get_bind, get_bind, whole]
  rcases readFlags_append back state.rest [] flags with same | ⟨none, past⟩
  · rw [same]
    cases found : readFlags state.rest [] flags with
    | none => exact .of_none
    | some result =>
      obtain ⟨final, seen, behind⟩ := result
      rcases behind_readFlags found with ⟨behind, rfl⟩ | ⟨behind, rfl⟩
      · exact .same _ { state with rest := behind }
      · cases seen with
        | nil => exact .of_none
        | cons letter others => exact .same _ { state with rest := behind }
  · rw [none]
    cases found : readFlags (state.rest ++ ')' :: back) [] flags with
    | none => exact .of_none
    | some result =>
      obtain ⟨final, seen, behind⟩ := result
      have short := past _ _ _ found
      refine .beyond (fun value after read => ?_) fun _ _ found => nomatch found
      rcases behind_readFlags found with ⟨behind, rfl⟩ | ⟨behind, rfl⟩
      · cases read
        exact tail_suffix_tail short
      · cases seen with
        | nil => cases read
        | cons letter others =>
          cases read
          exact tail_suffix_tail short

theorem looksAround_append (text : List Char) : looksAround (text ++ ')' :: back) = looksAround text := by
  simp only [looksAround, List.any_cons, List.any_nil]
  repeat rw [isPrefixOf_append (by decide)]

theorem local_plainGroupStart (flags : PatternFlags) : Local back starts (plainGroupStart flags) := by
  refine (local_skipText (by decide)).bind fun _ => ?_
  split_ifs
  · exact local_groupName.bind fun _ => local_pure _
  · refine (local_skipText (by decide)).bind fun _ => ?_
    split_ifs
    · exact local_groupName.bind fun _ => local_pure _
    · refine (local_skipText (by decide)).bind fun _ => ?_
      split_ifs
      · exact local_flagGroup flags
      · exact local_pure _

theorem local_groupStart : Local back starts groupStart := by
  rw [groupStart_eq]
  refine local_space.bind fun _ => ⟨?_, fun state starting => ?_⟩
  · refine shrinks_get.bind fun state => ?_
    split_ifs
    · exact shrinks_refuse
    · exact shrinks_plainGroupStart _
  · have whole : looksAround (state.before back).rest = looksAround state.rest := looksAround_append state.rest
    rw [get_bind, get_bind, whole]
    split_ifs
    · exact .of_none
    · have locals : Local back (fun _ => True) (plainGroupStart state.flags) :=
        local_plainGroupStart state.flags
      exact locals.agrees state trivial

/-! ## Patterns -/

theorem local_orRefuse (found : Option α) : Local back starts (orRefuse found) := by
  cases found with
  | some value => exact local_pure value
  | none => exact local_refuse

theorem locals_primitive : Locals back (fun _ => OpensBrace) starts primitive primitive := by
  refine Locals.flags_bind fun flags => local_next.andThen (fun letter => ?_) fun _ _ _ => rfl
  split
  · refine Locals.bind locals_escape (fun found => Local.weaken ?_) ?_ fun _ _ _ => rfl
    · split
      · split_ifs
        · exact local_orRefuse _
        · exact local_refuse
      · exact local_pure _
      · exact local_pure _
    · rintro _ state ⟨⟨condition, rfl⟩, opens⟩
      exact .stuck opens
  · refine Local.weaken ?_
    split_ifs
    · exact local_pure _
    · exact local_refuse
  · exact (local_pure _).weaken
  · exact (local_pure _).weaken
  · exact (local_orRefuse _).weaken

theorem local_skipLazySign : Local back starts skipLazySign := by
  refine Local.peek_bind (fun sign => ?_) ?_ rfl
  · split_ifs
    · exact local_dropNext
    · exact local_pure _
  · exact local_pure _

theorem local_repetitionBounds : Local back starts repetitionBounds := by
  have limited (found : Option Nat) (starts : PatternState → Prop) : Local back starts (do
      let least ← orRefuse found
      let most ← orRefuse (← decimal)
      if least ≤ most then return (least, some most) else refuse) := by
    refine (local_orRefuse _).bind fun least => local_decimal.bind fun most =>
      (local_orRefuse _).bind fun most => ?_
    split_ifs
    · exact local_pure _
    · exact local_refuse
  refine local_decimal.bind fun least => Local.peek_bind (fun sign => ?_) ?_ rfl
  · split
    · refine local_passNext.bind fun _ => Local.peek_bind (fun sign => ?_) (limited _ _) rfl
      split
      · exact (local_orRefuse _).bind fun _ => local_pure _
      · exact limited _ _
    · exact (local_orRefuse _).bind fun _ => local_pure _
  · exact (local_orRefuse _).bind fun _ => local_pure _

theorem local_repetition {character : Char} (sign : Char) :
    Local back (fun state => starts state ∧ state.rest.head? = some character) (repetition sign) := by
  unfold repetition
  split
  · exact local_dropNext.bind fun _ => local_skipLazySign.bind fun _ => local_pure _
  · exact local_dropNext.bind fun _ => local_skipLazySign.bind fun _ => local_pure _
  · exact local_dropNext.bind fun _ => local_skipLazySign.bind fun _ => local_pure _
  · refine local_passNext.bind fun _ => local_repetitionBounds.bind fun bounds =>
      Local.peek_bind (fun sign => ?_) ?_ rfl
    · split_ifs
      · exact local_refuse
      · exact local_passNext.bind fun _ => local_skipLazySign.bind fun _ => local_pure _
    · exact local_refuse

theorem needsText_repetitionBounds : NeedsText repetitionBounds := by
  intro state nothing
  rw [repetitionBounds, bind_of_eq_some (decimal_of_nil nothing), peek_bind]
  rfl

/-- There is no number in a brace that stands open. -/
theorem repetition_of_opensBrace {state : PatternState} (opens : OpensBrace state) :
    repetition '\x7b' state = none := by
  obtain ⟨after, passed⟩ := pass_eq state
  refine (bind_of_eq_some passed).trans ?_
  exact needsText_repetitionBounds.bind _ (opens.2 after passed)

/-- An item behind which a brace stands open cannot be repeated. -/
theorem agrees_body_of_opensBrace (fuel : Nat) (piece : Piece) (items : List (Option Piece))
    (branches : List Piece) {state : PatternState} (opens : OpensBrace state) :
    Agrees back Never none (body fuel (some piece :: items) branches (state.before back)) := by
  cases fuel with
  | zero => exact .of_none
  | succ fuel =>
    have front : (state.before back).rest.head? = some '\x7b' := by
      rw [head?_before, opens.1]
      rfl
    have repeats : Local back (fun state => True ∧ state.rest.head? = some '\x7b') (repetition '\x7b') :=
      local_repetition _
    have parts := repeats.agrees state ⟨trivial, opens.1⟩
    rw [body, bind_of_eq_some (space_of_sign front not_isBlank_brace (by decide)), flags_bind, peek_bind, front]
    change Agrees back Never none ((repetition '\x7b' >>= fun bounds =>
      body fuel (some (piece.repeated bounds.1 bounds.2) :: items) branches) (state.before back))
    rw [repetition_of_opensBrace opens] at parts
    exact parts.bind_none fun bounds => shrinks_body _ _ _

/-- How a pattern goes on after items and branches. -/
abbrev BodyReader : Type := List (Option Piece) → List Piece → PatternReader Piece

section BodySteps

variable (again : BodyReader) (flags : PatternFlags) (items : List (Option Piece)) (branches : List Piece)

/-- The end of a group that holds `piece`, and the rest of the pattern. -/
def closeGroup (piece : Piece) : PatternReader Piece := do
  setFlags flags
  expect ')'
  again (some ⟨piece.pattern, piece.depth + 1⟩ :: items) branches

/-- A group, after its start, and the rest of the pattern. -/
def insideGroup : PatternReader Piece := do
  let piece ← again [] []
  closeGroup again flags items branches piece

/-- Flags or a group, after its start, and the rest of the pattern. -/
def groupBody : GroupStart → PatternReader Piece
  | .flags inner => do
    setFlags inner
    again (none :: items) branches
  | .group inner => do
    setFlags inner
    insideGroup again flags items branches

/-- A class in brackets, after its bracket, and the rest of the pattern. -/
def bracketBody : PatternReader Piece := do
  let (negated, started) ← classStart
  let piece ← classBody ((← get).rest.length + 1) negated started none
  again (some ⟨.oneOf piece.set, piece.depth⟩ :: items) branches

/-- A repetition sign and the rest of the pattern. -/
def repetitionBody (sign : Char) : PatternReader Piece :=
  match items with
  | some piece :: before => do
    let (least, most) ← repetition sign
    again (some (piece.repeated least most) :: before) branches
  | _ => refuse

/-- What a pattern goes on with. -/
def bodyStep : PatternReader Piece := do
  space
  let flags ← PatternReader.flags
  match ← peek with
  | none | some ')' => return .eitherOf (.appendAll items :: branches)
  | some '|' =>
    drop 1
    again [] (.appendAll items :: branches)
  | some '(' =>
    drop 1
    let start ← groupStart
    groupBody again flags items branches start
  | some '[' =>
    drop 1
    bracketBody again items branches
  | some sign =>
    if sign ∈ ['?', '*', '+', '\x7b'] then repetitionBody again items branches sign
    else
      let pattern ← primitive
      again (some ⟨pattern, 0⟩ :: items) branches

theorem body_succ (fuel : Nat) : body (fuel + 1) items branches = bodyStep (body fuel) items branches := rfl

section Fuel

variable {bound : Nat} {again} {counterpart : BodyReader}
  (shrinks : ∀ items branches, Shrinks (again items branches))
  (alike : ∀ items branches, Alike (fun state => state.rest.length < bound) (again items branches)
    (counterpart items branches))
include shrinks alike

omit shrinks in
theorem alike_closeGroup (piece : Piece) : Alike (fun state => state.rest.length < bound)
    (closeGroup again flags items branches piece) (closeGroup counterpart flags items branches piece) := by
  refine Alike.behind fun _ => Alike.mono (Alike.behind fun _ => (alike _ _).mono ?_)
    ((shrinks_setFlags _).bounded fun _ short => short)
  exact (consumes_expect _).shrinks.bounded fun _ short => short

theorem alike_insideGroup : Alike (fun state => state.rest.length < bound)
    (insideGroup again flags items branches) (insideGroup counterpart flags items branches) :=
  (alike [] []).bind fun piece => (alike_closeGroup flags items branches alike piece).mono
    ((shrinks [] []).bounded fun _ short => short)

theorem alike_groupBody (start : GroupStart) : Alike (fun state => state.rest.length < bound)
    (groupBody again flags items branches start) (groupBody counterpart flags items branches start) := by
  cases start with
  | flags inner =>
    exact Alike.behind fun _ => (alike _ _).mono ((shrinks_setFlags _).bounded fun _ short => short)
  | group inner =>
    exact Alike.behind fun _ => (alike_insideGroup flags items branches shrinks alike).mono
      ((shrinks_setFlags _).bounded fun _ short => short)

omit shrinks in
theorem alike_bracketBody : Alike (fun state => state.rest.length < bound)
    (bracketBody again items branches) (bracketBody counterpart items branches) := by
  refine Alike.behind fun start => Alike.mono (Alike.behind fun state => Alike.mono (Alike.behind fun piece =>
    (alike _ _).mono ?_) (shrinks_get.bounded fun _ short => short))
    (shrinks_classStart.bounded fun _ short => short)
  exact (consumes_classBody _ _ _ _).shrinks.bounded fun _ short => short

omit shrinks in
theorem alike_repetitionBody (sign : Char) :
    Alike (fun state => state.rest.length < bound + 1 ∧ state.rest.head? = some sign)
      (repetitionBody again items branches sign) (repetitionBody counterpart items branches sign) := by
  unfold repetitionBody
  split
  · refine Alike.behind fun bounds => (alike _ _).mono ?_
    exact (consumes_repetition sign).bounded fun _ front => ⟨front.1, length_pos_of_head? front.2⟩
  · exact fun _ _ => rfl

theorem alike_bodyStep : Alike (fun state => state.rest.length < bound + 1)
    (bodyStep again items branches) (bodyStep counterpart items branches) := by
  have dropped {sign : Char} : ∀ state, (∃ start, (start.rest.length < bound + 1 ∧
      start.rest.head? = some sign) ∧ drop 1 start = some ((), state)) → state.rest.length < bound :=
    (consumes_drop 0).bounded fun _ front => ⟨front.1, length_pos_of_head? front.2⟩
  refine Alike.behind fun _ => Alike.mono (Alike.flags_bind fun flags => Alike.peek_bind fun found => ?_)
    (shrinks_space.bounded fun _ short => short)
  split
  · exact fun _ _ => rfl
  · exact fun _ _ => rfl
  · exact Alike.behind fun _ => (alike _ _).mono dropped
  · refine Alike.behind fun _ => Alike.mono (Alike.behind fun start => ?_) dropped
    exact (alike_groupBody _ _ _ shrinks alike start).mono
      (shrinks_groupStart.bounded fun _ short => short)
  · exact Alike.behind fun _ => (alike_bracketBody items branches alike).mono dropped
  · split_ifs
    · exact alike_repetitionBody items branches alike _
    · refine Alike.behind fun _ => (alike _ _).mono ?_
      exact consumes_primitive.bounded fun _ front => ⟨front.1, length_pos_of_head? front.2⟩

end Fuel

section Locality

variable {bound : Nat} {again} {counterpart : BodyReader}
  (shrinks : ∀ items branches, Shrinks (again items branches))
  (alike : ∀ items branches, Alike (fun state => state.rest.length < 1) (again items branches)
    (counterpart items branches))
  (locals : ∀ items branches, Locals back Never (fun state => state.rest.length < bound)
    (again items branches) (counterpart items branches))
include alike locals

theorem locals_closeGroup (piece : Piece) : Locals back Never (fun state => state.rest.length < bound)
    (closeGroup again flags items branches piece) (closeGroup counterpart flags items branches piece) := by
  have behind : Locals back Never (fun state => state.rest.length < bound)
      (expect ')' >>= fun _ => again (some ⟨piece.pattern, piece.depth + 1⟩ :: items) branches)
      (expect ')' >>= fun _ => counterpart (some ⟨piece.pattern, piece.depth + 1⟩ :: items) branches) :=
    (local_expect _).andThen
      (fun _ => (locals _ _).mono ((consumes_expect _).shrinks.bounded fun _ short => short))
      fun _ => (alike _ _).atEnd
  exact (local_setFlags flags).andThen
    (fun _ => behind.mono ((shrinks_setFlags _).bounded fun _ short => short))
    fun _ => ((needsText_expect ')').bind _).congr ((needsText_expect ')').bind _)

include shrinks

theorem locals_insideGroup : Locals back Never (fun state => state.rest.length < bound)
    (insideGroup again flags items branches) (insideGroup counterpart flags items branches) :=
  (locals [] []).bind
    (fun piece => (locals_closeGroup flags items branches alike locals piece).mono
      ((shrinks [] []).bounded fun _ short => short))
    (fun _ _ nothing => nothing.elim) fun piece => (alike_closeGroup flags items branches alike piece).atEnd

theorem locals_groupBody (start : GroupStart) : Locals back Never (fun state => state.rest.length < bound)
    (groupBody again flags items branches start) (groupBody counterpart flags items branches start) := by
  cases start with
  | flags inner =>
    exact (local_setFlags inner).andThen
      (fun _ => (locals _ _).mono ((shrinks_setFlags _).bounded fun _ short => short))
      fun _ => (alike _ _).atEnd
  | group inner =>
    exact (local_setFlags inner).andThen
      (fun _ => (locals_insideGroup flags items branches shrinks alike locals).mono
        ((shrinks_setFlags _).bounded fun _ short => short))
      fun _ => (alike_insideGroup flags items branches shrinks alike).atEnd

omit shrinks in
theorem locals_bracketBody : Locals back Never (fun state => state.rest.length < bound)
    (bracketBody again items branches) (bracketBody counterpart items branches) := by
  have inside (start : Bool × List ClassPiece) (left : Nat) :
      Locals back Never (fun state => state.rest.length < bound ∧ state.rest.length = left)
        (classBody (left + 1) start.1 start.2 none >>= fun piece =>
          again (some ⟨.oneOf piece.set, piece.depth⟩ :: items) branches)
        (classBody (left + (back.length + 1) + 1) start.1 start.2 none >>= fun piece =>
          counterpart (some ⟨.oneOf piece.set, piece.depth⟩ :: items) branches) := by
    refine Locals.bind ((locals_classBody (by omega) _ _ _).mono fun state front => by omega)
      (fun piece => (locals _ _).mono ?_) (fun _ _ nothing => nothing.elim) fun _ => (alike _ _).atEnd
    exact (consumes_classBody _ _ _ _).shrinks.bounded fun _ front => front.1
  refine local_classStart.andThen (fun start => Locals.mono (Locals.length_bind
    (fun left => classBody (left + 1) start.1 start.2 none >>= fun piece =>
      again (some ⟨.oneOf piece.set, piece.depth⟩ :: items) branches)
    (fun left => classBody (left + 1) start.1 start.2 none >>= fun piece =>
      counterpart (some ⟨.oneOf piece.set, piece.depth⟩ :: items) branches)
    (fun left => inside start left) fun left => ?_)
    (shrinks_classStart.bounded fun _ short => short)) fun start => ?_
  · exact (consumes_classBody _ _ _ _).shrinks.bind fun _ => (locals _ _).shrinks
  · exact (shrinks_get.needsText_bind fun _ => (needsText_classBody _ _ _ _).bind _).congr
      (shrinks_get.needsText_bind fun _ => (needsText_classBody _ _ _ _).bind _)

omit shrinks in
theorem locals_repetitionBody (sign : Char) :
    Locals back Never (fun state => state.rest.length < bound + 1 ∧ state.rest.head? = some sign)
      (repetitionBody again items branches sign) (repetitionBody counterpart items branches sign) := by
  unfold repetitionBody
  split
  · refine Local.andThen (local_repetition sign) (fun bounds => (locals _ _).mono ?_)
      fun _ => (alike _ _).atEnd
    exact (consumes_repetition sign).bounded fun _ front => ⟨front.1, length_pos_of_head? front.2⟩
  · exact local_refuse

theorem locals_bodyStep (stuck : ∀ piece items branches state, OpensBrace state →
      Agrees back Never none (counterpart (some piece :: items) branches (state.before back))) :
    Locals back Never (fun state => state.rest.length < bound + 1) (bodyStep again items branches)
      (bodyStep counterpart items branches) := by
  have spaced : ∀ state, (∃ start, start.rest.length < bound + 1 ∧ space start = some ((), state)) →
      state.rest.length < bound + 1 := shrinks_space.bounded fun _ short => short
  have below {sign : Char} : ∀ state, (∃ start,
      (start.rest.length < bound + 1 ∧ start.rest.head? = some sign) ∧ drop 1 start = some ((), state)) →
      state.rest.length < bound :=
    (consumes_drop 0).bounded fun _ front => ⟨front.1, length_pos_of_head? front.2⟩
  have unflagged (flags sign) : ∀ state : PatternState,
      (state.rest.length < bound + 1 ∧ state.flags = flags) ∧ state.rest.head? = some sign →
        state.rest.length < bound + 1 ∧ state.rest.head? = some sign := fun _ front => ⟨front.1.1, front.2⟩
  refine local_space.andThen (fun _ => Locals.mono (Locals.flags_bind fun flags => ?_) spaced) ?_
  · refine Locals.peek_bind (fun sign => Locals.mono ?_ (unflagged flags sign)) (local_pure _) (shrinks_pure _)
    split
    · next impossible => cases impossible
    · exact local_pure _
    · exact local_dropNext.andThen (fun _ => (locals _ _).mono below) fun _ => (alike _ _).atEnd
    · have opened : Locals back Never (fun state => state.rest.length < bound)
          (groupStart >>= groupBody again flags items branches)
          (groupStart >>= groupBody counterpart flags items branches) :=
        local_groupStart.andThen
          (fun start => (locals_groupBody flags items branches shrinks alike locals start).mono
            (shrinks_groupStart.bounded fun _ short => short))
          fun start => (alike_groupBody flags items branches shrinks alike start).atEnd
      have grouped : Alike (fun state => state.rest.length < 1)
          (groupStart >>= groupBody again flags items branches)
          (groupStart >>= groupBody counterpart flags items branches) :=
        Alike.behind fun start => (alike_groupBody flags items branches shrinks alike start).mono
          (shrinks_groupStart.bounded fun _ short => short)
      exact local_dropNext.andThen (fun _ => opened.mono below) fun _ => grouped.atEnd
    · exact local_dropNext.andThen
        (fun _ => (locals_bracketBody items branches alike locals).mono below)
        fun _ => (alike_bracketBody items branches alike).atEnd
    · next shown =>
      cases shown
      split_ifs
      · exact locals_repetitionBody items branches alike locals _
      · refine Locals.bind locals_primitive (fun pattern => (locals _ _).mono ?_)
          (fun _ state opens => stuck _ _ _ state opens) fun _ => (alike _ _).atEnd
        exact consumes_primitive.bounded fun _ front => ⟨front.1, length_pos_of_head? front.2⟩
  · intro _ state nothing
    rw [flags_bind, flags_bind, peek_bind, peek_bind, nothing]
    rfl

end Locality

end BodySteps

/-- More fuel than there is text makes no difference. -/
theorem alike_body {fuel more : Nat} (enough : fuel ≤ more) (items : List (Option Piece))
    (branches : List Piece) :
    Alike (fun state => state.rest.length < fuel) (body fuel items branches) (body more items branches) := by
  induction fuel generalizing more items branches with
  | zero => exact fun _ short => absurd short (Nat.not_lt_zero _)
  | succ fuel ih =>
    obtain ⟨more, rfl⟩ := Nat.exists_eq_add_of_le' (Nat.one_le_of_lt enough)
    rw [body_succ, body_succ]
    exact alike_bodyStep items branches (shrinks_body fuel) fun items branches =>
      ih (Nat.le_of_succ_le_succ enough) items branches

theorem locals_body {fuel more : Nat} (enough : fuel ≤ more) (items : List (Option Piece))
    (branches : List Piece) : Locals back Never (fun state => state.rest.length < fuel + 1)
      (body (fuel + 1) items branches) (body (more + 1) items branches) := by
  induction fuel generalizing more items branches with
  | zero =>
    refine ⟨shrinks_body _ _ _, fun state short => ?_⟩
    have nothing : state.rest = [] := List.eq_nil_of_length_eq_zero (Nat.lt_one_iff.mp short)
    have front : (state.before back).rest.head? = some ')' := by
      rw [head?_before, nothing]
      rfl
    have alone : body 1 items branches state = some (.eitherOf (.appendAll items :: branches), state) := by
      rw [body, bind_of_eq_some (space_of_nil nothing), flags_bind, peek_bind, nothing]
      rfl
    rw [Nat.zero_add, alone, body, bind_of_eq_some (space_of_sign front not_isBlank_close (by decide)),
      flags_bind, peek_bind, front]
    exact .same _ state
  | succ fuel ih =>
    obtain ⟨more, rfl⟩ := Nat.exists_eq_add_of_le' (Nat.one_le_of_lt enough)
    rw [body_succ, body_succ]
    have enough := Nat.le_of_succ_le_succ enough
    refine locals_bodyStep items branches (shrinks_body (fuel + 1)) (fun items branches => ?_)
      (fun items branches => ih enough items branches)
      fun piece items branches state => agrees_body_of_opensBrace _ piece items branches
    exact (alike_body (Nat.succ_le_succ enough) items branches).mono fun state short =>
      Nat.lt_of_lt_of_le short (Nat.succ_pos fuel)

end Unannotate.PatternReader
