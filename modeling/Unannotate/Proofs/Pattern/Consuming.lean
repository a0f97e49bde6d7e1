import Mathlib.Tactic.SplitIfs
import Unannotate.Pattern.Parser

/-!
# Readers of patterns do not put text back

What is left of the text after a reader is an end of what was there before, and readers that pass a
character leave an end of what is behind it. Blanks, comments and lookahead make no difference to this.
-/
set_option autoImplicit false

namespace Unannotate.PatternReader

variable {α β : Type}

/-- What is left is an end of what was there. -/
def Shrinks (reader : PatternReader α) : Prop :=
  ∀ ⦃state : PatternState⦄ ⦃value : α⦄ ⦃after : PatternState⦄,
    reader state = some (value, after) → after.rest <:+ state.rest

/-- What is left is an end of what was behind the next character, if there was any. -/
def Consumes (reader : PatternReader α) : Prop :=
  ∀ ⦃state : PatternState⦄ ⦃value : α⦄ ⦃after : PatternState⦄,
    reader state = some (value, after) → after.rest <:+ state.rest.tail

theorem bind_eq_some_iff {first : PatternReader α} {next : α → PatternReader β} {state : PatternState}
    {result : β × PatternState} :
    (first >>= next) state = some result ↔
      ∃ value middle, first state = some (value, middle) ∧ next value middle = some result := by
  change (first state).bind (fun outcome => next outcome.1 outcome.2) = some result ↔ _
  rw [Option.bind_eq_some_iff, Prod.exists]

theorem bind_of_eq_some {first : PatternReader α} {next : α → PatternReader β} {state after : PatternState}
    {value : α} (found : first state = some (value, after)) :
    (first >>= next) state = next value after := by
  change (first state).bind (fun outcome => next outcome.1 outcome.2) = _
  rw [found]
  rfl

theorem bind_of_eq_none {first : PatternReader α} {next : α → PatternReader β} {state : PatternState}
    (found : first state = none) : (first >>= next) state = none := by
  change (first state).bind (fun outcome => next outcome.1 outcome.2) = _
  rw [found]
  rfl

theorem get_bind (next : PatternState → PatternReader β) (state : PatternState) :
    (get >>= next) state = next state state := rfl

theorem modify_bind (change : PatternState → PatternState) (next : PUnit → PatternReader β)
    (state : PatternState) : (modify change >>= next) state = next ⟨⟩ (change state) := rfl

theorem flags_bind (next : PatternFlags → PatternReader β) (state : PatternState) :
    (flags >>= next) state = next state.flags state := rfl

theorem peek_bind (next : Option Char → PatternReader β) (state : PatternState) :
    (peek >>= next) state = next state.rest.head? state := rfl

/-! ## Readers put together -/

theorem tail_suffix_tail {text whole : List α} (short : text <:+ whole) : text.tail <:+ whole.tail := by
  obtain ⟨front, rfl⟩ := short
  cases front with
  | nil => exact List.suffix_rfl
  | cons first others => exact (List.tail_suffix text).trans (List.suffix_append others text)

theorem Consumes.shrinks {reader : PatternReader α} (consumes : Consumes reader) : Shrinks reader :=
  fun _ _ _ found => (consumes found).trans (List.tail_suffix _)

/-- At the end of the text a reader stays there. -/
theorem Shrinks.rest_eq_nil {reader : PatternReader α} (shrinks : Shrinks reader)
    {state after : PatternState} {value : α} (nothing : state.rest = [])
    (found : reader state = some (value, after)) : after.rest = [] :=
  List.suffix_nil.mp (nothing ▸ shrinks found)

theorem Shrinks.bind {first : PatternReader α} {next : α → PatternReader β} (shrinks : Shrinks first)
    (later : ∀ value, Shrinks (next value)) : Shrinks (first >>= next) := by
  intro state value after found
  obtain ⟨_, _, here, there⟩ := bind_eq_some_iff.mp found
  exact (later _ there).trans (shrinks here)

theorem Consumes.bind {first : PatternReader α} {next : α → PatternReader β} (consumes : Consumes first)
    (later : ∀ value, Shrinks (next value)) : Consumes (first >>= next) := by
  intro state value after found
  obtain ⟨_, _, here, there⟩ := bind_eq_some_iff.mp found
  exact (later _ there).trans (consumes here)

theorem Shrinks.consumes_bind {first : PatternReader α} {next : α → PatternReader β}
    (shrinks : Shrinks first) (later : ∀ value, Consumes (next value)) : Consumes (first >>= next) := by
  intro state value after found
  obtain ⟨_, _, here, there⟩ := bind_eq_some_iff.mp found
  exact (later _ there).trans (tail_suffix_tail (shrinks here))

theorem shrinks_pure (value : α) : Shrinks (pure value : PatternReader α) := by
  rintro state _ _ ⟨⟩
  exact List.suffix_rfl

theorem consumes_refuse : Consumes (refuse : PatternReader α) := by
  rintro state _ _ ⟨⟩

theorem shrinks_refuse : Shrinks (refuse : PatternReader α) := consumes_refuse.shrinks

theorem shrinks_get : Shrinks (get : PatternReader PatternState) := by
  rintro state _ _ ⟨⟩
  exact List.suffix_rfl

theorem shrinks_modify {change : PatternState → PatternState}
    (least : ∀ state, (change state).rest <:+ state.rest) :
    Shrinks (modify change : PatternReader Unit) := by
  rintro state _ _ ⟨⟩
  exact least state

theorem Shrinks.map {reader : PatternReader α} (shrinks : Shrinks reader) (change : α → β) :
    Shrinks (change <$> reader) := shrinks.bind fun value => shrinks_pure (change value)

/-- From a state where an end of this text is left, the reader leaves an end of it. -/
def Leaves (whole : List Char) (reader : PatternReader α) : Prop :=
  ∀ ⦃state : PatternState⦄ ⦃value : α⦄ ⦃after : PatternState⦄, state.rest <:+ whole →
    reader state = some (value, after) → after.rest <:+ whole

theorem Shrinks.leaves {reader : PatternReader α} (shrinks : Shrinks reader)
    (whole : List Char) : Leaves whole reader :=
  fun _ _ _ short found => (shrinks found).trans short

theorem Leaves.bind {whole : List Char} {first : PatternReader α} {next : α → PatternReader β}
    (leaves : Leaves whole first) (later : ∀ value, Leaves whole (next value)) :
    Leaves whole (first >>= next) := by
  intro state value after short found
  obtain ⟨_, _, here, there⟩ := bind_eq_some_iff.mp found
  exact later _ (leaves short here) there

theorem leaves_set {whole : List Char} {state : PatternState} (short : state.rest <:+ whole) :
    Leaves whole (set state : PatternReader PUnit) := by
  rintro _ _ _ - ⟨⟩
  exact short

theorem leaves_modify {whole : List Char} {change : PatternState → PatternState}
    (short : ∀ state, (change state).rest <:+ whole) :
    Leaves whole (modify change : PatternReader PUnit) := by
  rintro state _ _ - ⟨⟩
  exact short state

/-- A reader that looks at the state it begins in. -/
theorem shrinks_get_bind {next : PatternState → PatternReader β}
    (later : ∀ state, Leaves state.rest (next state)) : Shrinks (get >>= next) :=
  fun state _ _ found => later state List.suffix_rfl found

/-- A reader that takes at least a character from the state it looks at. -/
theorem consumes_get_bind {next : PatternState → PatternReader β}
    (later : ∀ state value after, next state state = some (value, after) →
      after.rest <:+ state.rest.tail) : Consumes (get >>= next) :=
  fun state value after found => later state value after found

/-! ## The end of the text -/

/-- The reader finds nothing at the end of the text. -/
def NeedsText (reader : PatternReader α) : Prop :=
  ∀ ⦃state : PatternState⦄, state.rest = [] → reader state = none

theorem NeedsText.bind {first : PatternReader α} (needs : NeedsText first) (next : α → PatternReader β) :
    NeedsText (first >>= next) :=
  fun _ nothing => bind_of_eq_none (needs nothing)

theorem Shrinks.needsText_bind {first : PatternReader α} {next : α → PatternReader β}
    (shrinks : Shrinks first) (needs : ∀ value, NeedsText (next value)) : NeedsText (first >>= next) := by
  intro state nothing
  cases found : first state with
  | none => exact bind_of_eq_none found
  | some outcome =>
    exact (bind_of_eq_some found).trans (needs _ (shrinks.rest_eq_nil nothing found))

theorem NeedsText.congr {first second : PatternReader α} (needs : NeedsText first) (needs' : NeedsText second)
    (state : PatternState) (nothing : state.rest = []) : second state = first state :=
  (needs' nothing).trans (needs nothing).symm

/-- The readers do the same from some states. -/
def Alike (starts : PatternState → Prop) (first second : PatternReader α) : Prop :=
  ∀ ⦃state : PatternState⦄, starts state → second state = first state

section Alike

variable {starts narrower : PatternState → Prop}

theorem Alike.mono {first second : PatternReader α} (alike : Alike starts first second)
    (implied : ∀ state, narrower state → starts state) : Alike narrower first second :=
  fun state starting => alike (implied state starting)

theorem Alike.atEnd {first second : PatternReader α}
    (alike : Alike (fun state => state.rest.length < 1) first second) (state : PatternState)
    (nothing : state.rest = []) : second state = first state :=
  alike (nothing ▸ Nat.one_pos : state.rest.length < 1)

theorem Alike.bind {first counterpart : PatternReader α} {next following : α → PatternReader β}
    (alike : Alike starts first counterpart)
    (later : ∀ value, Alike (fun state => ∃ start, starts start ∧ first start = some (value, state))
      (next value) (following value)) : Alike starts (first >>= next) (counterpart >>= following) := by
  intro state starting
  cases found : first state with
  | none => rw [bind_of_eq_none found, bind_of_eq_none ((alike starting).trans found)]
  | some outcome =>
    rw [bind_of_eq_some found, bind_of_eq_some ((alike starting).trans found)]
    exact later _ ⟨state, starting, found⟩

/-- The same reader, with readers behind it that differ. -/
theorem Alike.behind {first : PatternReader α} {next following : α → PatternReader β}
    (later : ∀ value, Alike (fun state => ∃ start, starts start ∧ first start = some (value, state))
      (next value) (following value)) : Alike starts (first >>= next) (first >>= following) :=
  Alike.bind (fun _ _ => rfl) later

theorem Alike.flags_bind {next following : PatternFlags → PatternReader α}
    (later : ∀ flags, Alike starts (next flags) (following flags)) :
    Alike starts (flags >>= next) (flags >>= following) :=
  fun state starting => later state.flags starting

theorem Alike.peek_bind {next following : Option Char → PatternReader α}
    (later : ∀ found, Alike (fun state => starts state ∧ state.rest.head? = found) (next found)
      (following found)) : Alike starts (peek >>= next) (peek >>= following) :=
  fun state starting => later state.rest.head? ⟨starting, rfl⟩

end Alike

/-- There is a next character. -/
theorem length_pos_of_head? {state : PatternState} {character : Char}
    (front : state.rest.head? = some character) : 1 ≤ state.rest.length := by
  cases rest : state.rest with
  | nil =>
    rw [rest] at front
    cases front
  | cons first others => exact Nat.succ_le_succ (Nat.zero_le _)

theorem Shrinks.bounded {starts : PatternState → Prop} {reader : PatternReader α} {bound : Nat}
    (shrinks : Shrinks reader)
    (short : ∀ state, starts state → state.rest.length < bound) {value : α} (after : PatternState)
    (reached : ∃ state, starts state ∧ reader state = some (value, after)) : after.rest.length < bound := by
  obtain ⟨state, starting, found⟩ := reached
  exact Nat.lt_of_le_of_lt (shrinks found).length_le (short state starting)

theorem Consumes.bounded {starts : PatternState → Prop} {reader : PatternReader α} {bound : Nat}
    (consumes : Consumes reader)
    (short : ∀ state, starts state → state.rest.length < bound + 1 ∧ 1 ≤ state.rest.length)
    {value : α} (after : PatternState)
    (reached : ∃ state, starts state ∧ reader state = some (value, after)) : after.rest.length < bound := by
  obtain ⟨state, starting, found⟩ := reached
  have fewer := (consumes found).length_le
  rw [List.length_tail] at fewer
  have few := short state starting
  omega

/-! ## Characters -/

theorem skipBlanks_suffix (inComment : Bool) (text : List Char) : skipBlanks inComment text <:+ text := by
  induction text generalizing inComment with
  | nil => exact List.suffix_rfl
  | cons character rest ih =>
    rw [skipBlanks]
    split_ifs
    · exact (ih _).trans (List.suffix_cons _ _)
    · exact (ih _).trans (List.suffix_cons _ _)
    · exact (ih _).trans (List.suffix_cons _ _)
    · exact List.suffix_rfl

theorem shrinks_flags : Shrinks flags := shrinks_get.bind fun _ => shrinks_pure _

theorem shrinks_setFlags (flags : PatternFlags) : Shrinks (setFlags flags) :=
  shrinks_modify fun _ => List.suffix_rfl

theorem shrinks_peek : Shrinks peek := shrinks_get.bind fun _ => shrinks_pure _

theorem shrinks_space : Shrinks space := by
  refine shrinks_modify fun state => ?_
  split
  · exact skipBlanks_suffix false state.rest
  · exact List.suffix_rfl

theorem space_of_nil {state : PatternState} (nothing : state.rest = []) : space state = some ((), state) := by
  obtain ⟨rest, flags, names⟩ := state
  cases nothing
  change some ((), if flags.ignoreBlanks then _ else _) = _
  split_ifs <;> rfl

/-- Nothing is skipped in front of a sign. -/
theorem space_of_sign {state : PatternState} {sign : Char} (front : state.rest.head? = some sign)
    (solid : isBlank sign = false) (other : sign ≠ '#') : space state = some ((), state) := by
  obtain ⟨others, rest⟩ := List.head?_eq_some_iff.mp front
  have kept : skipBlanks false state.rest = state.rest := by
    rw [rest, skipBlanks]
    simp [solid, other]
  change some ((), if state.flags.ignoreBlanks then { state with rest := skipBlanks false state.rest }
    else state) = _
  rw [kept, ite_self]

theorem shrinks_drop (count : Nat) : Shrinks (drop count) :=
  shrinks_modify fun state => List.drop_suffix count state.rest

theorem consumes_drop (count : Nat) : Consumes (drop (count + 1)) := by
  rintro state _ _ ⟨⟩
  change state.rest.drop (count + 1) <:+ state.rest.tail
  rw [← List.drop_one]
  exact List.drop_suffix_drop_left _ (Nat.le_add_left 1 count)

theorem consumes_pass : Consumes pass := (consumes_drop 0).bind fun _ => shrinks_space

theorem pass_eq (state : PatternState) : ∃ after, pass state = some ((), after) := ⟨_, rfl⟩

theorem shrinks_pass : Shrinks pass := consumes_pass.shrinks

theorem consumes_next : Consumes next := by
  intro state value after found
  obtain ⟨_, _, ⟨⟩, there⟩ := bind_eq_some_iff.mp found
  cases rest : state.rest with
  | nil =>
    rw [rest] at there
    cases there
  | cons character behind =>
    rw [rest] at there
    cases there
    exact List.suffix_rfl

theorem consumes_expect (wanted : Char) : Consumes (expect wanted) := by
  refine consumes_next.bind fun found => ?_
  split
  · exact shrinks_pure ()
  · exact shrinks_refuse

theorem next_of_cons {state : PatternState} {character : Char} {rest : List Char}
    (found : state.rest = character :: rest) : next state = some (character, { state with rest }) := by
  rw [next, get_bind, found]
  rfl

theorem next_of_nil {state : PatternState} (found : state.rest = []) : next state = none := by
  rw [next, get_bind, found]
  rfl

theorem rest_of_expect {wanted : Char} {state : PatternState} {result : Unit × PatternState}
    (found : expect wanted state = some result) : ∃ behind, state.rest = wanted :: behind := by
  obtain ⟨first, _, taken, same⟩ := bind_eq_some_iff.mp found
  cases rest : state.rest with
  | nil =>
    rw [next_of_nil rest] at taken
    cases taken
  | cons sign behind =>
    rw [next_of_cons rest] at taken
    cases taken
    split_ifs at same with wants
    · exact ⟨behind, by rw [wants]⟩
    · cases same

theorem needsText_expect (wanted : Char) : NeedsText (expect wanted) :=
  NeedsText.bind (fun _ nothing => next_of_nil nothing) _

theorem shrinks_skipText (text : List Char) : Shrinks (skipText text) := by
  refine shrinks_get.bind fun state => ?_
  split
  · exact (shrinks_drop _).bind fun _ => shrinks_pure _
  · exact shrinks_pure _

theorem shrinks_peekBehindBlanks : Shrinks peekBehindBlanks := by
  refine shrinks_get.bind fun state => ?_
  dsimp only
  split
  · exact shrinks_pure _
  · split <;> exact shrinks_pure _

/-! ## Numbers and escapes -/

/-- Characters that pass a test, for as long as there are any, with blanks behind each. -/
def takeAll (test : Char → Bool) (value : Char → β) : (fuel : Nat) → PatternReader (List β)
  | 0 => return []
  | fuel + 1 => do
    match ← peek with
    | some found =>
      if test found then
        pass
        return value found :: (← takeAll test value fuel)
      else return []
    | none => return []

theorem digits_eq (fuel : Nat) : digits fuel = takeAll Char.isDigit id fuel := by
  induction fuel with
  | zero => rfl
  | succ fuel ih =>
    rw [digits, takeAll, ih]
    rfl

theorem boundaryName_eq (fuel : Nat) : boundaryName fuel = takeAll isNameLetter id fuel := by
  induction fuel with
  | zero => rfl
  | succ fuel ih =>
    rw [boundaryName, takeAll, ih]
    rfl

theorem leadingDashes_eq (fuel : Nat) :
    leadingDashes fuel = takeAll (· == '-') (fun _ => ⟨.single '-', 0⟩) fuel := by
  induction fuel with
  | zero => rfl
  | succ fuel ih =>
    rw [leadingDashes, takeAll, ih]
    refine congrArg (peek >>= ·) (funext fun found => ?_)
    cases found <;> simp

theorem shrinks_takeAll (test : Char → Bool) (value : Char → β) (fuel : Nat) :
    Shrinks (takeAll test value fuel) := by
  induction fuel with
  | zero => exact shrinks_pure _
  | succ fuel ih =>
    refine shrinks_peek.bind fun found => ?_
    split
    · split
      · exact shrinks_pass.bind fun _ => ih.bind fun _ => shrinks_pure _
      · exact shrinks_pure _
    · exact shrinks_pure _

theorem shrinks_digits (fuel : Nat) : Shrinks (digits fuel) :=
  digits_eq fuel ▸ shrinks_takeAll _ _ _

theorem shrinks_boundaryName (fuel : Nat) : Shrinks (boundaryName fuel) :=
  boundaryName_eq fuel ▸ shrinks_takeAll _ _ _

theorem shrinks_leadingDashes (fuel : Nat) : Shrinks (leadingDashes fuel) :=
  leadingDashes_eq fuel ▸ shrinks_takeAll _ _ _

theorem shrinks_skip (blank : Char → Bool) :
    Shrinks (modify fun state => { state with rest := state.rest.dropWhile blank } : PatternReader Unit) :=
  shrinks_modify fun _ => List.dropWhile_suffix blank

theorem shrinks_decimal : Shrinks decimal := by
  refine (shrinks_skip _).bind fun _ => shrinks_get.bind fun _ => (shrinks_digits _).bind fun _ =>
    (shrinks_skip _).bind fun _ => ?_
  split_ifs
  · exact shrinks_pure _
  · exact shrinks_pure _
  · exact shrinks_refuse

theorem shrinks_characterOf (digits : List Char) : Shrinks (characterOf digits) := by
  unfold characterOf
  dsimp only
  split_ifs
  · exact shrinks_pure _
  · exact shrinks_refuse

theorem shrinks_hexDigit : Shrinks hexDigit := by
  refine shrinks_peek.bind fun found => ?_
  split
  · split_ifs
    · exact shrinks_pure _
    · exact shrinks_refuse
  · exact shrinks_refuse

theorem shrinks_hexFixed (count : Nat) : Shrinks (hexFixed count) := by
  induction count with
  | zero => exact shrinks_pure _
  | succ count ih =>
    exact shrinks_hexDigit.bind fun _ => shrinks_pass.bind fun _ => ih.bind fun _ => shrinks_pure _

theorem shrinks_hexBraced (fuel : Nat) : Shrinks (hexBraced fuel) := by
  induction fuel with
  | zero => exact shrinks_refuse
  | succ fuel ih =>
    refine shrinks_peek.bind fun found => ?_
    split
    · exact shrinks_pass.bind fun _ => shrinks_pure _
    · exact shrinks_hexDigit.bind fun _ => shrinks_pass.bind fun _ => ih.bind fun _ => shrinks_pure _

theorem shrinks_hexEscape (count : Nat) : Shrinks (hexEscape count) := by
  refine shrinks_pass.bind fun _ => shrinks_peek.bind fun found => ?_
  split
  · refine shrinks_pass.bind fun _ => shrinks_get.bind fun _ => (shrinks_hexBraced _).bind fun found => ?_
    split_ifs
    · exact shrinks_refuse
    · exact shrinks_characterOf _
  · exact (shrinks_hexFixed _).bind fun _ => shrinks_characterOf _

theorem shrinks_bracedName (fuel : Nat) : Shrinks (bracedName fuel) := by
  induction fuel with
  | zero => exact shrinks_refuse
  | succ fuel ih =>
    refine shrinks_peek.bind fun found => ?_
    split
    · exact shrinks_refuse
    · exact (shrinks_drop 1).bind fun _ => shrinks_pure _
    · exact shrinks_pass.bind fun _ => ih.bind fun _ => shrinks_pure _

theorem shrinks_finishClass (flags : PatternFlags) (negated : Bool) (set : CharClass) :
    Shrinks (finishClass flags negated set) := by
  unfold finishClass
  split_ifs
  all_goals first | exact shrinks_pure _ | exact shrinks_refuse

/-- The class that a property is found to name, if it names one. -/
def foundClass (flags : PatternFlags) (negated : Bool) : Option CharClass → PatternReader CharClass
  | some set => if flags.unicode then finishClass flags negated set else refuse
  | none => refuse

theorem shrinks_foundClass (flags : PatternFlags) (negated : Bool) (found : Option CharClass) :
    Shrinks (foundClass flags negated found) := by
  cases found with
  | some set =>
    rw [foundClass]
    split_ifs
    · exact shrinks_finishClass _ _ _
    · exact shrinks_refuse
  | none => exact shrinks_refuse

theorem shrinks_unicodeClass (negated : Bool) : Shrinks (unicodeClass negated) := by
  refine shrinks_pass.bind fun _ => shrinks_flags.bind fun flags => shrinks_peek.bind fun found => ?_
  have finishes := shrinks_foundClass flags negated
  dsimp only
  split
  · exact shrinks_refuse.bind finishes
  · exact shrinks_pass.bind fun _ => shrinks_get.bind fun _ => (shrinks_bracedName _).bind fun _ =>
      (shrinks_pure _).bind finishes
  · exact shrinks_refuse.bind finishes
  · exact shrinks_pass.bind fun _ => (shrinks_pure _).bind finishes

/-- The state in front of a brace is taken up again where no name stands in it. -/
theorem shrinks_boundary (unicode : Bool) : Shrinks (boundary unicode) := by
  refine shrinks_peek.bind fun sign => ?_
  split_ifs
  · exact shrinks_pure _
  · refine shrinks_get_bind fun before => ?_
    refine (shrinks_pass.leaves _).bind fun _ => (shrinks_peek.leaves _).bind fun first => ?_
    split
    · exact shrinks_refuse.leaves _
    · split_ifs
      · refine Shrinks.leaves (shrinks_get.bind fun _ => (shrinks_boundaryName _).bind fun _ =>
          (consumes_expect _).shrinks.bind fun _ => ?_) _
        split <;> first | exact shrinks_pure _ | exact shrinks_refuse
      · exact (leaves_set List.suffix_rfl).bind fun _ => (shrinks_pure _).leaves _

theorem shrinks_escape : Shrinks escape := by
  refine shrinks_flags.bind fun flags => shrinks_peek.bind fun found => ?_
  split
  · exact shrinks_refuse
  · split
    case h_12 =>
      refine (shrinks_drop 1).bind fun _ => ?_
      split
      case h_9 => exact (shrinks_boundary _).map _
      case h_13 =>
        split_ifs
        · exact shrinks_pure _
        · exact shrinks_refuse
      all_goals exact shrinks_pure _
    any_goals exact (shrinks_hexEscape _).map _
    any_goals exact (shrinks_unicodeClass _).map _
    any_goals exact (shrinks_drop 1).bind fun _ => shrinks_pure _
    all_goals
      refine (shrinks_drop 1).bind fun _ => ?_
      split_ifs
      · exact shrinks_pure _
      · exact shrinks_refuse

/-! ## Classes in brackets -/

theorem consumes_classItem : Consumes classItem := by
  refine consumes_next.bind fun found => ?_
  split
  · exact shrinks_escape
  · exact shrinks_pure _

theorem shrinks_classCharacter (letter : Char) : Shrinks (classCharacter letter) := by
  refine shrinks_flags.bind fun flags => ?_
  split_ifs
  · exact shrinks_pure _
  · exact shrinks_refuse

theorem shrinks_primitiveClass (item : Primitive) : Shrinks (primitiveClass item) := by
  cases item with
  | character letter => exact (shrinks_classCharacter letter).bind fun _ => shrinks_pure _
  | set found => exact shrinks_pure _
  | look _ => exact shrinks_refuse

theorem consumes_classRange : Consumes classRange := by
  refine consumes_classItem.bind fun first => shrinks_space.bind fun _ => shrinks_peek.bind fun sign => ?_
  split
  · exact shrinks_refuse
  · refine shrinks_peekBehindBlanks.bind fun behind => ?_
    split_ifs
    · exact shrinks_primitiveClass _
    · refine shrinks_pass.bind fun _ => consumes_classItem.shrinks.bind fun last => ?_
      split
      · refine (shrinks_classCharacter _).bind fun low => (shrinks_classCharacter _).bind fun high => ?_
        split_ifs
        · exact shrinks_pure _
        · exact shrinks_refuse
      · exact shrinks_refuse

theorem shrinks_classStart : Shrinks classStart := by
  refine shrinks_space.bind fun _ => shrinks_peek.bind fun found => ?_
  have items : Shrinks (do
      let dashes ← leadingDashes (← get).rest.length
      if dashes.isEmpty ∧ (← peek) = some ']' then
        pass
        return (decide (found = some '^'), [⟨.single ']', 0⟩])
      else return (decide (found = some '^'), dashes)) := by
    refine shrinks_get.bind fun _ => (shrinks_leadingDashes _).bind fun _ =>
      shrinks_peek.bind fun _ => ?_
    split_ifs
    · exact shrinks_pass.bind fun _ => shrinks_pure _
    · exact shrinks_pure _
  dsimp only
  split_ifs
  · exact shrinks_pass.bind fun _ => items
  · exact items

theorem isLower_of_asciiClass? {name : List Char} {set : CharClass}
    (known : asciiClass? (String.ofList name) = some set) (letter : Char) (member : letter ∈ name) :
    letter.isLower = true := by
  have every : name.all Char.isLower = true := by
    unfold asciiClass? at known
    split at known
    case h_15 => cases known
    all_goals
      next same =>
      rw [show name = (String.ofList name).toList from String.toList_ofList.symm, same]
      decide
  exact List.all_eq_true.mp every letter member

/-- The sign of a negated class, where there is one. -/
def negation (negated : Bool) : List Char := if negated then ['^'] else []

/-- A class by the name at the front of a text, behind the sign of a negated one. -/
def classNamedAt? (negated : Bool) (text : List Char) : Option (CharClass × Bool × List Char) :=
  let name := text.takeWhile (· ≠ ':')
  match text.drop name.length, asciiClass? (String.ofList name) with
  | ':' :: ']' :: behind, some set => some (set, negated, behind)
  | _, _ => none

/-- The sign of a negated class is taken off; a name does not begin with it. -/
theorem asciiClassAt?_eq {negated : Bool} {text : List Char} (unsigned : text.head? ≠ some '^') :
    asciiClassAt? (['[', ':'] ++ negation negated ++ text) = classNamedAt? negated text := by
  cases negated with
  | true => rfl
  | false =>
    cases text with
    | nil => rfl
    | cons first rest =>
      rw [List.head?_cons, ne_eq, Option.some.injEq] at unsigned
      simp only [asciiClassAt?, negation, Bool.false_eq_true, ↓reduceIte, List.append_nil, List.cons_append,
        List.nil_append, List.cons.injEq, unsigned, false_and, imp_self, implies_true]
      rfl

theorem asciiClassAt?_eq_some_iff {text behind : List Char} {set : CharClass} {negated : Bool} :
    asciiClassAt? text = some (set, negated, behind) ↔ ∃ name,
      text = ['[', ':'] ++ negation negated ++ (name ++ ':' :: ']' :: behind) ∧
        asciiClass? (String.ofList name) = some set := by
  constructor
  · intro found
    unfold asciiClassAt? at found
    split at found
    · next inner =>
      split at found
      next sign whole opened =>
      have opens : inner = negation sign ++ whole := by
        split at opened <;> cases opened <;> rfl
      dsimp only at found
      split at found
      · next cut known =>
        cases found
        refine ⟨_, ?_, known⟩
        rw [opens, ← cut, List.prefix_iff_eq_append.mp (List.takeWhile_prefix _)]
        rfl
      · cases found
    · cases found
  · rintro ⟨name, rfl, known⟩
    have lower := isLower_of_asciiClass? known
    have unsigned : (name ++ ':' :: ']' :: behind).head? ≠ some '^' := by
      cases name with
      | nil => simp
      | cons first rest =>
        rintro ⟨⟩
        exact absurd (lower _ List.mem_cons_self) (by decide)
    have taken : (name ++ ':' :: ']' :: behind).takeWhile (· ≠ ':') = name := by
      rw [List.takeWhile_append_of_pos, List.takeWhile_cons_of_neg (by simp), List.append_nil]
      intro letter member
      have small := lower letter member
      simp only [decide_eq_true_eq]
      rintro rfl
      cases small
    rw [asciiClassAt?_eq unsigned, classNamedAt?, taken, List.drop_left, known]
    rfl

theorem behind_asciiClassAt?_suffix {text behind : List Char} {set : CharClass} {negated : Bool}
    (found : asciiClassAt? text = some (set, negated, behind)) : behind <:+ text.tail := by
  obtain ⟨name, rfl, -⟩ := asciiClassAt?_eq_some_iff.mp found
  exact ⟨':' :: negation negated ++ name ++ [':', ']'], by simp⟩

/-- How a class goes on: whether it is negated, its items so far, and what stands in front of them. -/
abbrev ClassReader : Type :=
  Bool → List ClassPiece → Option (ClassOperator × ClassPiece) → PatternReader ClassPiece

section ClassSteps

variable (again : ClassReader) (flags : PatternFlags) (negated : Bool) (items : List ClassPiece)
  (pending : Option (ClassOperator × ClassPiece))

/-- A class in a class, by its name or in brackets, and the rest of the class. -/
def innerClass : PatternReader ClassPiece := do
  match asciiClassAt? (← get).rest with
  | some (set, inner, behind) =>
    modify fun state => { state with rest := behind }
    let set ← finishClass flags inner set
    again negated (⟨set, 0⟩ :: items) pending
  | none =>
    drop 1
    let (inner, started) ← classStart
    let nested ← again inner started none
    again negated (nested :: items) pending

/-- An operator or a range, and the rest of the class. -/
def rangeOrOperator : PatternReader ClassPiece := do
  match operatorAt? (← get).rest with
  | some operator =>
    drop 2
    again negated [] (some (operator, combine flags pending (.unionOf items)))
  | none =>
    let set ← classRange
    again negated (⟨set, 0⟩ :: items) pending

variable {again} (shrinks : ∀ negated items pending, Shrinks (again negated items pending))
include shrinks

theorem consumes_innerClass : Consumes (innerClass again flags negated items pending) := by
  refine consumes_get_bind fun state value after => ?_
  cases named : asciiClassAt? state.rest with
  | some item =>
    obtain ⟨set, inner, behind⟩ := item
    dsimp only
    rw [modify_bind]
    intro found
    refine List.IsSuffix.trans ?_ (behind_asciiClassAt?_suffix named)
    exact (shrinks_finishClass _ _ _).bind (fun _ => shrinks _ _ _) found
  | none =>
    refine fun found => (consumes_drop 0).bind (fun _ => shrinks_classStart.bind fun _ => ?_) found
    exact (shrinks _ _ _).bind fun _ => shrinks _ _ _

theorem consumes_rangeOrOperator : Consumes (rangeOrOperator again flags negated items pending) := by
  refine shrinks_get.consumes_bind fun state => ?_
  split
  · exact (consumes_drop 1).bind fun _ => shrinks _ _ _
  · exact consumes_classRange.bind fun _ => shrinks _ _ _

end ClassSteps

theorem consumes_classBody (fuel : Nat) (negated : Bool) (items : List ClassPiece)
    (pending : Option (ClassOperator × ClassPiece)) : Consumes (classBody fuel negated items pending) := by
  induction fuel generalizing negated items pending with
  | zero => exact consumes_refuse
  | succ fuel ih =>
    have shrinks (negated items pending) := (ih negated items pending).shrinks
    refine shrinks_space.consumes_bind fun _ => shrinks_flags.consumes_bind fun flags =>
      shrinks_peek.consumes_bind fun found => ?_
    split
    · exact consumes_refuse
    · exact consumes_innerClass flags negated items pending shrinks
    · exact (consumes_drop 0).bind fun _ => (shrinks_finishClass _ _ _).bind fun _ => shrinks_pure _
    · exact consumes_rangeOrOperator flags negated items pending shrinks

/-! ## Groups -/

theorem shrinks_groupName : Shrinks groupName := by
  refine shrinks_get_bind fun state => ?_
  dsimp only
  split
  · next behind _ cut =>
    have short : behind <:+ state.rest :=
      (List.suffix_cons '>' behind).trans (cut ▸ List.drop_suffix _ state.rest)
    split_ifs
    · exact leaves_set short
    · exact shrinks_refuse.leaves _
  · exact shrinks_refuse.leaves _

theorem behind_readFlags_suffix {text behind : List Char} {seen last : List Char}
    {flags final : PatternFlags} (found : readFlags text seen flags = some (final, last, behind)) :
    behind <:+ text := by
  induction text generalizing seen flags with
  | nil => cases found
  | cons letter rest ih =>
    rw [readFlags] at found
    split_ifs at found
    · cases found
      exact List.suffix_rfl
    · exact (ih found).trans (List.suffix_cons _ _)
    · split at found
      · exact (ih found).trans (List.suffix_cons _ _)
      · cases found

/-- Flags in parentheses, after the question mark. -/
def flagGroup (flags : PatternFlags) : PatternReader GroupStart := do
  match readFlags (← get).rest [] flags with
  | some (flags, _, ':' :: behind) =>
    modify fun state => { state with rest := behind }
    return .group flags
  | some (flags, seen, ')' :: behind) =>
    modify fun state => { state with rest := behind }
    if seen.isEmpty then refuse else return .flags flags
  | _ => refuse

/-- What follows an opening parenthesis and the blanks behind it, where no condition on the text around
it does. -/
def plainGroupStart (flags : PatternFlags) : PatternReader GroupStart := do
  if (← skipText "?P<".toList) then
    groupName
    return .group flags
  else if (← skipText "?<".toList) then
    groupName
    return .group flags
  else if (← skipText "?".toList) then flagGroup flags
  else return .group flags

/-- The text begins with a condition on the text around it, which the language does not have. -/
def looksAround (text : List Char) : Bool :=
  ["?=", "?!", "?<=", "?<!"].any fun start => start.toList.isPrefixOf text

theorem groupStart_eq : groupStart = (do
    space
    let state ← get
    if looksAround state.rest then refuse else plainGroupStart state.flags) := rfl

theorem shrinks_flagGroup (flags : PatternFlags) : Shrinks (flagGroup flags) := by
  refine shrinks_get_bind fun state => ?_
  split
  · next behind read =>
    have short := (List.suffix_cons _ behind).trans (behind_readFlags_suffix read)
    exact (leaves_modify fun _ => short).bind fun _ => (shrinks_pure _).leaves _
  · next behind read =>
    have short := (List.suffix_cons _ behind).trans (behind_readFlags_suffix read)
    refine (leaves_modify fun _ => short).bind fun _ => Shrinks.leaves ?_ _
    split_ifs
    · exact shrinks_refuse
    · exact shrinks_pure _
  · exact shrinks_refuse.leaves _

theorem shrinks_plainGroupStart (flags : PatternFlags) : Shrinks (plainGroupStart flags) := by
  refine (shrinks_skipText _).bind fun named => ?_
  split_ifs
  · exact shrinks_groupName.bind fun _ => shrinks_pure _
  · refine (shrinks_skipText _).bind fun named => ?_
    split_ifs
    · exact shrinks_groupName.bind fun _ => shrinks_pure _
    · refine (shrinks_skipText _).bind fun flagged => ?_
      split_ifs
      · exact shrinks_flagGroup flags
      · exact shrinks_pure _

theorem shrinks_groupStart : Shrinks groupStart := by
  rw [groupStart_eq]
  refine shrinks_space.bind fun _ => shrinks_get.bind fun state => ?_
  split_ifs
  · exact shrinks_refuse
  · exact shrinks_plainGroupStart _

/-! ## Patterns -/

theorem shrinks_orRefuse (found : Option α) : Shrinks (orRefuse found) := by
  cases found with
  | some value => exact shrinks_pure _
  | none => exact shrinks_refuse

theorem consumes_primitive : Consumes primitive := by
  refine shrinks_flags.consumes_bind fun flags => consumes_next.bind fun letter => ?_
  split
  · refine shrinks_escape.bind fun found => ?_
    split
    · split_ifs
      · exact shrinks_orRefuse _
      · exact shrinks_refuse
    · exact shrinks_pure _
    · exact shrinks_pure _
  · split_ifs
    · exact shrinks_pure _
    · exact shrinks_refuse
  · exact shrinks_pure _
  · exact shrinks_pure _
  · exact shrinks_orRefuse _

theorem shrinks_skipLazySign : Shrinks skipLazySign := by
  refine shrinks_peek.bind fun found => ?_
  split_ifs
  · exact shrinks_drop 1
  · exact shrinks_pure _

theorem shrinks_repetitionBounds : Shrinks repetitionBounds := by
  refine shrinks_decimal.bind fun least => shrinks_peek.bind fun found => ?_
  split
  · refine shrinks_pass.bind fun _ => shrinks_peek.bind fun found => ?_
    split
    · exact (shrinks_orRefuse _).bind fun _ => shrinks_pure _
    · refine (shrinks_orRefuse _).bind fun least => shrinks_decimal.bind fun most =>
        (shrinks_orRefuse _).bind fun most => ?_
      split_ifs
      · exact shrinks_pure _
      · exact shrinks_refuse
  · exact (shrinks_orRefuse _).bind fun _ => shrinks_pure _

theorem consumes_repetition (sign : Char) : Consumes (repetition sign) := by
  unfold repetition
  split
  · exact (consumes_drop 0).bind fun _ => shrinks_skipLazySign.bind fun _ => shrinks_pure _
  · exact (consumes_drop 0).bind fun _ => shrinks_skipLazySign.bind fun _ => shrinks_pure _
  · exact (consumes_drop 0).bind fun _ => shrinks_skipLazySign.bind fun _ => shrinks_pure _
  · refine consumes_pass.bind fun _ => shrinks_repetitionBounds.bind fun bounds =>
      shrinks_peek.bind fun found => ?_
    split_ifs
    · exact shrinks_refuse
    · exact shrinks_pass.bind fun _ => shrinks_skipLazySign.bind fun _ => shrinks_pure _

theorem shrinks_body (fuel : Nat) (items : List (Option Piece)) (branches : List Piece) :
    Shrinks (body fuel items branches) := by
  induction fuel generalizing items branches with
  | zero => exact shrinks_refuse
  | succ fuel ih =>
    refine shrinks_space.bind fun _ => shrinks_flags.bind fun flags => shrinks_peek.bind fun found => ?_
    split
    · exact shrinks_pure _
    · exact shrinks_pure _
    · exact (shrinks_drop 1).bind fun _ => ih _ _
    · refine (shrinks_drop 1).bind fun _ => shrinks_groupStart.bind fun start => ?_
      split
      · exact (shrinks_setFlags _).bind fun _ => ih _ _
      · exact (shrinks_setFlags _).bind fun _ => (ih _ _).bind fun _ => (shrinks_setFlags _).bind fun _ =>
          (consumes_expect _).shrinks.bind fun _ => ih _ _
    · exact (shrinks_drop 1).bind fun _ => shrinks_classStart.bind fun _ => shrinks_get.bind fun _ =>
        (consumes_classBody _ _ _ _).shrinks.bind fun _ => ih _ _
    · split_ifs
      · split
        · exact (consumes_repetition _).shrinks.bind fun _ => ih _ _
        · exact shrinks_refuse
      · exact consumes_primitive.shrinks.bind fun _ => ih _ _

end Unannotate.PatternReader
