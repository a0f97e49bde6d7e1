import Unannotate.Proofs.Pattern.Blanks
import Unannotate.Proofs.Pattern.Consuming

/-!
# Readers in front of a closing parenthesis

A reader that is followed by more text, beginning with a closing parenthesis, finds what it finds alone
and stops in front of the parenthesis; or it runs past the parenthesis. Where it runs past it and still
finds something alone, the text ends in a comment. Two readers of items look further than they read, and
may find something that the reader alone does not; then nothing can follow.
-/
set_option autoImplicit false

namespace Unannotate

/-- The state with a closing parenthesis and more text behind what is left. -/
def PatternState.before (state : PatternState) (back : List Char) : PatternState :=
  { state with rest := state.rest ++ ')' :: back }

namespace PatternReader

variable {α β : Type} {back : List Char}

/-- What a reader gives alone, and what it gives in front of a closing parenthesis. -/
inductive Agrees (back : List Char) (dead : α → PatternState → Prop) :
    Option (α × PatternState) → Option (α × PatternState) → Prop
  | same (value : α) (state : PatternState) :
      Agrees back dead (some (value, state)) (some (value, state.before back))
  /-- Nothing can follow where the reader has got to. -/
  | stuck {value : α} {state : PatternState} (nothing : dead value state) :
      Agrees back dead none (some (value, state.before back))
  /-- The parenthesis has been read. Without a line end behind it, a comment has taken everything. -/
  | beyond {alone within : Option (α × PatternState)}
      (short : ∀ value state, within = some (value, state) → state.rest <:+ back)
      (ended : ∀ value state, alone = some (value, state) →
        state.rest = [] ∧ ('\n' ∉ back → within = some (value, state))) :
      Agrees back dead alone within

theorem Agrees.of_none {dead : α → PatternState → Prop} : Agrees back dead none none :=
  .beyond (fun _ _ found => nomatch found) (fun _ _ found => nomatch found)

/-- No reader gets to where nothing can follow. -/
def Never (_ : α) (_ : PatternState) : Prop := False

theorem Agrees.weaken {dead : α → PatternState → Prop} {alone within : Option (α × PatternState)}
    (agrees : Agrees back Never alone within) : Agrees back dead alone within := by
  cases agrees with
  | same value state => exact .same value state
  | stuck nothing => exact nothing.elim
  | beyond short ended => exact .beyond short ended

/-- Two readers agree where one is alone and the other is followed by a closing parenthesis. -/
structure Locals (back : List Char) (dead : α → PatternState → Prop) (starts : PatternState → Prop)
    (alone within : PatternReader α) : Prop where
  shrinks : Shrinks within
  agrees : ∀ state, starts state → Agrees back dead (alone state) (within (state.before back))

/-- The reader agrees with itself. -/
def Local (back : List Char) (starts : PatternState → Prop) (reader : PatternReader α) : Prop :=
  Locals back Never starts reader reader

section Rules

variable {dead : α → PatternState → Prop} {starts narrower : PatternState → Prop}

theorem Locals.mono {alone within : PatternReader α} (locals : Locals back dead starts alone within)
    (implied : ∀ state, narrower state → starts state) : Locals back dead narrower alone within :=
  ⟨locals.shrinks, fun state starting => locals.agrees state (implied state starting)⟩

theorem Local.mono {reader : PatternReader α} (locals : Local back starts reader)
    (implied : ∀ state, narrower state → starts state) : Local back narrower reader :=
  Locals.mono locals implied

theorem Locals.bind {last : β → PatternState → Prop} {first counterpart : PatternReader α}
    {next following : α → PatternReader β} (here : Locals back dead starts first counterpart)
    (there : ∀ value, Locals back last
      (fun state => ∃ start, starts start ∧ first start = some (value, state)) (next value)
      (following value))
    (stuck : ∀ value state, dead value state →
      Agrees back last none (following value (state.before back)))
    (ended : ∀ value state, state.rest = [] → following value state = next value state) :
    Locals back last starts (first >>= next) (counterpart >>= following) := by
  refine ⟨here.shrinks.bind fun value => (there value).shrinks, fun state starting => ?_⟩
  have parts := here.agrees state starting
  change Agrees back last ((first state).bind fun found => next found.1 found.2)
    ((counterpart (state.before back)).bind fun found => following found.1 found.2)
  generalize found : first state = alone at parts
  generalize counterpart (state.before back) = within at parts
  cases parts with
  | same value after => exact (there value).agrees after ⟨state, starting, found⟩
  | stuck nothing => exact stuck _ _ nothing
  | beyond short past =>
    refine .beyond ?_ ?_
    · intro value after result
      obtain ⟨⟨part, middle⟩, reached, result⟩ := Option.bind_eq_some_iff.mp result
      exact ((there part).shrinks result).trans (short _ _ reached)
    · intro value after result
      obtain ⟨⟨part, middle⟩, reached, result⟩ := Option.bind_eq_some_iff.mp result
      obtain ⟨nothing, same⟩ := past _ _ reached
      have goes := (ended part middle nothing).trans result
      refine ⟨(there part).shrinks.rest_eq_nil nothing goes, fun clean => ?_⟩
      rw [same clean]
      exact goes

theorem Local.bind {first : PatternReader α} {next : α → PatternReader β}
    (here : Local back starts first)
    (there : ∀ value, Local back
      (fun state => ∃ start, starts start ∧ first start = some (value, state)) (next value)) :
    Local back starts (first >>= next) :=
  Locals.bind here there (fun _ _ nothing => nothing.elim) fun _ _ _ => rfl

/-- The same reader, with readers behind it that differ. -/
theorem Local.andThen {last : β → PatternState → Prop} {first : PatternReader α}
    {next following : α → PatternReader β} (here : Local back starts first)
    (there : ∀ value, Locals back last
      (fun state => ∃ start, starts start ∧ first start = some (value, state)) (next value)
      (following value))
    (ended : ∀ value state, state.rest = [] → following value state = next value state) :
    Locals back last starts (first >>= next) (first >>= following) :=
  Locals.bind here there (fun _ _ nothing => nothing.elim) ended

/-- Readers that differ, with the same behind them. -/
theorem Locals.andThen {first counterpart : PatternReader α} {next : α → PatternReader β}
    (here : Locals back Never starts first counterpart)
    (there : ∀ value, Local back
      (fun state => ∃ start, starts start ∧ first start = some (value, state)) (next value)) :
    Locals back Never starts (first >>= next) (counterpart >>= next) :=
  Locals.bind here there (fun _ _ nothing => nothing.elim) fun _ _ _ => rfl

theorem local_pure (value : α) : Local back starts (pure value) :=
  ⟨shrinks_pure value, fun state _ => .same value state⟩

theorem local_refuse : Local back starts (refuse : PatternReader α) :=
  ⟨shrinks_refuse, fun _ _ => .of_none⟩

theorem Local.map {reader : PatternReader α} (locals : Local back starts reader) (change : α → β) :
    Local back starts (change <$> reader) := locals.bind fun value => local_pure (change value)

/-- Alone the text ends; in front of the parenthesis, that is read. -/
theorem locals_refuse_of_consumes {within : PatternReader α} (consumes : Consumes within) :
    Locals back dead (fun state => starts state ∧ state.rest = []) refuse within := by
  refine ⟨consumes.shrinks, fun state starting => .beyond ?_ fun _ _ found => nomatch found⟩
  intro value after found
  have fewer := consumes found
  rwa [PatternState.before, starting.2] at fewer

theorem Locals.peek_bind {next following : Option Char → PatternReader α}
    (inside : ∀ character, Locals back dead
      (fun state => starts state ∧ state.rest.head? = some character) (next (some character))
      (following (some character)))
    (outside : Locals back dead (fun state => starts state ∧ state.rest = []) (next none)
      (following (some ')')))
    (shrinks : Shrinks (following none)) :
    Locals back dead starts (peek >>= next) (peek >>= following) := by
  refine ⟨shrinks_peek.bind fun found => ?_, fun state starting => ?_⟩
  · cases found with
    | none => exact shrinks
    | some character => exact (inside character).shrinks
  · rw [PatternReader.peek_bind, PatternReader.peek_bind]
    cases rest : state.rest with
    | nil =>
      have agrees := outside.agrees state ⟨starting, rest⟩
      rwa [show (state.before back).rest.head? = some ')' by rw [PatternState.before, rest]; rfl]
    | cons character behind =>
      have agrees := (inside character).agrees state ⟨starting, by rw [rest]; rfl⟩
      rwa [show (state.before back).rest.head? = some character by
        rw [PatternState.before, rest]; rfl]

/-- A reader that goes on as at the end of the text where a closing parenthesis is next. -/
theorem Local.peek_bind {next : Option Char → PatternReader α}
    (inside : ∀ character, Local back
      (fun state => starts state ∧ state.rest.head? = some character) (next (some character)))
    (outside : Local back (fun state => starts state ∧ state.rest = []) (next none))
    (same : next (some ')') = next none) : Local back starts (peek >>= next) := by
  refine Locals.peek_bind inside ?_ outside.shrinks
  rw [same]
  exact outside

theorem Local.weaken {dead : α → PatternState → Prop} {reader : PatternReader α}
    (locals : Local back starts reader) : Locals back dead starts reader reader :=
  ⟨locals.shrinks, fun state starting => (locals.agrees state starting).weaken⟩

theorem Locals.flags_bind {next following : PatternFlags → PatternReader α}
    (there : ∀ flags, Locals back dead (fun state => starts state ∧ state.flags = flags) (next flags)
      (following flags)) : Locals back dead starts (flags >>= next) (flags >>= following) :=
  ⟨shrinks_flags.bind fun flags => (there flags).shrinks,
    fun state starting => (there state.flags).agrees state ⟨starting, rfl⟩⟩

theorem Local.flags_bind {next : PatternFlags → PatternReader α}
    (there : ∀ flags, Local back (fun state => starts state ∧ state.flags = flags) (next flags)) :
    Local back starts (flags >>= next) := Locals.flags_bind there

theorem head?_before (state : PatternState) :
    (state.before back).rest.head? = some (state.rest.head?.getD ')') := by
  rw [PatternState.before]
  cases state.rest <;> rfl

theorem length_before (state : PatternState) :
    (state.before back).rest.length = state.rest.length + (back.length + 1) := by
  rw [PatternState.before, List.length_append, List.length_cons]

/-- A reader that asks how much text is left. -/
theorem Locals.length_bind (next following : Nat → PatternReader α)
    (there : ∀ left, Locals back dead (fun state => starts state ∧ state.rest.length = left) (next left)
      (following (left + (back.length + 1))))
    (shrinks : ∀ left, Shrinks (following left)) :
    Locals back dead starts (get >>= fun state => next state.rest.length)
      (get >>= fun state => following state.rest.length) := by
  refine ⟨shrinks_get.bind fun state => shrinks _, fun state starting => ?_⟩
  rw [get_bind, get_bind, length_before]
  exact (there _).agrees state ⟨starting, rfl⟩

/-- Where a reader finds something only beyond the parenthesis, so does what follows. -/
theorem Agrees.bind_none {reader : PatternReader α} {state : PatternState} {next : α → PatternReader β}
    (agrees : Agrees back Never none (reader state)) (shrinks : ∀ value, Shrinks (next value)) :
    Agrees back Never none ((reader >>= next) state) := by
  refine .beyond (fun value after found => ?_) fun _ _ found => nomatch found
  obtain ⟨part, middle, here, there⟩ := bind_eq_some_iff.mp found
  rw [here] at agrees
  cases agrees with
  | stuck nothing => exact nothing.elim
  | beyond short _ => exact (shrinks part there).trans (short part middle rfl)

end Rules

/-! ## Characters -/

section Readers

variable {starts : PatternState → Prop}

/-- Skipping blanks stops at the parenthesis, or a comment runs past it. -/
theorem skipBlanks_append (back : List Char) (inComment : Bool) (text : List Char) :
    skipBlanks inComment (text ++ ')' :: back) = skipBlanks inComment text ++ ')' :: back ∨
      skipBlanks inComment text = [] ∧
        skipBlanks inComment (text ++ ')' :: back) = skipBlanks true back := by
  induction text generalizing inComment with
  | nil =>
    cases inComment with
    | false => exact .inl (by simp [skipBlanks, not_isBlank_close])
    | true => exact .inr (by simp [skipBlanks])
  | cons character rest ih =>
    rw [List.cons_append, skipBlanks, skipBlanks]
    split_ifs
    · exact ih _
    · exact ih _
    · exact ih _
    · exact .inl rfl

theorem skipBlanks_comment (clean : '\n' ∉ back) : skipBlanks true back = [] := by
  induction back with
  | nil => rfl
  | cons character rest ih =>
    rw [List.mem_cons, not_or] at clean
    rw [skipBlanks, if_pos rfl, decide_eq_true (Ne.symm clean.1)]
    exact ih clean.2

theorem local_space : Local back starts space := by
  refine ⟨shrinks_space, fun state _ => ?_⟩
  by_cases ignores : state.flags.ignoreBlanks
  · have alone : space state = some ((), { state with rest := skipBlanks false state.rest }) := by
      change some ((), if state.flags.ignoreBlanks then _ else _) = _
      rw [if_pos ignores]
    have within : space (state.before back)
        = some ((), { state with rest := skipBlanks false (state.rest ++ ')' :: back) }) := by
      change some ((), if state.flags.ignoreBlanks then _ else _) = _
      rw [if_pos ignores]
      rfl
    rw [alone, within]
    rcases skipBlanks_append back false state.rest with same | ⟨nothing, past⟩
    · rw [same]
      exact .same () { state with rest := skipBlanks false state.rest }
    · rw [nothing, past]
      refine .beyond ?_ ?_
      · rintro _ _ ⟨⟩
        exact skipBlanks_suffix true back
      · rintro _ _ ⟨⟩
        refine ⟨rfl, fun clean => ?_⟩
        rw [skipBlanks_comment clean]
  · have alone : space state = some ((), state) := by
      change some ((), if state.flags.ignoreBlanks then _ else _) = _
      rw [if_neg ignores]
    have within : space (state.before back) = some ((), state.before back) := by
      change some ((), if state.flags.ignoreBlanks then _ else _) = _
      rw [if_neg ignores]
    rw [alone, within]
    exact .same () state

theorem local_setFlags (flags : PatternFlags) : Local back starts (setFlags flags) :=
  ⟨shrinks_setFlags flags, fun state _ => .same () { state with flags }⟩

theorem local_drop (count : Nat) : Local back (fun state => count ≤ state.rest.length) (drop count) := by
  refine ⟨shrinks_drop count, fun state enough => ?_⟩
  have within : drop count (state.before back)
      = some ((), ({ state with rest := state.rest.drop count } : PatternState).before back) := by
    change some ((), { state with rest := (state.rest ++ ')' :: back).drop count }) = _
    rw [List.drop_append_of_le_length enough]
    rfl
  rw [within]
  exact .same () { state with rest := state.rest.drop count }

theorem local_dropNext {character : Char} :
    Local back (fun state => starts state ∧ state.rest.head? = some character) (drop 1) :=
  (local_drop 1).mono fun _ front => length_pos_of_head? front.2

theorem local_pass (inside : ∀ state, starts state → 1 ≤ state.rest.length) : Local back starts pass :=
  ((local_drop 1).mono inside).bind fun _ => local_space

theorem local_passNext {character : Char} :
    Local back (fun state => starts state ∧ state.rest.head? = some character) pass :=
  local_pass fun _ front => length_pos_of_head? front.2

theorem local_next : Local back starts next := by
  refine ⟨consumes_next.shrinks, fun state starting => ?_⟩
  cases rest : state.rest with
  | nil =>
    have refuses : Locals back Never (fun state => starts state ∧ state.rest = []) refuse next :=
      locals_refuse_of_consumes consumes_next
    rw [next_of_nil rest]
    exact refuses.agrees state ⟨starting, rest⟩
  | cons character behind =>
    have within : (state.before back).rest = character :: (behind ++ ')' :: back) := by
      rw [PatternState.before, rest]
      rfl
    rw [next_of_cons rest, next_of_cons within]
    exact .same character { state with rest := behind }

theorem local_expect (wanted : Char) : Local back starts (expect wanted) := by
  refine local_next.bind fun found => ?_
  split
  · exact local_pure ()
  · exact local_refuse

/-- A text without the parenthesis is in front or is not, whatever follows. -/
theorem isPrefixOf_append {text rest : List Char} (plain : ')' ∉ text) :
    text.isPrefixOf (rest ++ ')' :: back) = text.isPrefixOf rest := by
  induction text generalizing rest with
  | nil => rfl
  | cons letter others ih =>
    rw [List.mem_cons, not_or] at plain
    cases rest with
    | nil => simp [List.isPrefixOf, Ne.symm plain.1]
    | cons first rest => rw [List.cons_append, List.isPrefixOf, List.isPrefixOf, ih plain.2]

theorem local_skipText {text : List Char} (plain : ')' ∉ text) : Local back starts (skipText text) := by
  refine ⟨shrinks_skipText text, fun state _ => ?_⟩
  rw [skipText, get_bind, get_bind, PatternState.before, isPrefixOf_append plain]
  split_ifs with found
  · have enough := (List.isPrefixOf_iff_prefix.mp found).length_le
    exact ((local_drop text.length).bind fun _ => local_pure true).agrees state enough
  · exact .same false state

/-! ## Numbers and escapes -/

theorem length_of_pass {state after : PatternState} {character : Char}
    (front : state.rest.head? = some character) (passed : pass state = some ((), after)) :
    after.rest.length < state.rest.length := by
  have fewer := (consumes_pass passed).length_le
  rw [List.length_tail] at fewer
  have positive := length_pos_of_head? front
  omega

section TakeAll

variable {test : Char → Bool} {value : Char → β}

/-- Nothing is taken where the text ends or where a character stands that does not pass. -/
theorem takeAll_of_stop (fuel : Nat) {state : PatternState}
    (stops : ∀ character, state.rest.head? = some character → test character = false) :
    takeAll test value fuel state = some ([], state) := by
  cases fuel with
  | zero => rfl
  | succ fuel =>
    rw [takeAll, peek_bind]
    cases front : state.rest.head? with
    | none => rfl
    | some character =>
      simp only [stops character front]
      rfl

theorem takeAll_of_nil (fuel : Nat) {state : PatternState} (nothing : state.rest = []) :
    takeAll test value fuel state = some ([], state) :=
  takeAll_of_stop fuel fun character front => by rw [nothing] at front; cases front

theorem locals_takeAll (stops : test ')' = false) {fuel more : Nat} (enough : fuel ≤ more) :
    Locals back Never (fun state => state.rest.length ≤ fuel) (takeAll test value fuel)
      (takeAll test value more) := by
  induction fuel generalizing more with
  | zero =>
    refine ⟨shrinks_takeAll _ _ more, fun state short => ?_⟩
    have nothing : state.rest = [] := List.eq_nil_of_length_eq_zero (Nat.le_zero.mp short)
    rw [takeAll_of_nil 0 nothing, takeAll_of_stop more]
    · exact .same [] state
    · rw [PatternState.before, nothing]
      rintro _ ⟨⟩
      exact stops
  | succ fuel ih =>
    obtain ⟨more, rfl⟩ := Nat.exists_eq_add_of_le' (Nat.one_le_of_lt enough)
    rw [takeAll, takeAll]
    refine Locals.peek_bind (fun character => ?_) ?_ (shrinks_pure _)
    · dsimp only
      split_ifs
      · refine local_passNext.andThen (fun _ => ((ih (Nat.le_of_succ_le_succ enough)).mono ?_).andThen
          fun _ => local_pure _) ?_
        · rintro after ⟨state, ⟨short, front⟩, passed⟩
          have fewer := length_of_pass front passed
          omega
        · intro _ state nothing
          rw [bind_of_eq_some (takeAll_of_nil _ nothing), bind_of_eq_some (takeAll_of_nil _ nothing)]
      · exact local_pure []
    · simp only [stops]
      exact local_pure []

/-- As much fuel as there is text. -/
theorem local_takeAll (stops : test ')' = false) {next : List β → PatternReader α}
    (there : ∀ found, Local back (fun _ => True) (next found)) :
    Local back starts (get >>= fun state => takeAll test value state.rest.length >>= next) := by
  refine Locals.length_bind (fun left => takeAll test value left >>= next)
    (fun left => takeAll test value left >>= next) (fun left => ?_) fun left => ?_
  · refine Locals.andThen ?_ fun found => (there found).mono fun _ _ => trivial
    exact (locals_takeAll stops (Nat.le_add_right _ _)).mono fun state front => Nat.le_of_eq front.2
  · exact (shrinks_takeAll _ _ _).bind fun found => (there found).shrinks

end TakeAll

theorem dropWhile_append {blank : Char → Bool} (stops : blank ')' = false) (text : List Char) :
    (text ++ ')' :: back).dropWhile blank = text.dropWhile blank ++ ')' :: back := by
  induction text with
  | nil => simp [stops]
  | cons letter rest ih =>
    rw [List.cons_append, List.dropWhile_cons, List.dropWhile_cons]
    split_ifs
    · exact ih
    · rfl

theorem local_skip : Local back starts
    (modify fun state => { state with rest := state.rest.dropWhile isBlank } : PatternReader Unit) := by
  refine ⟨shrinks_skip isBlank, fun state _ => ?_⟩
  have within : (state.before back).rest.dropWhile isBlank = state.rest.dropWhile isBlank ++ ')' :: back :=
    dropWhile_append not_isBlank_close state.rest
  change Agrees back Never (some ((), { state with rest := state.rest.dropWhile isBlank }))
    (some ((), { state with rest := (state.before back).rest.dropWhile isBlank }))
  rw [within]
  exact .same () { state with rest := state.rest.dropWhile isBlank }

theorem local_decimal : Local back starts decimal := by
  refine local_skip.bind fun _ => ?_
  simp only [digits_eq]
  refine local_takeAll (by decide) fun found => local_skip.bind fun _ => ?_
  split_ifs
  · exact local_pure _
  · exact local_pure _
  · exact local_refuse

theorem decimal_of_nil {state : PatternState} (nothing : state.rest = []) :
    decimal state = some (none, { state with rest := [] }) := by
  rw [decimal, modify_bind, get_bind, nothing, digits_eq]
  exact bind_of_eq_some (takeAll_of_nil _ rfl)

theorem local_characterOf (digits : List Char) : Local back starts (characterOf digits) := by
  unfold characterOf
  dsimp only
  split_ifs
  · exact local_pure _
  · exact local_refuse

theorem local_hexDigit : Local back starts hexDigit := by
  refine Local.peek_bind (fun character => ?_) local_refuse (if_neg (by decide))
  dsimp only
  split_ifs
  · exact local_pure _
  · exact local_refuse

theorem head?_of_hexDigit {state after : PatternState} {digit : Char}
    (found : hexDigit state = some (digit, after)) : after.rest.head? = some digit := by
  rw [hexDigit, peek_bind] at found
  cases front : state.rest.head? with
  | none =>
    rw [front] at found
    cases found
  | some first =>
    rw [front] at found
    dsimp only at found
    split_ifs at found
    · cases found
      exact front
    · cases found

/-- The digit that has been found is passed. -/
theorem local_passDigit {digit : Char} :
    Local back (fun state => ∃ start, starts start ∧ hexDigit start = some (digit, state)) pass :=
  local_pass fun _ ⟨_, _, found⟩ => length_pos_of_head? (head?_of_hexDigit found)

theorem local_hexFixed (count : Nat) : Local back starts (hexFixed count) := by
  induction count generalizing starts with
  | zero => exact local_pure []
  | succ count ih =>
    exact local_hexDigit.bind fun _ => local_passDigit.bind fun _ => ih.bind fun _ => local_pure _

theorem needsText_hexDigit : NeedsText hexDigit := by
  intro state nothing
  rw [hexDigit, peek_bind, nothing]
  rfl

theorem needsText_hexBraced (fuel : Nat) : NeedsText (hexBraced fuel) := by
  intro state nothing
  cases fuel with
  | zero => rfl
  | succ fuel =>
    rw [hexBraced, peek_bind, nothing]
    exact needsText_hexDigit.bind _ nothing

theorem locals_hexBraced {fuel more : Nat} (enough : fuel ≤ more) :
    Locals back Never (fun state => state.rest.length < fuel) (hexBraced fuel) (hexBraced more) := by
  induction fuel generalizing more with
  | zero => exact ⟨shrinks_hexBraced more, fun _ short => absurd short (Nat.not_lt_zero _)⟩
  | succ fuel ih =>
    obtain ⟨more, rfl⟩ := Nat.exists_eq_add_of_le' (Nat.one_le_of_lt enough)
    have digit : Locals back Never (fun state => state.rest.length < fuel + 1)
        (do let digit ← hexDigit; pass; return digit :: (← hexBraced fuel))
        (do let digit ← hexDigit; pass; return digit :: (← hexBraced more)) := by
      have needs (fuel : Nat) (digit : Char) : NeedsText (do return digit :: (← hexBraced fuel)) :=
        (needsText_hexBraced fuel).bind _
      refine local_hexDigit.andThen (fun digit => local_passDigit.andThen (fun _ =>
        ((ih (Nat.le_of_succ_le_succ enough)).mono ?_).andThen fun _ => local_pure _)
          fun _ => (needs fuel digit).congr (needs more digit))
          fun digit => (shrinks_pass.needsText_bind fun _ => needs fuel digit).congr
            (shrinks_pass.needsText_bind fun _ => needs more digit)
      rintro after ⟨state, ⟨start, short, found⟩, passed⟩
      have fewer := length_of_pass (head?_of_hexDigit found) passed
      have shorter := (shrinks_hexDigit found).length_le
      omega
    rw [hexBraced, hexBraced]
    refine Locals.peek_bind (fun character => ?_) (digit.mono fun _ front => front.1) digit.shrinks
    split
    · exact local_passNext.bind fun _ => local_pure []
    · exact digit.mono fun _ front => front.1

theorem local_hexEscape {character : Char} (count : Nat) :
    Local back (fun state => starts state ∧ state.rest.head? = some character) (hexEscape count) := by
  refine local_passNext.bind fun _ => ?_
  have fixed (starts : PatternState → Prop) :
      Local back starts (do let found ← hexFixed count; characterOf found) :=
    (local_hexFixed count).bind fun _ => local_characterOf _
  refine Local.peek_bind (fun sign => ?_) (fixed _) rfl
  split
  · have finishes (found : List Char) (starts : PatternState → Prop) :
        Local back starts (if found.isEmpty then refuse else characterOf found) := by
      split_ifs
      · exact local_refuse
      · exact local_characterOf _
    refine local_passNext.bind fun _ => ?_
    refine Locals.length_bind
      (fun left => do let found ← hexBraced (left + 1); if found.isEmpty then refuse else characterOf found)
      (fun left => do let found ← hexBraced (left + 1); if found.isEmpty then refuse else characterOf found)
      (fun left => ?_)
      fun left => (shrinks_hexBraced _).bind fun found => (finishes found fun _ => True).shrinks
    refine Locals.andThen ((locals_hexBraced ?_).mono fun _ front => ?_) fun found => finishes found _
    · omega
    · omega
  · exact fixed _

theorem needsText_bracedName (fuel : Nat) : NeedsText (bracedName fuel) := by
  intro state nothing
  cases fuel with
  | zero => rfl
  | succ fuel =>
    rw [bracedName, peek_bind, nothing]
    rfl

theorem locals_bracedName {fuel more : Nat} (enough : fuel ≤ more) :
    Locals back Never (fun state => state.rest.length < fuel) (bracedName fuel) (bracedName more) := by
  induction fuel generalizing more with
  | zero => exact ⟨shrinks_bracedName more, fun _ short => absurd short (Nat.not_lt_zero _)⟩
  | succ fuel ih =>
    obtain ⟨more, rfl⟩ := Nat.exists_eq_add_of_le' (Nat.one_le_of_lt enough)
    rw [bracedName, bracedName]
    refine Locals.peek_bind (fun character => ?_) ?_ shrinks_refuse
    · split
      · next impossible => cases impossible
      · exact local_dropNext.bind fun _ => local_pure []
      · refine local_passNext.andThen (fun _ => ((ih (Nat.le_of_succ_le_succ enough)).mono ?_).andThen
          fun _ => local_pure _)
          fun _ => ((needsText_bracedName fuel).bind _).congr ((needsText_bracedName more).bind _)
        exact consumes_pass.bounded fun _ front => ⟨front.1, length_pos_of_head? front.2⟩
    · exact locals_refuse_of_consumes (consumes_pass.bind fun _ => (shrinks_bracedName _).bind fun _ =>
        shrinks_pure _)

theorem local_finishClass (flags : PatternFlags) (negated : Bool) (set : CharClass) :
    Local back starts (finishClass flags negated set) := by
  unfold finishClass
  dsimp only
  split_ifs
  all_goals first | exact local_pure _ | exact local_refuse

theorem local_foundClass (flags : PatternFlags) (negated : Bool) (found : Option CharClass) :
    Local back starts (foundClass flags negated found) := by
  cases found with
  | some set =>
    rw [foundClass]
    split_ifs
    · exact local_finishClass _ _ _
    · exact local_refuse
  | none => exact local_refuse

theorem local_unicodeClass {character : Char} (negated : Bool) :
    Local back (fun state => starts state ∧ state.rest.head? = some character) (unicodeClass negated) := by
  refine local_passNext.bind fun _ => Local.flags_bind fun flags => ?_
  have shrinks := shrinks_foundClass flags negated
  have gives (found : Option CharClass) (starts : PatternState → Prop) :
      Local back starts (pure found >>= foundClass flags negated) :=
    (local_pure found).bind fun _ => local_foundClass _ _ _
  refine Locals.peek_bind (fun sign => ?_) ?_ ?_
  · dsimp only
    split
    · next impossible => cases impossible
    · refine local_passNext.bind fun _ => ?_
      refine Locals.length_bind
        (fun left => bracedName (left + 1) >>= fun name =>
          pure (propertyClass? name) >>= foundClass flags negated)
        (fun left => bracedName (left + 1) >>= fun name =>
          pure (propertyClass? name) >>= foundClass flags negated)
        (fun left => ?_) fun left => (shrinks_bracedName _).bind fun name => (shrinks_pure _).bind shrinks
      refine Locals.andThen ((locals_bracedName ?_).mono fun _ front => ?_) fun name => gives _ _
      · omega
      · omega
    · exact local_refuse.bind fun _ => local_foundClass _ _ _
    · exact local_passNext.bind fun _ => gives _ _
  · exact locals_refuse_of_consumes (consumes_pass.bind fun _ => (shrinks_pure _).bind shrinks)
  · exact shrinks_refuse.bind shrinks

/-! ## Boundaries and braces -/

/-- A brace with nothing but blanks behind it. -/
def OpensBrace (state : PatternState) : Prop :=
  state.rest.head? = some '\x7b' ∧ ∀ after, pass state = some ((), after) → after.rest = []

/-- The name of a kind of boundary, up to the brace that closes. -/
def namedBoundary (unicode : Bool) : PatternReader Assertion := do
  let name ← boundaryName (← get).rest.length
  expect '\x7d'
  match String.ofList name with
  | "start" => return .wordStart unicode
  | "end" => return .wordEnd unicode
  | "start-half" => return .wordStartHalf unicode
  | "end-half" => return .wordEndHalf unicode
  | _ => refuse

theorem local_namedBoundary (unicode : Bool) : Local back starts (namedBoundary unicode) := by
  unfold namedBoundary
  simp only [boundaryName_eq]
  refine local_takeAll (by decide) fun name => (local_expect _).bind fun _ => ?_
  split <;> first | exact local_pure _ | exact local_refuse

/-- What stands in a brace behind a boundary; without a name, the state in front of the brace is taken up
again. -/
def boundaryInBrace (unicode : Bool) (before : PatternState) : PatternReader Assertion := do
  match ← peek with
  | none => refuse
  | some first =>
    if isNameLetter first then namedBoundary unicode
    else
      set before
      return .wordBoundary unicode

theorem boundaryInBrace_of_nil {unicode : Bool} {before state : PatternState} (nothing : state.rest = []) :
    boundaryInBrace unicode before state = none := by
  rw [boundaryInBrace, peek_bind, nothing]
  rfl

theorem boundaryInBrace_of_name {unicode : Bool} {before state : PatternState} {first : Char}
    (front : state.rest.head? = some first) (named : isNameLetter first = true) :
    boundaryInBrace unicode before state = namedBoundary unicode state := by
  rw [boundaryInBrace, peek_bind, front]
  simp only [named, if_true]

theorem boundaryInBrace_of_not_name {unicode : Bool} {before state : PatternState} {first : Char}
    (front : state.rest.head? = some first) (unnamed : ¬isNameLetter first = true) :
    boundaryInBrace unicode before state = some (.wordBoundary unicode, before) := by
  rw [boundaryInBrace, peek_bind, front]
  simp only [unnamed]
  rfl

theorem boundary_of_brace {unicode : Bool} {state : PatternState}
    (brace : state.rest.head? = some '\x7b') :
    boundary unicode state = (pass >>= fun _ => boundaryInBrace unicode state) state := by
  rw [boundary, peek_bind, brace]
  rfl

theorem boundary_of_not_brace {unicode : Bool} {state : PatternState}
    (other : state.rest.head? ≠ some '\x7b') :
    boundary unicode state = some (.wordBoundary unicode, state) := by
  rw [boundary, peek_bind, if_pos other]
  rfl

/-- Behind the brace both states have the same text in front of them, alone and before the parenthesis. -/
theorem agrees_boundaryInBrace (unicode : Bool) {state after : PatternState}
    (opens : after.rest = [] → OpensBrace state) :
    Agrees back (fun _ => OpensBrace) (boundaryInBrace unicode state after)
      (boundaryInBrace unicode (state.before back) (after.before back)) := by
  cases found : after.rest with
  | nil =>
    have close : (after.before back).rest.head? = some ')' := by rw [head?_before, found]; rfl
    rw [boundaryInBrace_of_nil found, boundaryInBrace_of_not_name close (by decide)]
    exact .stuck (opens found)
  | cons first others =>
    have front : after.rest.head? = some first := by rw [found]; rfl
    have front' : (after.before back).rest.head? = some first := by rw [head?_before, front]; rfl
    by_cases named : isNameLetter first = true
    · have locals : Local back (fun _ => True) (namedBoundary unicode) := local_namedBoundary unicode
      rw [boundaryInBrace_of_name front named, boundaryInBrace_of_name front' named]
      exact (locals.agrees after trivial).weaken
    · rw [boundaryInBrace_of_not_name front named, boundaryInBrace_of_not_name front' named]
      exact .same _ state

/-- Behind the brace a comment has taken the parenthesis, and the name is looked for past it. -/
theorem agrees_boundaryInBrace_beyond (unicode : Bool) {state after further : PatternState}
    (opens : OpensBrace state) (nothing : after.rest = []) (short : further.rest <:+ back) :
    Agrees back (fun _ => OpensBrace) (boundaryInBrace unicode state after)
      (boundaryInBrace unicode (state.before back) further) := by
  rw [boundaryInBrace_of_nil nothing]
  cases front : further.rest.head? with
  | none =>
    rw [boundaryInBrace_of_nil (List.head?_eq_none_iff.mp front)]
    exact .of_none
  | some first =>
    by_cases named : isNameLetter first = true
    · have locals : Local back (fun _ => True) (namedBoundary unicode) := local_namedBoundary unicode
      rw [boundaryInBrace_of_name front named]
      exact .beyond (fun _ _ found => (locals.shrinks found).trans short) fun _ _ found => nomatch found
    · rw [boundaryInBrace_of_not_name front named]
      exact .stuck opens

theorem head?_before_ne_brace {state : PatternState} (other : state.rest.head? ≠ some '\x7b') :
    (state.before back).rest.head? ≠ some '\x7b' := by
  rw [head?_before]
  cases front : state.rest.head? with
  | none => decide
  | some first =>
    rw [front] at other
    exact other

/-- A boundary in front of an open brace is found only in front of the parenthesis. -/
theorem locals_boundary (unicode : Bool) :
    Locals back (fun _ => OpensBrace) starts (boundary unicode) (boundary unicode) := by
  refine ⟨shrinks_boundary unicode, fun state _ => ?_⟩
  by_cases brace : state.rest.head? = some '\x7b'
  · have brace' : (state.before back).rest.head? = some '\x7b' := by rw [head?_before, brace]; rfl
    rw [boundary_of_brace brace, boundary_of_brace brace']
    obtain ⟨after, passed⟩ := pass_eq state
    obtain ⟨after', passed'⟩ := pass_eq (state.before back)
    rw [bind_of_eq_some passed, bind_of_eq_some passed']
    have opens (nothing : after.rest = []) : OpensBrace state := by
      refine ⟨brace, fun other again => ?_⟩
      rw [passed] at again
      cases again
      exact nothing
    have passes : Local back (fun state => state.rest.head? = some '\x7b') pass :=
      local_pass fun _ => length_pos_of_head?
    have parts := passes.agrees state brace
    rw [passed, passed'] at parts
    cases parts with
    | same => exact agrees_boundaryInBrace unicode opens
    | beyond short ended =>
      have nothing := (ended _ _ rfl).1
      exact agrees_boundaryInBrace_beyond unicode (opens nothing) nothing (short _ _ rfl)
  · rw [boundary_of_not_brace brace, boundary_of_not_brace (head?_before_ne_brace brace)]
    exact .same _ state

/-- A look at an open brace: nothing can follow it. -/
def LooksAtBrace (item : Primitive) (state : PatternState) : Prop :=
  (∃ condition, item = .look condition) ∧ OpensBrace state

theorem locals_escape : Locals back LooksAtBrace starts escape escape := by
  refine Locals.flags_bind fun flags => Locals.peek_bind (fun letter => ?_) ?_ shrinks_refuse
  · dsimp only
    split
    case h_12 =>
      refine local_dropNext.andThen (fun _ => ?_) fun _ _ _ => rfl
      split
      case h_9 =>
        refine Locals.bind (locals_boundary flags.unicode) (fun _ => (local_pure _).weaken) ?_
          fun _ _ _ => rfl
        exact fun condition state opens => .stuck ⟨⟨condition, rfl⟩, opens⟩
      case h_13 =>
        split_ifs
        · exact (local_pure _).weaken
        · exact local_refuse.weaken
      all_goals exact (local_pure _).weaken
    any_goals exact ((local_hexEscape _).map _).weaken
    any_goals exact ((local_unicodeClass _).map _).weaken
    any_goals exact (local_dropNext.bind fun _ => local_pure _).weaken
    all_goals
      refine Local.weaken (local_dropNext.bind fun _ => ?_)
      split_ifs
      · exact local_pure _
      · exact local_refuse
  · exact locals_refuse_of_consumes ((consumes_drop 0).bind fun _ => shrinks_pure (Primitive.character ')'))

end Readers

end PatternReader

end Unannotate
