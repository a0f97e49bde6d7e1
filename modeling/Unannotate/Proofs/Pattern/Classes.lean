import Unannotate.Proofs.Pattern.Locality

/-!
# Classes in brackets in front of a closing parenthesis

A class finds in front of a closing parenthesis what it finds alone. One that is still open at the end of
the text finds nothing alone, and takes the parenthesis for an item.
-/
set_option autoImplicit false

namespace Unannotate.PatternReader

variable {α β : Type} {back : List Char} {starts : PatternState → Prop}

theorem locals_classItem : Locals back LooksAtBrace starts classItem classItem := by
  refine local_next.andThen (fun letter => ?_) fun _ _ _ => rfl
  split
  · exact locals_escape
  · exact (local_pure _).weaken

theorem local_classCharacter (letter : Char) : Local back starts (classCharacter letter) := by
  refine Local.flags_bind fun flags => ?_
  split_ifs
  · exact local_pure _
  · exact local_refuse

theorem local_primitiveClass (item : Primitive) : Local back starts (primitiveClass item) := by
  cases item with
  | character letter => exact (local_classCharacter letter).bind fun _ => local_pure _
  | set found => exact local_pure _
  | look _ => exact local_refuse

/-- The text is not looked at for a single item. -/
theorem primitiveClass_eq (item : Primitive) (state : PatternState) :
    primitiveClass item state = none ∨ ∃ set, ∀ rest, primitiveClass item { state with rest }
      = some (set, { state with rest }) := by
  cases item with
  | character letter =>
    by_cases allowed : state.flags.unicode ∨ letter.toNat < 128
    · right
      refine ⟨.single letter, fun rest => ?_⟩
      have found : classCharacter letter { state with rest } = some (letter, { state with rest }) := by
        rw [classCharacter, flags_bind, if_pos allowed]
        rfl
      exact bind_of_eq_some found
    · left
      have none : classCharacter letter state = none := by
        rw [classCharacter, flags_bind, if_neg allowed]
        rfl
      exact bind_of_eq_none none
  | set found => exact .inr ⟨found, fun _ => rfl⟩
  | look _ => exact .inl rfl

/-- The character that stands behind the next one and any blanks and comment signs between them. -/
def behindBlanks (ignoreBlanks : Bool) (behind : List Char) : Option Char :=
  if ignoreBlanks then
    match behind.dropWhile isBlank with
    | '#' :: comment =>
      match comment.dropWhile isBlank with
      | [] => behind.head?
      | found :: _ => some found
    | [] => behind.head?
    | found :: _ => some found
  else behind.head?

theorem peekBehindBlanks_eq (state : PatternState) :
    peekBehindBlanks state = some (behindBlanks state.flags.ignoreBlanks state.rest.tail, state) := by
  rw [peekBehindBlanks, get_bind, behindBlanks]
  cases state.flags.ignoreBlanks with
  | false => rfl
  | true =>
    simp only [Bool.not_true, Bool.false_eq_true, if_false, if_true]
    cases state.rest.tail.dropWhile isBlank with
    | nil => rfl
    | cons first comment =>
      by_cases sign : first = '#'
      · subst sign
        rfl
      · simp only
        rfl

/-- A sign in front of which a dash stands for itself. -/
def EndsRange (sign : Option Char) : Prop := sign = some ']' ∨ sign = some '-'

instance (sign : Option Char) : Decidable (EndsRange sign) :=
  inferInstanceAs (Decidable (sign = some ']' ∨ sign = some '-'))

theorem not_endsRange_head? {text : List Char} (blank : text.dropWhile isBlank = []
    ∨ ∃ comment, text.dropWhile isBlank = '#' :: comment) : ¬EndsRange text.head? := by
  have plain : isBlank ']' = false ∧ isBlank '-' = false := by
    constructor <;> rw [isBlank_eq] <;> decide
  cases text with
  | nil => simp [EndsRange]
  | cons first rest =>
    rintro (same | same)
    all_goals
      cases same
      simp [List.dropWhile, plain] at blank

theorem endsRange_behindBlanks (ignoreBlanks : Bool) (behind : List Char) :
    EndsRange (behindBlanks ignoreBlanks (behind ++ ')' :: back)) ↔
      EndsRange (behindBlanks ignoreBlanks behind) := by
  have close : ¬EndsRange (some ')') := by simp [EndsRange]
  unfold behindBlanks
  cases ignoreBlanks with
  | false =>
    cases behind with
    | nil => exact iff_of_false close (by simp [EndsRange])
    | cons first rest => exact Iff.rfl
  | true =>
    simp only [if_true, dropWhile_append not_isBlank_close]
    have plain := @not_endsRange_head? behind
    cases rest : behind.dropWhile isBlank with
    | nil => exact iff_of_false close (plain (.inl rest))
    | cons first comment =>
      by_cases sign : first = '#'
      · subst sign
        simp only [List.cons_append, dropWhile_append not_isBlank_close]
        cases comment.dropWhile isBlank with
        | nil => exact iff_of_false close (plain (.inr ⟨comment, rest⟩))
        | cons found others => exact Iff.rfl
      · simp only [List.cons_append]

/-- The end of a range that begins with `first`. -/
def rangeEnd (first : Primitive) : PatternReader CharClass := do
  pass
  let last ← classItem
  match first, last with
  | .character low, .character high =>
    let low ← classCharacter low
    let high ← classCharacter high
    if low ≤ high then return .range low.toNat high.toNat else refuse
  | _, _ => refuse

/-- A class item after its first character or class, where there is a sign behind that. -/
def rangeBehind (first : Primitive) (sign : Char) : PatternReader CharClass := do
  let behind ← peekBehindBlanks
  if sign ≠ '-' ∨ behind = some ']' ∨ behind = some '-' then primitiveClass first else rangeEnd first

/-- A class item after its first character or class. -/
def rangeFrom (first : Primitive) : PatternReader CharClass := do
  space
  match ← peek with
  | none => refuse
  | some sign => rangeBehind first sign

theorem classRange_eq : classRange = classItem >>= rangeFrom := rfl

theorem local_rangeEnd {character : Char} (first : Primitive) :
    Local back (fun state => starts state ∧ state.rest.head? = some character) (rangeEnd first) := by
  have bounds (low high : Primitive) (starts : PatternState → Prop) :
      Local back starts (match low, high with
        | .character low, .character high => do
          let low ← classCharacter low
          let high ← classCharacter high
          if low ≤ high then return CharClass.range low.toNat high.toNat else refuse
        | _, _ => refuse) := by
    split
    · refine (local_classCharacter _).bind fun _ => (local_classCharacter _).bind fun _ => ?_
      split_ifs
      · exact local_pure _
      · exact local_refuse
    · exact local_refuse
  refine local_passNext.andThen (fun _ => Locals.bind locals_classItem
    (fun last => bounds first last _) ?_ fun _ _ _ => rfl) fun _ _ _ => rfl
  rintro last state ⟨⟨condition, rfl⟩, -⟩
  cases first <;> exact .of_none

theorem rangeBehind_eq (first : Primitive) (sign : Char) (state : PatternState) :
    rangeBehind first sign state =
      if sign ≠ '-' ∨ EndsRange (behindBlanks state.flags.ignoreBlanks state.rest.tail)
      then primitiveClass first state else rangeEnd first state := by
  rw [rangeBehind, bind_of_eq_some (peekBehindBlanks_eq state)]
  unfold EndsRange
  split_ifs <;> rfl

/-- A look is in no class. -/
theorem rangeFrom_look (condition : Assertion) (state : PatternState) :
    rangeFrom (.look condition) state = none := by
  have ended (state : PatternState) : rangeEnd (.look condition) state = none := by
    rw [Option.eq_none_iff_forall_ne_some]
    intro result found
    obtain ⟨_, _, -, found⟩ := bind_eq_some_iff.mp found
    obtain ⟨_, _, -, found⟩ := bind_eq_some_iff.mp found
    cases found
  obtain ⟨after, spaced⟩ : ∃ after, space state = some ((), after) := ⟨_, rfl⟩
  rw [rangeFrom, bind_of_eq_some spaced, peek_bind]
  cases after.rest.head? with
  | none => rfl
  | some sign =>
    dsimp only
    rw [rangeBehind_eq, ended, show primitiveClass (.look condition) after = none from rfl, ite_self]

theorem local_rangeBehind (first : Primitive) (sign : Char) :
    Local back (fun state => starts state ∧ state.rest.head? = some sign) (rangeBehind first sign) := by
  have shrinks : Shrinks (rangeBehind first sign) := by
    refine shrinks_peekBehindBlanks.bind fun _ => ?_
    split_ifs
    · exact shrinks_primitiveClass first
    · have ends : Local back (fun state => starts state ∧ state.rest.head? = some sign) (rangeEnd first) :=
        local_rangeEnd first
      exact ends.shrinks
  refine ⟨shrinks, fun state starting => ?_⟩
  obtain ⟨others, rest⟩ := List.head?_eq_some_iff.mp starting.2
  have tail : (state.before back).rest.tail = state.rest.tail ++ ')' :: back := by
    rw [PatternState.before, rest]
    rfl
  have alike : EndsRange (behindBlanks (state.before back).flags.ignoreBlanks (state.before back).rest.tail) ↔
      EndsRange (behindBlanks state.flags.ignoreBlanks state.rest.tail) := by
    rw [tail]
    exact endsRange_behindBlanks _ _
  rw [rangeBehind_eq, rangeBehind_eq]
  simp only [alike]
  split_ifs
  · have locals : Local back starts (primitiveClass first) := local_primitiveClass first
    exact locals.agrees state starting.1
  · exact (local_rangeEnd first).agrees state starting

/-- Alone the class is not closed; in front of the parenthesis, that is the next item. -/
theorem locals_rangeFrom (first : Primitive) :
    Locals back (fun _ state => state.rest = []) starts (rangeFrom first) (rangeFrom first) := by
  refine local_space.andThen (fun _ => Locals.peek_bind (fun sign => ?_) ⟨?_, ?_⟩ shrinks_refuse)
    fun _ _ _ => rfl
  · exact (local_rangeBehind first sign).weaken
  · have behind : Local back (fun state => starts state ∧ state.rest.head? = some ')')
        (rangeBehind first ')') := local_rangeBehind first ')'
    exact behind.shrinks
  · intro state starting
    dsimp only
    rw [rangeBehind_eq, if_pos (.inl (by decide))]
    rcases primitiveClass_eq first (state.before back) with none | ⟨set, found⟩
    · rw [none]
      exact .of_none
    · have read : primitiveClass first (state.before back) = some (set, state.before back) := found _
      rw [read]
      exact .stuck starting.2

theorem locals_classRange :
    Locals back (fun _ state => state.rest = []) starts classRange classRange := by
  rw [classRange_eq]
  refine Locals.bind locals_classItem (fun first => locals_rangeFrom first) ?_ fun _ _ _ => rfl
  rintro _ state ⟨⟨condition, rfl⟩, -⟩
  rw [rangeFrom_look]
  exact .of_none

theorem local_classStart : Local back starts classStart := by
  have items (negated : Bool) (starts : PatternState → Prop) : Local back starts (do
      let dashes ← leadingDashes (← get).rest.length
      if dashes.isEmpty ∧ (← peek) = some ']' then
        pass
        return (negated, [⟨.single ']', 0⟩])
      else return (negated, dashes)) := by
    simp only [leadingDashes_eq]
    refine local_takeAll (by decide) fun dashes => Local.peek_bind (fun sign => ?_) ?_ ?_
    · split_ifs
      · exact local_passNext.bind fun _ => local_pure _
      · exact local_pure _
    · rw [if_neg (by simp)]
      exact local_pure _
    · rw [if_neg (by simp), if_neg (by simp)]
  refine local_space.bind fun _ => Local.peek_bind (fun sign => ?_) ?_ ?_
  · dsimp only
    split_ifs
    · exact local_passNext.bind fun _ => items _ _
    · exact items _ _
  · exact items _ _
  · rfl

/-- The parenthesis is not part of a class with a name. -/
theorem asciiClassAt?_append (text : List Char) :
    asciiClassAt? (text ++ ')' :: back)
      = (asciiClassAt? text).map fun found => (found.1, found.2.1, found.2.2 ++ ')' :: back) := by
  cases here : asciiClassAt? text with
  | some found =>
    obtain ⟨set, negated, behind⟩ := found
    obtain ⟨name, rfl, known⟩ := asciiClassAt?_eq_some_iff.mp here
    exact asciiClassAt?_eq_some_iff.mpr ⟨name, by simp, known⟩
  | none =>
    rw [Option.map_none, Option.eq_none_iff_forall_ne_some]
    rintro ⟨set, negated, behind⟩ found
    obtain ⟨name, split, known⟩ := asciiClassAt?_eq_some_iff.mp found
    have plain : ')' ∉ ['[', ':'] ++ negation negated ++ (name ++ [':', ']']) := by
      have lower := isLower_of_asciiClass? known ')'
      have absent : ')' ∉ name := fun member => absurd (lower member) (by decide)
      cases negated <;> simp [negation, absent]
    have split : text ++ ')' :: back
        = (['[', ':'] ++ negation negated ++ (name ++ [':', ']'])) ++ behind := by
      rw [split]
      simp
    rcases List.append_eq_append_iff.mp split with ⟨middle, whole, rest⟩ | ⟨middle, whole, -⟩
    · cases middle with
      | nil =>
        rw [List.append_nil] at whole
        have named : asciiClassAt? text = some (set, negated, []) :=
          asciiClassAt?_eq_some_iff.mpr ⟨name, by rw [← whole], known⟩
        rw [here] at named
        cases named
      | cons first others =>
        cases rest
        exact plain (by rw [whole]; simp)
    · have named : asciiClassAt? text = some (set, negated, middle) :=
        asciiClassAt?_eq_some_iff.mpr ⟨name, by rw [whole]; simp, known⟩
      rw [here] at named
      cases named

/-- Nor is it part of an operator. -/
theorem operatorAt?_append {text : List Char} {sign : Char} (front : text.head? = some sign) :
    operatorAt? (text ++ ')' :: back) = operatorAt? text := by
  obtain ⟨others, rfl⟩ := List.head?_eq_some_iff.mp front
  cases others with
  | nil =>
    unfold operatorAt?
    split <;> simp_all
  | cons second rest =>
    unfold operatorAt?
    split <;> split <;> simp_all

theorem two_le_length_of_operatorAt? {text : List Char} {operator : ClassOperator}
    (found : operatorAt? text = some operator) : 2 ≤ text.length := by
  unfold operatorAt? at found
  split at found <;> simp_all

theorem needsText_classBody (fuel : Nat) (negated : Bool) (items : List ClassPiece)
    (pending : Option (ClassOperator × ClassPiece)) : NeedsText (classBody fuel negated items pending) := by
  cases fuel with
  | zero => exact fun _ _ => rfl
  | succ fuel =>
    refine shrinks_space.needsText_bind fun _ state nothing => ?_
    rw [flags_bind, peek_bind, nothing]
    rfl

/-- How a class goes on: text is taken, and there has to be some. -/
structure ContinuesClass (again : ClassReader) : Prop where
  consumes : ∀ negated items pending, Consumes (again negated items pending)
  needsText : ∀ negated items pending, NeedsText (again negated items pending)

theorem ContinuesClass.shrinks {again : ClassReader} (goes : ContinuesClass again) (negated : Bool)
    (items : List ClassPiece) (pending : Option (ClassOperator × ClassPiece)) :
    Shrinks (again negated items pending) :=
  (goes.consumes negated items pending).shrinks

theorem continuesClass_classBody (fuel : Nat) : ContinuesClass (classBody fuel) :=
  ⟨fun _ _ _ => consumes_classBody _ _ _ _, fun _ _ _ => needsText_classBody _ _ _ _⟩

section ClassSteps

variable {bound : Nat} {again counterpart : ClassReader}
  (goes : ContinuesClass again) (goes' : ContinuesClass counterpart)
  (locals : ∀ negated items pending, Locals back Never (fun state => state.rest.length < bound)
    (again negated items pending) (counterpart negated items pending))
include goes goes' locals

theorem locals_innerClass (flags : PatternFlags) (negated : Bool) (items : List ClassPiece)
    (pending : Option (ClassOperator × ClassPiece)) :
    Locals back Never (fun state => state.rest.length < bound + 1 ∧ state.rest.head? = some '[')
      (innerClass again flags negated items pending) (innerClass counterpart flags negated items pending) := by
  refine ⟨(consumes_innerClass flags negated items pending goes'.shrinks).shrinks, fun state starting => ?_⟩
  have whole : (state.before back).rest = state.rest ++ ')' :: back := rfl
  rw [innerClass, innerClass, get_bind, get_bind, whole, asciiClassAt?_append]
  cases named : asciiClassAt? state.rest with
  | some item =>
    obtain ⟨set, inner, behind⟩ := item
    dsimp only [Option.map_some]
    rw [modify_bind, modify_bind]
    have follows : Locals back Never (fun state => state.rest.length < bound)
        (finishClass flags inner set >>= fun set => again negated (⟨set, 0⟩ :: items) pending)
        (finishClass flags inner set >>= fun set => counterpart negated (⟨set, 0⟩ :: items) pending) :=
      (local_finishClass _ _ _).andThen
        (fun set => (locals _ _ _).mono ((shrinks_finishClass _ _ _).bounded fun _ short => short))
        fun set => (goes.needsText _ _ _).congr (goes'.needsText _ _ _)
    refine follows.agrees { state with rest := behind } ?_
    have fewer := (behind_asciiClassAt?_suffix named).length_le
    rw [List.length_tail] at fewer
    have positive := length_pos_of_head? starting.2
    dsimp only
    omega
  | none =>
    have body (start : Bool × List ClassPiece) : Locals back Never (fun state => state.rest.length < bound)
        (again start.1 start.2 none >>= fun nested => again negated (nested :: items) pending)
        (counterpart start.1 start.2 none >>= fun nested => counterpart negated (nested :: items) pending) :=
      Locals.bind (locals _ _ _)
        (fun nested => (locals _ _ _).mono ((goes.shrinks _ _ _).bounded fun _ short => short))
        (fun _ _ nothing => nothing.elim) fun nested => (goes.needsText _ _ _).congr (goes'.needsText _ _ _)
    have opened : Locals back Never (fun state => state.rest.length < bound)
        (classStart >>= fun start =>
          again start.1 start.2 none >>= fun nested => again negated (nested :: items) pending)
        (classStart >>= fun start =>
          counterpart start.1 start.2 none >>= fun nested => counterpart negated (nested :: items) pending) :=
      local_classStart.andThen
        (fun start => (body start).mono (shrinks_classStart.bounded fun _ short => short))
        fun start => ((goes.needsText _ _ _).bind _).congr ((goes'.needsText _ _ _).bind _)
    have whole : Locals back Never
        (fun state => state.rest.length < bound + 1 ∧ state.rest.head? = some '[')
        (drop 1 >>= fun _ => classStart >>= fun start =>
          again start.1 start.2 none >>= fun nested => again negated (nested :: items) pending)
        (drop 1 >>= fun _ => classStart >>= fun start =>
          counterpart start.1 start.2 none >>= fun nested => counterpart negated (nested :: items) pending) :=
      Local.andThen local_dropNext
        (fun _ => opened.mono
          ((consumes_drop 0).bounded fun _ front => ⟨front.1, length_pos_of_head? front.2⟩))
        fun _ => (shrinks_classStart.needsText_bind fun _ => (goes.needsText _ _ _).bind _).congr
          (shrinks_classStart.needsText_bind fun _ => (goes'.needsText _ _ _).bind _)
    exact whole.agrees state starting

theorem locals_rangeOrOperator {sign : Char} (flags : PatternFlags) (negated : Bool) (items : List ClassPiece)
    (pending : Option (ClassOperator × ClassPiece)) :
    Locals back Never (fun state => state.rest.length < bound + 1 ∧ state.rest.head? = some sign)
      (rangeOrOperator again flags negated items pending)
      (rangeOrOperator counterpart flags negated items pending) := by
  refine ⟨(consumes_rangeOrOperator flags negated items pending goes'.shrinks).shrinks,
    fun state starting => ?_⟩
  have whole : (state.before back).rest = state.rest ++ ')' :: back := rfl
  rw [rangeOrOperator, rangeOrOperator, get_bind, get_bind, whole, operatorAt?_append starting.2]
  cases found : operatorAt? state.rest with
  | some operator =>
    have follows : Locals back Never (fun state => state.rest.length < bound + 1 ∧ 2 ≤ state.rest.length)
        (drop 2 >>= fun _ => again negated [] (some (operator, combine flags pending (.unionOf items))))
        (drop 2 >>= fun _ =>
          counterpart negated [] (some (operator, combine flags pending (.unionOf items)))) :=
      Local.andThen ((local_drop 2).mono fun _ front => front.2)
        (fun _ => (locals _ _ _).mono
          ((consumes_drop 1).bounded fun _ front => ⟨front.1, Nat.le_of_succ_le front.2⟩))
        fun _ => (goes.needsText _ _ _).congr (goes'.needsText _ _ _)
    exact follows.agrees state ⟨starting.1, two_le_length_of_operatorAt? found⟩
  | none =>
    have follows : Locals back Never
        (fun state => state.rest.length < bound + 1 ∧ state.rest.head? = some sign)
        (classRange >>= fun set => again negated (⟨set, 0⟩ :: items) pending)
        (classRange >>= fun set => counterpart negated (⟨set, 0⟩ :: items) pending) := by
      refine Locals.bind locals_classRange (fun set => (locals _ _ _).mono ?_) (fun set state nothing => ?_)
        fun _ => (goes.needsText _ _ _).congr (goes'.needsText _ _ _)
      · exact consumes_classRange.bounded fun _ front => ⟨front.1, length_pos_of_head? front.2⟩
      · have refuses : Locals back Never (fun state => True ∧ state.rest = []) refuse
            (counterpart negated (⟨set, 0⟩ :: items) pending) :=
          locals_refuse_of_consumes (goes'.consumes _ _ _)
        exact refuses.agrees state ⟨trivial, nothing⟩
    exact follows.agrees state starting

end ClassSteps

/-- The fuel is more than the text. -/
theorem locals_classBody {fuel more : Nat} (enough : fuel ≤ more) (negated : Bool) (items : List ClassPiece)
    (pending : Option (ClassOperator × ClassPiece)) :
    Locals back Never (fun state => state.rest.length < fuel) (classBody fuel negated items pending)
      (classBody more negated items pending) := by
  induction fuel generalizing more negated items pending with
  | zero => exact ⟨(consumes_classBody _ _ _ _).shrinks, fun _ short => absurd short (Nat.not_lt_zero _)⟩
  | succ fuel ih =>
    obtain ⟨more, rfl⟩ := Nat.exists_eq_add_of_le' (Nat.one_le_of_lt enough)
    have locals := @ih more (Nat.le_of_succ_le_succ enough)
    have goes := continuesClass_classBody fuel
    have goes' := continuesClass_classBody more
    have spaced : ∀ state, (∃ start, start.rest.length < fuel + 1 ∧ space start = some ((), state)) →
        state.rest.length < fuel + 1 := shrinks_space.bounded fun _ short => short
    rw [classBody, classBody]
    refine local_space.andThen (fun _ => Locals.mono (Locals.flags_bind fun flags => ?_) spaced) ?_
    · refine Locals.peek_bind (fun sign => ?_) ?_ shrinks_refuse
      · split
        · next impossible => cases impossible
        · next open' =>
          cases open'
          exact (locals_innerClass goes goes' locals flags negated items pending).mono
            fun _ front => ⟨front.1.1, front.2⟩
        · exact local_dropNext.bind fun _ => (local_finishClass _ _ _).bind fun _ => local_pure _
        · exact (locals_rangeOrOperator goes goes' locals flags negated items pending).mono
            fun _ front => ⟨front.1.1, front.2⟩
      · exact locals_refuse_of_consumes
          (consumes_rangeOrOperator flags negated items pending goes'.shrinks)
    · intro _ state nothing
      rw [flags_bind, flags_bind, peek_bind, peek_bind, nothing]
      rfl

end Unannotate.PatternReader
