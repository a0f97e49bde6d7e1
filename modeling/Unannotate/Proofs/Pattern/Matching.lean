import Mathlib.Data.List.Basic
import Unannotate.Pattern.Basic

/-!
# Marks and matches

Marks are moved over a whole text at once, and a match goes from one boundary to another. Here both say
the same: the marks that a pattern makes of some marks are the ends of its matches that begin at a mark. A
closure may stop at the first round that reaches nothing new, and one round for each boundary is enough.
-/
set_option autoImplicit false

namespace Unannotate

namespace Marks

/-- A boundary is marked. -/
def Marked (marks : Marks) (boundary : Nat) : Prop := marks[boundary]? = some true

theorem lt_length_of_marked {marks : Marks} {boundary : Nat} (marked : marks.Marked boundary) :
    boundary < marks.length := (List.getElem?_eq_some_iff.mp marked).1

/-! ## Single moves -/

theorem length_union {first second : Marks} (even : first.length = second.length) :
    (union first second).length = first.length := by
  rw [union, List.length_zipWith, even, Nat.min_self]

theorem marked_union {first second : Marks} (even : first.length = second.length) (boundary : Nat) :
    (union first second).Marked boundary ↔ first.Marked boundary ∨ second.Marked boundary := by
  unfold Marked
  rw [union, List.getElem?_zipWith]
  by_cases inside : boundary < first.length
  · rw [List.getElem?_eq_getElem inside, List.getElem?_eq_getElem (even ▸ inside)]
    simp
  · rw [List.getElem?_eq_none (by omega), List.getElem?_eq_none (by omega)]
    simp

theorem length_advance {set : CharClass} {text : List Char} {marks : Marks}
    (even : marks.length = text.length + 1) : (advance set text marks).length = text.length + 1 := by
  rw [advance, List.length_cons, List.length_zipWith, even]
  omega

theorem marked_advance {set : CharClass} {text : List Char} {marks : Marks} (boundary : Nat) :
    (advance set text marks).Marked boundary ↔ ∃ start, marks.Marked start ∧ boundary = start + 1 ∧
      ∃ character, text[start]? = some character ∧ set.contains character = true := by
  unfold Marked
  cases boundary with
  | zero => simp [advance]
  | succ boundary =>
    rw [advance, List.getElem?_cons_succ, List.getElem?_zipWith]
    constructor
    · intro moved
      cases marked : marks[boundary]? with
      | none => simp [marked] at moved
      | some mark =>
        cases here : text[boundary]? with
        | none => simp [marked, here] at moved
        | some character =>
          simp only [marked, here, Option.some.injEq, Bool.and_eq_true] at moved
          exact ⟨boundary, by rw [marked, moved.1], rfl, character, here, moved.2⟩
    · rintro ⟨start, marked, next, character, here, member⟩
      obtain rfl := Nat.succ.inj next
      simp [marked, here, member]

theorem getElem?_neighbours (before : Option Char) (text : List Char) (boundary : Nat) :
    (neighbours before text)[boundary]? = if boundary ≤ text.length then
      some (if boundary = 0 then before else text[boundary - 1]?, text[boundary]?) else none := by
  induction text generalizing before boundary with
  | nil =>
    cases boundary with
    | zero => simp [neighbours]
    | succ boundary => simp [neighbours]
  | cons character rest ih =>
    cases boundary with
    | zero => simp [neighbours]
    | succ boundary =>
      rw [neighbours, List.getElem?_cons_succ, ih]
      cases boundary with
      | zero => simp
      | succ boundary => simp

theorem length_neighbours (before : Option Char) (text : List Char) :
    (neighbours before text).length = text.length + 1 := by
  induction text generalizing before with
  | nil => rfl
  | cons character rest ih => rw [neighbours, List.length_cons, ih, List.length_cons]

theorem length_restrict {condition : Assertion} {text : List Char} {marks : Marks}
    (even : marks.length = text.length + 1) :
    (restrict condition text marks).length = text.length + 1 := by
  rw [restrict, List.length_zipWith, length_neighbours, even, Nat.min_self]

theorem marked_restrict {condition : Assertion} {text : List Char} {marks : Marks}
    (even : marks.length = text.length + 1) (boundary : Nat) :
    (restrict condition text marks).Marked boundary ↔ marks.Marked boundary ∧
      condition.holds (if boundary = 0 then none else text[boundary - 1]?) text[boundary]? = true := by
  unfold Marked
  rw [restrict, List.getElem?_zipWith, getElem?_neighbours]
  by_cases inside : boundary ≤ text.length
  · rw [if_pos inside, List.getElem?_eq_getElem (by omega)]
    simp
  · rw [if_neg inside, List.getElem?_eq_none (by omega)]
    simp

/-! ## Repeated moves -/

/-- So many moves from one boundary to another. -/
def Chain (moves : Nat → Nat → Prop) : (count : Nat) → (start stop : Nat) → Prop
  | 0, start, stop => start = stop
  | count + 1, start, stop => ∃ middle, moves start middle ∧ Chain moves count middle stop

/-- A step makes of some marks those that one move reaches from them. -/
structure Tracks (step : Marks → Marks) (moves : Nat → Nat → Prop) (size : Nat) : Prop where
  length : ∀ {marks : Marks}, marks.length = size → (step marks).length = size
  marked : ∀ {marks : Marks}, marks.length = size →
    ∀ stop, (step marks).Marked stop ↔ ∃ start, marks.Marked start ∧ moves start stop

namespace Tracks

variable {step : Marks → Marks} {moves : Nat → Nat → Prop} {size : Nat} {marks : Marks}

theorem times (tracks : Tracks step moves size) (count : Nat) :
    Tracks (Marks.times step count) (Chain moves count) size := by
  induction count with
  | zero => exact ⟨id, fun _ stop => by simp [Marks.times, Chain]⟩
  | succ count ih =>
    refine ⟨fun even => ih.length (tracks.length even), fun even stop => ?_⟩
    rw [Marks.times, ih.marked (tracks.length even)]
    simp only [tracks.marked even, Chain]
    constructor
    · rintro ⟨middle, ⟨start, marked, once⟩, others⟩
      exact ⟨start, marked, middle, once, others⟩
    · rintro ⟨start, marked, middle, once, others⟩
      exact ⟨middle, ⟨start, marked, once⟩, others⟩

theorem length_next (tracks : Tracks step moves size) (even : marks.length = size) :
    (union marks (step marks)).length = size := by
  rw [length_union (even.trans (tracks.length even).symm), even]

theorem marked_next (tracks : Tracks step moves size) (even : marks.length = size) (stop : Nat) :
    (union marks (step marks)).Marked stop ↔
      marks.Marked stop ∨ ∃ start, marks.Marked start ∧ moves start stop := by
  rw [marked_union (even.trans (tracks.length even).symm), tracks.marked even]

/-- Marks from which no move leads elsewhere. -/
theorem marked_of_chain (closed : ∀ start stop, marks.Marked start → moves start stop → marks.Marked stop)
    {count start stop : Nat} (marked : marks.Marked start) (chain : Chain moves count start stop) :
    marks.Marked stop := by
  induction count generalizing start with
  | zero => exact chain ▸ marked
  | succ count ih =>
    obtain ⟨middle, once, others⟩ := chain
    exact ih (closed _ _ marked once) others

theorem closed_of_next_eq (tracks : Tracks step moves size) (even : marks.length = size)
    (still : union marks (step marks) = marks) (start stop : Nat) (marked : marks.Marked start)
    (once : moves start stop) : marks.Marked stop := by
  rw [← still, tracks.marked_next even]
  exact .inr ⟨start, marked, once⟩

theorem length_upTo (tracks : Tracks step moves size) (count : Nat) (even : marks.length = size) :
    (upTo step count marks).length = size := by
  induction count generalizing marks with
  | zero => exact even
  | succ count ih =>
    simp only [upTo]
    split
    · exact even
    · exact ih (tracks.length_next even)

/-- At most so many rounds reach what at most so many moves reach. -/
theorem marked_upTo (tracks : Tracks step moves size) (count : Nat) (even : marks.length = size)
    (stop : Nat) : (upTo step count marks).Marked stop ↔
      ∃ rounds ≤ count, ∃ start, marks.Marked start ∧ Chain moves rounds start stop := by
  induction count generalizing marks with
  | zero => simp [upTo, Chain]
  | succ count ih =>
    simp only [upTo]
    split
    · next still =>
      constructor
      · exact fun marked => ⟨0, Nat.zero_le _, stop, marked, rfl⟩
      · rintro ⟨rounds, -, start, marked, chain⟩
        exact marked_of_chain (tracks.closed_of_next_eq even still) marked chain
    · rw [ih (tracks.length_next even)]
      constructor
      · rintro ⟨rounds, few, start, marked, chain⟩
        rcases (tracks.marked_next even start).mp marked with marked | ⟨first, marked, once⟩
        · exact ⟨rounds, by omega, start, marked, chain⟩
        · exact ⟨rounds + 1, by omega, first, marked, start, once, chain⟩
      · rintro ⟨rounds, few, start, marked, chain⟩
        cases rounds with
        | zero =>
          exact ⟨0, Nat.zero_le _, start, (tracks.marked_next even start).mpr (.inl marked), chain⟩
        | succ rounds =>
          obtain ⟨middle, once, others⟩ := chain
          have reached := (tracks.marked_next even middle).mpr (.inr ⟨start, marked, once⟩)
          exact ⟨rounds, by omega, middle, reached, others⟩

end Tracks

/-! ## Closures -/

theorem union_eq_or_count_lt {first second : Marks} (even : first.length = second.length) :
    union first second = first ∨ first.count true < (union first second).count true := by
  induction first generalizing second with
  | nil => exact .inl (List.zipWith_nil_left)
  | cons mark rest ih =>
    cases second with
    | nil => cases even
    | cons other others =>
      have later := ih (Nat.succ.inj even)
      have step : union (mark :: rest) (other :: others) = (mark || other) :: union rest others := rfl
      rw [step]
      cases mark with
      | true =>
        rcases later with same | more
        · exact .inl (by rw [same, Bool.true_or])
        · right
          simpa using more
      | false =>
        cases other with
        | false =>
          rcases later with same | more
          · exact .inl (by rw [same, Bool.or_self])
          · right
            simpa using more
        | true =>
          have least : rest.count true ≤ (union rest others).count true := by
            rcases later with same | more
            · exact Nat.le_of_eq (congrArg (List.count true) same.symm)
            · exact Nat.le_of_lt more
          right
          simpa using Nat.lt_succ_of_le least

namespace Tracks

variable {step : Marks → Marks} {moves : Nat → Nat → Prop} {size : Nat} {marks : Marks}

/-- After as many rounds as there are boundaries without a mark, no move leads elsewhere. -/
theorem closed_upTo (tracks : Tracks step moves size) (count : Nat) (even : marks.length = size)
    (enough : size ≤ count + marks.count true) (start stop : Nat)
    (marked : (upTo step count marks).Marked start) (once : moves start stop) :
    (upTo step count marks).Marked stop := by
  induction count generalizing marks with
  | zero =>
    have full : marks.count true = marks.length := by
      have most := marks.count_le_length (a := true)
      omega
    have inside : stop < marks.length := by
      have reached := (tracks.marked even stop).mpr ⟨start, marked, once⟩
      have bound := lt_length_of_marked reached
      rwa [tracks.length even, ← even] at bound
    have every := List.count_eq_length.mp full _ (List.getElem_mem inside)
    exact List.getElem?_eq_some_iff.mpr ⟨inside, every.symm⟩
  | succ count ih =>
    simp only [upTo] at marked ⊢
    split at marked
    · next still =>
      rw [if_pos still]
      exact tracks.closed_of_next_eq even still start stop marked once
    · next moved =>
      rw [if_neg moved]
      refine ih (tracks.length_next even) ?_ marked
      rcases union_eq_or_count_lt (even.trans (tracks.length even).symm) with same | more
      · exact absurd same moved
      · omega

/-- One round for each boundary reaches what any number of moves reaches. -/
theorem marked_closure (tracks : Tracks step moves size) (even : marks.length = size) (stop : Nat) :
    (upTo step size marks).Marked stop ↔
      ∃ rounds start, marks.Marked start ∧ Chain moves rounds start stop := by
  constructor
  · intro marked
    obtain ⟨rounds, -, start, found, chain⟩ := (tracks.marked_upTo size even stop).mp marked
    exact ⟨rounds, start, found, chain⟩
  · rintro ⟨rounds, start, marked, chain⟩
    have begun : (upTo step size marks).Marked start :=
      (tracks.marked_upTo size even start).mpr ⟨0, Nat.zero_le _, start, marked, rfl⟩
    exact marked_of_chain (tracks.closed_upTo size even (Nat.le_add_right _ _)) begun chain

end Tracks

theorem chain_add {moves : Nat → Nat → Prop} {first second start stop : Nat} :
    Chain moves (first + second) start stop ↔
      ∃ middle, Chain moves first start middle ∧ Chain moves second middle stop := by
  induction first generalizing start with
  | zero => simp [Chain]
  | succ first ih =>
    rw [Nat.succ_add]
    simp only [Chain, ih]
    constructor
    · rintro ⟨next, once, middle, left, right⟩
      exact ⟨middle, ⟨next, once, left⟩, right⟩
    · rintro ⟨middle, ⟨next, once, left⟩, right⟩
      exact ⟨next, once, middle, left, right⟩

theorem length_all (text : List Char) : (all text).length = text.length + 1 := List.length_replicate

theorem marked_all {text : List Char} {boundary : Nat} :
    (all text).Marked boundary ↔ boundary ≤ text.length := by
  unfold Marked all
  rw [List.getElem?_replicate]
  simp only [Option.ite_none_right_eq_some, and_true, Nat.lt_succ_iff]

end Marks

namespace Pattern

open Marks

/-- Every repetition has room for as many times as it asks for. -/
def Bounded : Pattern → Prop
  | empty => True
  | oneOf _ => True
  | look _ => True
  | append first second => first.Bounded ∧ second.Bounded
  | either first second => first.Bounded ∧ second.Bounded
  | repeated item least most => item.Bounded ∧ ∀ limit ∈ most, least ≤ limit

section Matches

variable {text : List Char}

theorem chain_of_matches {pattern item : Pattern} {least : Nat} {most : Option Nat} {start stop : Nat}
    (found : Matches text pattern start stop) (same : pattern = .repeated item least most) :
    ∃ count, least ≤ count ∧ (∀ limit ∈ most, count ≤ limit) ∧
      Chain (Matches text item) count start stop := by
  induction found generalizing least most with
  | empty | oneOf | look | append | left | right => cases same
  | done start =>
    cases same
    exact ⟨0, Nat.le_refl 0, fun _ _ => Nat.zero_le _, rfl⟩
  | again room once _ _ ih =>
    cases same
    obtain ⟨count, enough, limited, chain⟩ := ih rfl
    refine ⟨count + 1, by omega, fun limit bound => ?_, _, once, chain⟩
    have others : count ≤ limit - 1 := limited _ (by rw [Option.mem_def.mp bound]; rfl)
    have positive : limit ≠ 0 := fun zero => room (by rw [Option.mem_def.mp bound, zero])
    omega

theorem matches_of_chain {item : Pattern} {count least : Nat} {most : Option Nat} {start stop : Nat}
    (enough : least ≤ count) (limited : ∀ limit ∈ most, count ≤ limit)
    (chain : Chain (Matches text item) count start stop) :
    Matches text (.repeated item least most) start stop := by
  induction count generalizing least most start with
  | zero =>
    obtain rfl := Nat.le_zero.mp enough
    obtain rfl : start = stop := chain
    exact .done start
  | succ count ih =>
    obtain ⟨middle, once, others⟩ := chain
    refine .again ?_ once (ih (by omega) ?_ others)
    · rintro rfl
      exact absurd (limited 0 rfl) (by omega)
    · intro limit bound
      obtain ⟨whole, found, rfl⟩ := Option.map_eq_some_iff.mp bound
      have bounded := limited whole found
      omega

/-- A match of a repetition: as many times as it asks for at least, and some times more. -/
theorem matches_repeated_iff {item : Pattern} {least : Nat} {most : Option Nat} {start stop : Nat} :
    Matches text (.repeated item least most) start stop ↔ ∃ more middle,
      (∀ limit ∈ most, least + more ≤ limit) ∧ Chain (Matches text item) least start middle ∧
        Chain (Matches text item) more middle stop := by
  constructor
  · intro found
    obtain ⟨count, enough, limited, chain⟩ := chain_of_matches found rfl
    obtain ⟨more, rfl⟩ := Nat.exists_eq_add_of_le enough
    obtain ⟨middle, early, late⟩ := chain_add.mp chain
    exact ⟨more, middle, limited, early, late⟩
  · rintro ⟨more, middle, limited, early, late⟩
    exact matches_of_chain (Nat.le_add_right _ _) limited (chain_add.mpr ⟨middle, early, late⟩)

theorem tracks_repeated {item : Pattern} {least : Nat} {most : Option Nat}
    (once : Tracks (item.ends text) (Matches text item) (text.length + 1))
    (room : ∀ limit ∈ most, least ≤ limit) :
    Tracks ((Pattern.repeated item least most).ends text) (Matches text (.repeated item least most))
      (text.length + 1) := by
  have begun {marks : Marks} (even : marks.length = text.length + 1) := (once.times least).length even
  cases most with
  | none =>
    refine ⟨fun even => once.length_upTo _ (begun even), fun even stop => ?_⟩
    rw [ends, once.marked_closure (begun even)]
    simp only [(once.times least).marked even, matches_repeated_iff]
    constructor
    · rintro ⟨more, middle, ⟨start, marked, early⟩, late⟩
      exact ⟨start, marked, more, middle, (fun _ absent => nomatch absent), early, late⟩
    · rintro ⟨start, marked, more, middle, -, early, late⟩
      exact ⟨more, middle, ⟨start, marked, early⟩, late⟩
  | some limit =>
    have fewer : least ≤ limit := room limit rfl
    refine ⟨fun even => once.length_upTo _ (begun even), fun even stop => ?_⟩
    rw [ends, once.marked_upTo _ (begun even)]
    simp only [(once.times least).marked even, matches_repeated_iff, Option.mem_some_iff, forall_eq']
    constructor
    · rintro ⟨more, few, middle, ⟨start, marked, early⟩, late⟩
      exact ⟨start, marked, more, middle, by omega, early, late⟩
    · rintro ⟨start, marked, more, middle, few, early, late⟩
      exact ⟨more, by omega, middle, ⟨start, marked, early⟩, late⟩

/-- The marks that a pattern makes of some marks are the ends of the matches that begin at them. -/
theorem tracks_ends (text : List Char) {pattern : Pattern} (bounded : pattern.Bounded) :
    Tracks (pattern.ends text) (Matches text pattern) (text.length + 1) := by
  induction pattern with
  | empty =>
    refine ⟨id, fun _ stop => ⟨fun marked => ⟨stop, marked, .empty stop⟩, ?_⟩⟩
    rintro ⟨start, marked, ⟨⟩⟩
    exact marked
  | oneOf set =>
    refine ⟨length_advance, fun _ stop => ?_⟩
    rw [ends, marked_advance]
    constructor
    · rintro ⟨start, marked, rfl, character, here, member⟩
      exact ⟨start, marked, .oneOf set start character here member⟩
    · rintro ⟨start, marked, ⟨⟩⟩
      exact ⟨start, marked, rfl, _, ‹_›, ‹_›⟩
  | look condition =>
    refine ⟨length_restrict, fun even stop => ?_⟩
    rw [ends, marked_restrict even]
    constructor
    · exact fun ⟨marked, holds⟩ => ⟨stop, marked, .look condition stop holds⟩
    · rintro ⟨start, marked, ⟨⟩⟩
      exact ⟨marked, ‹_›⟩
  | append first second left right =>
    have left := left bounded.1
    have right := right bounded.2
    refine ⟨fun even => right.length (left.length even), fun even stop => ?_⟩
    rw [ends, right.marked (left.length even)]
    simp only [left.marked even]
    constructor
    · rintro ⟨middle, ⟨start, marked, early⟩, late⟩
      exact ⟨start, marked, .append early late⟩
    · rintro ⟨start, marked, ⟨⟩⟩
      exact ⟨_, ⟨start, marked, ‹_›⟩, ‹_›⟩
  | either first second left right =>
    have left := left bounded.1
    have right := right bounded.2
    have same {marks : Marks} (even : marks.length = text.length + 1) :
        (first.ends text marks).length = (second.ends text marks).length :=
      (left.length even).trans (right.length even).symm
    refine ⟨fun even => ?_, fun even stop => ?_⟩
    · rw [ends, length_union (same even), left.length even]
    · rw [ends, marked_union (same even), left.marked even, right.marked even]
      constructor
      · rintro (⟨start, marked, found⟩ | ⟨start, marked, found⟩)
        · exact ⟨start, marked, .left found⟩
        · exact ⟨start, marked, .right found⟩
      · rintro ⟨start, marked, ⟨⟩⟩
        · exact .inl ⟨start, marked, ‹_›⟩
        · exact .inr ⟨start, marked, ‹_›⟩
  | repeated item least most ih => exact tracks_repeated (ih bounded.1) bounded.2

/-- A pattern occurs in a text when there is a match of it from some boundary of the text to another. -/
theorem occursIn_iff {pattern : Pattern} (bounded : pattern.Bounded) (text : List Char) :
    pattern.occursIn text = true ↔ ∃ start stop, start ≤ text.length ∧ Matches text pattern start stop := by
  have found : pattern.occursIn text = true ↔
      ∃ stop, (pattern.ends text (all text)).Marked stop := by
    rw [occursIn, List.any_eq_true]
    simp only [id_eq, exists_eq_right, Marked]
    exact List.mem_iff_getElem?
  rw [found]
  simp only [(tracks_ends text bounded).marked (length_all text), marked_all]
  exact exists_comm

theorem Matches.stop_le {pattern : Pattern} {start stop : Nat} (found : Matches text pattern start stop)
    (inside : start ≤ text.length) : stop ≤ text.length := by
  induction found with
  | empty | look | done => exact inside
  | oneOf _ _ _ here _ => exact (List.getElem?_eq_some_iff.mp here).1
  | append _ _ left right => exact right (left inside)
  | left _ ih | right _ ih => exact ih inside
  | again _ _ _ once others => exact others (once inside)

theorem matches_append_iff {first second : Pattern} {start stop : Nat} :
    Matches text (.append first second) start stop ↔
      ∃ middle, Matches text first start middle ∧ Matches text second middle stop := by
  constructor
  · rintro ⟨⟩
    exact ⟨_, ‹_›, ‹_›⟩
  · rintro ⟨middle, left, right⟩
    exact .append left right

theorem matches_look_iff {condition : Assertion} {start stop : Nat} :
    Matches text (.look condition) start stop ↔ start = stop ∧
      condition.holds (if start = 0 then none else text[start - 1]?) text[start]? = true := by
  constructor
  · rintro ⟨⟩
    exact ⟨rfl, ‹_›⟩
  · rintro ⟨rfl, holds⟩
    exact .look condition start holds

/-- Between the ends of the text, a match of a pattern is one of the whole text. -/
theorem matches_between_ends_iff {pattern : Pattern} {start stop : Nat} (inside : start ≤ text.length) :
    Matches text (.append (.look .textStart) (.append pattern (.look .textEnd))) start stop ↔
      start = 0 ∧ stop = text.length ∧ Matches text pattern 0 text.length := by
  constructor
  · intro whole
    obtain ⟨middle, first, others⟩ := matches_append_iff.mp whole
    obtain ⟨last, found, final⟩ := matches_append_iff.mp others
    obtain ⟨rfl, begins⟩ := matches_look_iff.mp first
    obtain ⟨rfl, ends⟩ := matches_look_iff.mp final
    have front : start = 0 := by
      by_contra behind
      rw [if_neg behind, List.getElem?_eq_getElem (by omega)] at begins
      cases begins
    have back : text.length ≤ last := List.getElem?_eq_none_iff.mp (Option.isNone_iff_eq_none.mp ends)
    subst front
    obtain rfl := Nat.le_antisymm (found.stop_le inside) back
    exact ⟨rfl, rfl, found⟩
  · rintro ⟨rfl, rfl, found⟩
    refine .append (.look _ 0 rfl) (.append found (.look _ _ ?_))
    rw [List.getElem?_eq_none (Nat.le_refl _)]
    rfl

end Matches

end Pattern

end Unannotate
