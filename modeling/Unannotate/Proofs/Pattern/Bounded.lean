import Unannotate.Proofs.Pattern.Bodies
import Unannotate.Proofs.Pattern.Matching

/-!
# Repetitions that are read have room

A reader of bounds refuses those that ask for more repetitions than they allow, and no other reader makes
a repetition. So every pattern that is read from a text can be repeated as often as it says.
-/
set_option autoImplicit false

namespace Unannotate.PatternReader

variable {α β : Type}

/-- Whatever the reader finds has the property. -/
def Yields (good : α → Prop) (reader : PatternReader α) : Prop :=
  ∀ ⦃state : PatternState⦄ ⦃value : α⦄ ⦃after : PatternState⦄,
    reader state = some (value, after) → good value

theorem Yields.bind {good : α → Prop} {last : β → Prop} {first : PatternReader α}
    {next : α → PatternReader β} (here : Yields good first)
    (there : ∀ value, good value → Yields last (next value)) : Yields last (first >>= next) := by
  intro state value after found
  obtain ⟨part, _, reached, result⟩ := bind_eq_some_iff.mp found
  exact there part (here reached) result

/-- What comes first does not matter. -/
theorem yields_bind {last : β → Prop} {first : PatternReader α} {next : α → PatternReader β}
    (there : ∀ value, Yields last (next value)) : Yields last (first >>= next) :=
  Yields.bind (fun _ _ _ _ => trivial) fun value _ => there value

theorem yields_pure {good : α → Prop} {value : α} (fine : good value) :
    Yields good (pure value : PatternReader α) := by
  rintro state _ _ ⟨⟩
  exact fine

theorem yields_refuse {good : α → Prop} : Yields good (refuse : PatternReader α) := by
  rintro state _ _ ⟨⟩

/-- Bounds that allow as many times as they ask for. -/
def Roomy (bounds : Nat × Option Nat) : Prop := ∀ limit ∈ bounds.2, bounds.1 ≤ limit

theorem yields_repetitionBounds : Yields Roomy repetitionBounds := by
  have limited (least most : Nat) :
      Yields Roomy (if least ≤ most then return (least, some most) else refuse) := by
    split_ifs with enough
    · exact yields_pure fun limit member => (Option.mem_some.mp member) ▸ enough
    · exact yields_refuse
  refine yields_bind fun least => yields_bind fun sign => ?_
  split
  · refine yields_bind fun _ => yields_bind fun sign => ?_
    split
    · exact yields_bind fun _ => yields_pure fun _ member => nomatch member
    · exact yields_bind fun _ => yields_bind fun _ => yields_bind fun _ => limited _ _
  · exact yields_bind fun count => yields_pure fun limit member =>
      (Option.mem_some.mp member) ▸ Nat.le_refl count

theorem yields_repetition (sign : Char) : Yields Roomy (repetition sign) := by
  unfold repetition
  split
  · exact yields_bind fun _ => yields_bind fun _ => yields_pure fun limit _ => Nat.zero_le limit
  · exact yields_bind fun _ => yields_bind fun _ => yields_pure fun limit _ => Nat.zero_le limit
  · exact yields_bind fun _ => yields_bind fun _ => yields_pure fun _ member => nomatch member
  · refine yields_bind fun _ => yields_repetitionBounds.bind fun bounds roomy => yields_bind fun _ => ?_
    split_ifs
    · exact yields_refuse
    · exact yields_bind fun _ => yields_bind fun _ => yields_pure roomy

theorem yields_orRefuse {good : α → Prop} {found : Option α} (fine : ∀ value ∈ found, good value) :
    Yields good (orRefuse found) := by
  cases found with
  | some value => exact yields_pure (fine value rfl)
  | none => exact yields_refuse

theorem bounded_characterPattern (flags : PatternFlags) (letter : Char) (pattern : Pattern)
    (found : pattern ∈ characterPattern flags letter) : pattern.Bounded := by
  unfold characterPattern at found
  split_ifs at found <;> cases found <;> trivial

theorem yields_primitive : Yields Pattern.Bounded primitive := by
  refine yields_bind fun flags => yields_bind fun letter => ?_
  split
  · refine yields_bind fun found => ?_
    split
    · split_ifs
      · exact yields_orRefuse (bounded_characterPattern _ _)
      · exact yields_refuse
    · exact yields_pure trivial
    · exact yields_pure trivial
  · split_ifs
    · exact yields_pure trivial
    · exact yields_refuse
  · exact yields_pure trivial
  · exact yields_pure trivial
  · exact yields_orRefuse (bounded_characterPattern _ _)

/-- Every repetition in the piece has room. -/
def Piece.Bounded (piece : Piece) : Prop := piece.pattern.Bounded

theorem Piece.bounded_foldl {join : Pattern → Pattern → Pattern}
    (joined : ∀ first second, first.Bounded → second.Bounded → (join first second).Bounded)
    {pieces : List Piece} {last : Pattern} (fine : last.Bounded) (bounded : ∀ piece ∈ pieces, piece.Bounded) :
    (pieces.foldl (fun rest piece => join piece.pattern rest) last).Bounded := by
  induction pieces generalizing last with
  | nil => exact fine
  | cons piece others ih =>
    obtain ⟨here, there⟩ := List.forall_mem_cons.mp bounded
    exact ih (joined _ _ here fine) there

theorem Piece.bounded_appendAll {items : List (Option Piece)}
    (bounded : ∀ piece, some piece ∈ items → piece.Bounded) : (Piece.appendAll items).Bounded := by
  have pieces : ∀ piece ∈ items.map fun item => item.getD ⟨.empty, 0⟩, piece.Bounded := by
    rintro piece member
    obtain ⟨item, listed, rfl⟩ := List.mem_map.mp member
    cases item with
    | none => trivial
    | some piece => exact bounded piece listed
  unfold Piece.appendAll
  dsimp only
  split
  · trivial
  · next only => exact pieces _ (by rw [only]; exact List.mem_singleton_self _)
  · next last others _ split =>
    rw [split] at pieces
    obtain ⟨here, there⟩ := List.forall_mem_cons.mp pieces
    exact Piece.bounded_foldl (fun _ _ => And.intro) here there

theorem Piece.bounded_eitherOf {branches : List Piece} (bounded : ∀ piece ∈ branches, piece.Bounded) :
    (Piece.eitherOf branches).Bounded := by
  unfold Piece.eitherOf
  split
  · trivial
  · exact bounded _ (List.mem_singleton_self _)
  · obtain ⟨here, there⟩ := List.forall_mem_cons.mp bounded
    exact Piece.bounded_foldl (fun _ _ => And.intro) here there

theorem yields_body (fuel : Nat) {items : List (Option Piece)} {branches : List Piece}
    (bounded : ∀ piece, some piece ∈ items → piece.Bounded) (others : ∀ piece ∈ branches, piece.Bounded) :
    Yields Piece.Bounded (body fuel items branches) := by
  induction fuel generalizing items branches with
  | zero => exact yields_refuse
  | succ fuel ih =>
    have branch : ∀ piece ∈ Piece.appendAll items :: branches, piece.Bounded :=
      List.forall_mem_cons.mpr ⟨Piece.bounded_appendAll bounded, others⟩
    have item {piece : Piece} {before : List (Option Piece)} (fine : piece.Bounded)
        (kept : ∀ piece, some piece ∈ before → piece.Bounded) :
        Yields Piece.Bounded (body fuel (some piece :: before) branches) := by
      refine ih (fun other member => ?_) others
      rcases List.mem_cons.mp member with same | member
      · cases same
        exact fine
      · exact kept other member
    rw [body_succ]
    refine yields_bind fun _ => yields_bind fun flags => yields_bind fun found => ?_
    split
    · exact yields_pure (Piece.bounded_eitherOf branch)
    · exact yields_pure (Piece.bounded_eitherOf branch)
    · exact yields_bind fun _ => ih (fun _ member => nomatch member) branch
    · refine yields_bind fun _ => yields_bind fun start => ?_
      cases start with
      | flags inner =>
        refine yields_bind fun _ => ih (fun piece member => ?_) others
        exact bounded piece ((List.mem_cons.mp member).resolve_left nofun)
      | group inner =>
        have inside : Yields Piece.Bounded (body fuel [] []) :=
          ih (fun _ member => nomatch member) fun _ member => nomatch member
        exact yields_bind fun _ => inside.bind fun piece fine =>
          yields_bind fun _ => yields_bind fun _ => item fine bounded
    · exact yields_bind fun _ => yields_bind fun _ => yields_bind fun _ => yields_bind fun _ =>
        item trivial bounded
    · split_ifs
      · unfold repetitionBody
        split
        · next piece before =>
          refine (yields_repetition _).bind fun bounds roomy => item ⟨?_, roomy⟩ fun other member => ?_
          · exact bounded piece List.mem_cons_self
          · exact bounded other (List.mem_cons_of_mem _ member)
        · exact yields_refuse
      · exact yields_primitive.bind fun pattern fine => item fine bounded

end Unannotate.PatternReader
