import Unannotate.Proofs.Telemetry.PurgeSpans
import Unannotate.TracedWorkers

/-!
# Spans that are opened and ended

What a thread leaves when it makes moves does not depend on what other threads do to the tracer in between,
but for the numbers of its spans: `Performs` leaves these open. The moves of a list of spans end every span
that they open, and what has ended are those spans, each below the one that was current when it was opened.
-/
set_option autoImplicit false

namespace Unannotate

/-- What is exported of a span that ends. -/
def ThreadSpan.exported (span : ThreadSpan) : EndedSpan :=
  ⟨span.label, span.opened.span, span.opened.trace, span.parent.map (·.span)⟩

/-- The spans that end with a move. -/
def SpanMove.ending (stack : List ThreadSpan) : SpanMove → List EndedSpan
  | .opens _ _ => []
  | .ends => stack.head?.toList.map (·.exported)

theorem SpanMove.ended_perform (move : SpanMove) (tracer : Tracer) (stack : List ThreadSpan) :
    (move.perform tracer stack).1.ended = tracer.ended ++ move.ending stack := by
  cases move with
  | opens label handed =>
    simp only [perform, ending, List.append_nil, Tracer.start]
    split <;> rfl
  | ends =>
    cases stack with
    | nil => exact (List.append_nil _).symm
    | cons current outer => rfl

/-- A thread makes moves, whatever the tracer is like before each of them: the spans that are open on it
before and after, and those that have ended. -/
inductive Performs : List ThreadSpan → List SpanMove → List ThreadSpan → List EndedSpan → Prop
  | done (stack : List ThreadSpan) : Performs stack [] stack []
  | next {stack last : List ThreadSpan} {move : SpanMove} {moves : List SpanMove}
      {records : List EndedSpan} (tracer : Tracer)
      (rest : Performs (move.perform tracer stack).2 moves last records) :
      Performs stack (move :: moves) last (move.ending stack ++ records)

namespace Performs

variable {stack middle last : List ThreadSpan} {moves more : List SpanMove}
  {records others : List EndedSpan}

theorem append (first : Performs stack moves middle records) (second : Performs middle more last others) :
    Performs stack (moves ++ more) last (records ++ others) := by
  induction first with
  | done stack => exact second
  | next tracer rest ih =>
    rw [List.append_assoc]
    exact .next tracer (ih second)

/-- A thread has made one move more. -/
theorem concat (first : Performs stack moves middle records) (move : SpanMove) (tracer : Tracer) :
    Performs stack (moves ++ [move]) (move.perform tracer middle).2 (records ++ move.ending middle) := by
  have once := first.append (.next tracer (.done (move.perform tracer middle).2))
  rwa [List.append_nil] at once

theorem of_append (both : Performs stack (moves ++ more) last records) :
    ∃ middle early late, Performs stack moves middle early ∧ Performs middle more last late ∧
      records = early ++ late := by
  induction moves generalizing stack records with
  | nil => exact ⟨stack, [], records, .done stack, both, rfl⟩
  | cons move moves ih =>
    rw [List.cons_append] at both
    cases both with
    | next tracer rest =>
      obtain ⟨middle, early, late, first, second, rfl⟩ := ih rest
      exact ⟨middle, _, late, .next tracer first, second, (List.append_assoc _ _ _).symm⟩

end Performs

/-! ## Records that mirror spans -/

/-- What has ended are these spans, below the same parent. The numbers of the spans are left open. -/
inductive Mirrors (trace : Nat) : Option Nat → List Span → List EndedSpan → Prop
  | none (parent : Option Nat) : Mirrors trace parent [] []
  | span {parent : Option Nat} {label : SpanLabel} {children rest : List Span}
      {below beside : List EndedSpan} (number : Nat) (inner : Mirrors trace (some number) children below)
      (after : Mirrors trace parent rest beside) :
      Mirrors trace parent (.node label children :: rest)
        (below ++ ⟨label, number, trace, parent⟩ :: beside)

namespace Mirrors

variable {trace : Nat} {parent : Option Nat} {spans others : List Span} {records beside : List EndedSpan}

theorem append (first : Mirrors trace parent spans records)
    (second : Mirrors trace parent others beside) :
    Mirrors trace parent (spans ++ others) (records ++ beside) := by
  induction first with
  | none parent => exact second
  | span number inner _ _ ih =>
    rw [List.append_assoc, List.cons_append]
    exact .span number inner (ih second)

/-- Every span that has ended says what a span of the trees says, one for one. -/
theorem labels_perm (mirrors : Mirrors trace parent spans records) :
    (records.map (·.label)).Perm (Span.allLabels spans) := by
  induction mirrors with
  | none parent => exact .nil
  | span number _ _ inner after =>
    simp only [List.map_append, List.map_cons, Span.allLabels, Span.labels, List.cons_append]
    exact List.perm_middle.trans (.cons _ (inner.append after))

end Mirrors

/-! ## Moves of spans -/

/-- A span that is opened below a parent ends below it, when what it covers leaves the thread as it was. -/
theorem mirrors_of_span {stack last : List ThreadSpan} {label : SpanLabel} {handed : Option OpenSpan}
    {parent : OpenSpan} {children : List Span} {records : List EndedSpan}
    (current : handed.or (stack.head?.map (·.opened)) = some parent)
    (inside : ∀ top middle below, Performs (top :: stack) (Span.allMoves children) middle below →
      middle = top :: stack ∧ Mirrors top.opened.trace (some top.opened.span) children below)
    (performs : Performs stack (.opens label handed :: (Span.allMoves children ++ [.ends])) last records) :
    last = stack ∧ Mirrors parent.trace (some parent.span) [.node label children] records := by
  cases performs with
  | next tracer covered =>
    have opened : ((SpanMove.opens label handed).perform tracer stack).2
        = ⟨label, ⟨tracer.spans, parent.trace⟩, some parent⟩ :: stack := by
      simp only [SpanMove.perform, current, Tracer.start]
    rw [opened] at covered
    obtain ⟨middle, below, late, first, final, rfl⟩ := covered.of_append
    obtain ⟨rfl, mirrors⟩ := inside _ _ _ first
    cases final with
    | next _ rest =>
      cases rest
      exact ⟨rfl, .span tracer.spans mirrors (.none _)⟩

/-- Moves of spans leave the thread as it was, and these spans below the current one. -/
theorem mirrors_of_allMoves {top : ThreadSpan} {stack last : List ThreadSpan} :
    ∀ {spans : List Span} {records : List EndedSpan},
      Performs (top :: stack) (Span.allMoves spans) last records →
      last = top :: stack ∧ Mirrors top.opened.trace (some top.opened.span) spans records
  | [], _, performs => by
    cases performs
    exact ⟨rfl, .none _⟩
  | .node label children :: rest, records, performs => by
    rw [Span.allMoves] at performs
    obtain ⟨middle, early, late, first, second, rfl⟩ := performs.of_append
    have current : Option.or none ((top :: stack).head?.map (·.opened)) = some top.opened := rfl
    obtain ⟨rfl, mirrors⟩ := mirrors_of_span current (fun _ _ _ => mirrors_of_allMoves) first
    obtain ⟨rfl, others⟩ := mirrors_of_allMoves second
    exact ⟨rfl, mirrors.append others⟩

end Unannotate
