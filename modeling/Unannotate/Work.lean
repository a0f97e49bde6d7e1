import Unannotate.Event
import Unannotate.Failure
import Unannotate.Span
import Unannotate.Summary

/-!
Work that keeps a journal.

A piece of work ends in a value or a failure, and either way leaves a journal: the events it reported,
what it counted, and the spans it ended. One piece after another concatenates the journals and stops at
the first failure. Nothing can be read back from a journal, so reporting cannot change an outcome.
-/
set_option autoImplicit false

namespace Unannotate

structure Journal where
  events : List Event := []
  summary : Summary := {}
  spans : List Span := []

namespace Journal

def empty : Journal := {}

def append (first second : Journal) : Journal :=
  { events := first.events ++ second.events
    summary := first.summary ++ second.summary
    spans := first.spans ++ second.spans }

instance : Append Journal := ⟨append⟩

theorem append_def (first second : Journal) :
    first ++ second =
      ⟨first.events ++ second.events, first.summary ++ second.summary, first.spans ++ second.spans⟩ :=
  rfl

@[simp] theorem empty_append (journal : Journal) : empty ++ journal = journal := by
  simp only [append_def, empty, List.nil_append]
  exact congrArg (Journal.mk journal.events · journal.spans) (Summary.empty_append journal.summary)

@[simp] theorem append_empty (journal : Journal) : journal ++ empty = journal := by
  simp only [append_def, empty, List.append_nil]
  exact congrArg (Journal.mk journal.events · journal.spans) (Summary.append_empty journal.summary)

theorem append_assoc (first second third : Journal) :
    first ++ second ++ third = first ++ (second ++ third) := by
  simp [append_def, Summary.append_assoc]

end Journal

structure Work (α : Type) where
  journal : Journal
  outcome : Except Failure α

namespace Work

variable {α β : Type}

protected def pure (value : α) : Work α := ⟨.empty, .ok value⟩

protected def bind (first : Work α) (next : α → Work β) : Work β :=
  match first.outcome with
  | .error failure => ⟨first.journal, .error failure⟩
  | .ok value =>
    let second := next value
    ⟨first.journal ++ second.journal, second.outcome⟩

instance : Monad Work where
  pure := Work.pure
  bind := Work.bind

def fail (failure : Failure) : Work α := ⟨.empty, .error failure⟩

def ofOutcome (outcome : Except Failure α) : Work α := ⟨.empty, outcome⟩

/-- A step on an artifact, with what was being done in front of a fault. -/
def ofArtifact (context : Context) : Except Malformation α → Work α
  | .ok value => Work.pure value
  | .error fault => fail ⟨[context], .malformed fault⟩

def report (events : List Event) : Work Unit := ⟨{ events }, .ok ()⟩

def count (summary : Summary) : Work Unit := ⟨{ summary }, .ok ()⟩

def within (context : Context) (work : Work α) : Work α :=
  { work with outcome := whileDoing context work.outcome }

/-- Work inside a span, when spans are kept. -/
def inSpan (traced : Bool) (label : SpanLabel) (work : Work α) : Work α :=
  if traced then
    { work with journal := { work.journal with spans := [.node label work.journal.spans] } }
  else work

/-- Every item in turn, up to the first failure. -/
def each (items : List β) (work : β → Work α) : Work (List α) :=
  match items with
  | [] => Work.pure []
  | item :: rest => do
    let value ← work item
    let values ← each rest work
    return value :: values

theorem bind_pure (value : α) (next : α → Work β) : Work.bind (Work.pure value) next = next value := by
  simp [Work.bind, Work.pure]

theorem bind_assoc {γ : Type} (work : Work α) (next : α → Work β) (last : β → Work γ) :
    Work.bind (Work.bind work next) last = Work.bind work fun value => Work.bind (next value) last := by
  cases found : work.outcome with
  | error failure => simp [Work.bind, found]
  | ok value =>
    cases second : (next value).outcome with
    | error failure => simp [Work.bind, found, second]
    | ok result => simp [Work.bind, found, second, Journal.append_assoc]

theorem outcome_inSpan (traced : Bool) (label : SpanLabel) (work : Work α) :
    (inSpan traced label work).outcome = work.outcome := by
  cases traced <;> rfl

theorem summary_inSpan (traced : Bool) (label : SpanLabel) (work : Work α) :
    (inSpan traced label work).journal.summary = work.journal.summary := by
  cases traced <;> rfl

end Work

end Unannotate
