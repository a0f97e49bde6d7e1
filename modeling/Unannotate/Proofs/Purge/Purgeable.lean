import Mathlib.Data.List.Forall2
import Unannotate.Proofs.ClassFile.Reading
import Unannotate.PurgedClass

/-!
# Parts of a class that a purge decides about

What a pass offers does not depend on what is decided: every part of a class has a fixed list of points,
and what is left of it is a function of the verdicts. A survey finds the two together or fails, and
`Pass.Performs` says that a pass does with its part exactly what a survey of it says, faults included.
Passes over the parts of a whole combine as the surveys do.
-/
set_option autoImplicit false

namespace Unannotate

/-! ## Parts and their points -/

structure Purgeable (α : Type) where
  /-- The points in it, in the order in which they are offered. -/
  points : List AttachmentPoint
  /-- What is left of it when its first point is offered as number `first`. -/
  left : (decision : Decision) → (first : Nat) → α

namespace Purgeable

variable {α β γ : Type}

theorem ext {part other : Purgeable α} (points : part.points = other.points)
    (left : ∀ decision first, part.left decision first = other.left decision first) :
    part = other := by
  obtain ⟨partPoints, partLeft⟩ := part
  obtain ⟨otherPoints, otherLeft⟩ := other
  cases points
  have same : partLeft = otherLeft := by
    funext decision first
    exact left decision first
  rw [same]

/-- A part without points. -/
def fixed (value : α) : Purgeable α := ⟨[], fun _ _ => value⟩

/-- One point and whether it is rejected. -/
def verdict (point : AttachmentPoint) : Purgeable Bool :=
  ⟨[point], fun decision first => decision first point⟩

def map (change : α → β) (part : Purgeable α) : Purgeable β :=
  ⟨part.points, fun decision first => change (part.left decision first)⟩

/-- Two parts, one after the other. -/
def map₂ (join : α → β → γ) (front : Purgeable α) (back : Purgeable β) : Purgeable γ where
  points := front.points ++ back.points
  left decision first :=
    -- The second part is offered after all points of the first, rejected or not.
    join (front.left decision first) (back.left decision (first + front.points.length))

end Purgeable

/-! ## Finding them -/

namespace Survey

variable {α β γ δ ε : Type}

def fixed (value : α) : Except Malformation (Purgeable α) := .ok (.fixed value)

def map (change : α → β) (found : Except Malformation (Purgeable α)) :
    Except Malformation (Purgeable β) :=
  Except.map (Purgeable.map change) found

def map₂ (join : α → β → γ) (front : Except Malformation (Purgeable α))
    (back : Except Malformation (Purgeable β)) : Except Malformation (Purgeable γ) := do
  let first ← front
  let second ← back
  return first.map₂ join second

/-- The parts of a list, one after the other; the first fault ends the search. -/
def collect (join : β → List γ → List γ) (find : α → Except Malformation (Purgeable β)) :
    List α → Except Malformation (Purgeable (List γ))
  | [] => fixed []
  | item :: rest => map₂ join (find item) (collect join find rest)

/-- What is left of each item. -/
def traverse (find : α → Except Malformation (Purgeable β)) :
    List α → Except Malformation (Purgeable (List β)) :=
  collect List.cons find

/-- What is left of the items, where an item can go away as a whole. -/
def filterMap (find : α → Except Malformation (Purgeable (Option β))) :
    List α → Except Malformation (Purgeable (List β)) :=
  collect (fun left others => left.toList ++ others) find

theorem map_eq_ok_iff {change : α → β} {found : Except Malformation (Purgeable α)}
    {part : Purgeable β} :
    map change found = .ok part ↔ ∃ before, found = .ok before ∧ part = before.map change := by
  cases found with
  | error fault => simp [map, Except.map]
  | ok before => simp [map, Except.map, eq_comm]

theorem map₂_eq_ok_iff {join : α → β → γ} {front : Except Malformation (Purgeable α)}
    {back : Except Malformation (Purgeable β)} {part : Purgeable γ} :
    map₂ join front back = .ok part ↔
      ∃ first second, front = .ok first ∧ back = .ok second ∧ part = first.map₂ join second := by
  cases front with
  | error fault => simp [map₂, bind, Except.bind]
  | ok first =>
    cases back with
    | error fault => simp [map₂, bind, Except.bind]
    | ok second => simp [map₂, bind, Except.bind, pure, Except.pure, eq_comm]

theorem collect_cons (join : β → List γ → List γ) (find : α → Except Malformation (Purgeable β))
    (item : α) (rest : List α) :
    collect join find (item :: rest) = map₂ join (find item) (collect join find rest) := rfl

/-! ## What is left of lists -/

/-- All items stay, each in its place. -/
theorem traverse_leaves {related : β → α → Prop} {find : α → Except Malformation (Purgeable β)}
    (each : ∀ item part, find item = .ok part →
      ∀ decision first, related (part.left decision first) item)
    (list : List α) (part : Purgeable (List β)) (found : traverse find list = .ok part)
    (decision : Decision) (first : Nat) :
    List.Forall₂ related (part.left decision first) list := by
  induction list generalizing part first with
  | nil =>
    cases found
    exact List.Forall₂.nil
  | cons item rest ih =>
    obtain ⟨head, tail, headFound, tailFound, rfl⟩ := map₂_eq_ok_iff.mp found
    apply List.Forall₂.cons
    · exact each item head headFound decision first
    · exact ih tail tailFound (first + head.points.length)

/-- The items that stay keep their order. -/
theorem filterMap_leaves {related : β → α → Prop}
    {find : α → Except Malformation (Purgeable (Option β))}
    (each : ∀ item part, find item = .ok part → ∀ decision first value,
      part.left decision first = some value → related value item)
    (list : List α) (part : Purgeable (List β)) (found : filterMap find list = .ok part)
    (decision : Decision) (first : Nat) :
    List.SublistForall₂ related (part.left decision first) list := by
  induction list generalizing part first with
  | nil =>
    cases found
    exact List.SublistForall₂.nil
  | cons item rest ih =>
    obtain ⟨head, tail, headFound, tailFound, rfl⟩ := map₂_eq_ok_iff.mp found
    have others := ih tail tailFound (first + head.points.length)
    show List.SublistForall₂ related ((head.left decision first).toList ++ _) (item :: rest)
    cases fate : head.left decision first with
    | none => exact List.SublistForall₂.cons_right others
    | some value =>
      exact List.SublistForall₂.cons (each item head headFound decision first value fate) others

theorem sublist_of_filterMap {find : α → Except Malformation (Purgeable (Option α))}
    (each : ∀ item part, find item = .ok part → ∀ decision first value,
      part.left decision first = some value → value = item)
    (list : List α) (part : Purgeable (List α)) (found : filterMap find list = .ok part)
    (decision : Decision) (first : Nat) : (part.left decision first).Sublist list := by
  have leaves := filterMap_leaves each list part found decision first
  obtain ⟨copy, same, sublist⟩ := List.sublistForall₂_iff.mp leaves
  rw [List.forall₂_eq_eq_eq] at same
  rw [same]
  exact sublist

/-! ## Laws -/

theorem map_congr {change other : α → β} {found : Except Malformation (Purgeable α)}
    (same : ∀ part, found = .ok part → ∀ decision first,
      change (part.left decision first) = other (part.left decision first)) :
    map change found = map other found := by
  cases found with
  | error fault => rfl
  | ok part =>
    refine congrArg Except.ok (Purgeable.ext rfl ?_)
    intro decision first
    exact same part rfl decision first

theorem map₂_congr {join other : α → β → γ} {front : Except Malformation (Purgeable α)}
    {back : Except Malformation (Purgeable β)}
    (same : ∀ part, back = .ok part → ∀ value decision first,
      join value (part.left decision first) = other value (part.left decision first)) :
    map₂ join front back = map₂ other front back := by
  cases front with
  | error fault => rfl
  | ok part =>
    cases back with
    | error fault => rfl
    | ok part' =>
      refine congrArg Except.ok (Purgeable.ext rfl ?_)
      intro decision first
      exact same part' rfl _ decision _

theorem map_map (change : α → β) (next : β → γ) (found : Except Malformation (Purgeable α)) :
    map next (map change found) = map (fun value => next (change value)) found := by
  cases found <;> rfl

theorem map_map₂ (join : α → β → γ) (change : γ → δ) (front : Except Malformation (Purgeable α))
    (back : Except Malformation (Purgeable β)) :
    map change (map₂ join front back)
      = map₂ (fun first second => change (join first second)) front back := by
  cases front with
  | error fault => rfl
  | ok first => cases back <;> rfl

theorem map₂_map (join : γ → δ → ε) (change : α → γ) (change' : β → δ)
    (front : Except Malformation (Purgeable α)) (back : Except Malformation (Purgeable β)) :
    map₂ join (map change front) (map change' back)
      = map₂ (fun first second => join (change first) (change' second)) front back := by
  cases front with
  | error fault => rfl
  | ok first => cases back <;> rfl

theorem map₂_map_left (join : γ → β → δ) (change : α → γ)
    (front : Except Malformation (Purgeable α)) (back : Except Malformation (Purgeable β)) :
    map₂ join (map change front) back
      = map₂ (fun first second => join (change first) second) front back := by
  cases front <;> rfl

theorem map₂_fixed (join : α → β → γ) (value : α) (back : Except Malformation (Purgeable β)) :
    map₂ join (fixed value) back = map (join value) back := by
  cases back <;> rfl

theorem map_bind (change : β → γ) (source : Except Malformation α)
    (found : α → Except Malformation (Purgeable β)) :
    map change (source >>= found) = source >>= fun value => map change (found value) := by
  cases source <;> rfl

theorem map₂_bind (join : β → γ → δ) (source : Except Malformation α)
    (front : α → Except Malformation (Purgeable β))
    (back : Except Malformation (Purgeable γ)) :
    map₂ join (source >>= front) back = source >>= fun value => map₂ join (front value) back := by
  cases source <;> rfl

end Survey

/-! ## Passes that perform a survey -/

/-- Points with their verdicts, the first offered as number `first`. -/
def Offer.judged (decision : Decision) (first : Nat) (points : List AttachmentPoint) : List Offer :=
  (points.zipIdx first).map fun item => ⟨item.1, decision item.2 item.1⟩

theorem Offer.length_judged (decision : Decision) (first : Nat) (points : List AttachmentPoint) :
    (judged decision first points).length = points.length := by
  simp [judged]

theorem Offer.judged_append (decision : Decision) (first : Nat)
    (front back : List AttachmentPoint) :
    judged decision first (front ++ back)
      = judged decision first front ++ judged decision (first + front.length) back := by
  rw [judged, List.zipIdx_append, List.map_append]
  rfl

namespace Pass

variable {α β γ : Type} {decision : Decision}

/-- Whatever was offered before, the pass fails as the survey of its part fails, and otherwise offers
the points of the part and ends with what is left of it. -/
def Performs (decision : Decision) (pass : Pass α) (found : Except Malformation (Purgeable α)) :
    Prop :=
  ∀ offers : Array Offer, pass.run offers = found.map fun part =>
    (part.left decision offers.size,
      offers ++ (Offer.judged decision offers.size part.points).toArray)

theorem performs_pure (value : α) : Performs decision (pure value) (Survey.fixed value) := by
  intro offers
  rw [StateT.run_pure]
  simp [Survey.fixed, Except.map, Purgeable.fixed, Offer.judged, pure, Except.pure]

theorem performs_verdict (point : AttachmentPoint) :
    Performs decision
      (do
        let offers ← get
        let rejected := decision offers.size point
        set (offers.push ⟨point, rejected⟩)
        return rejected)
      (.ok (.verdict point)) := by
  intro offers
  show Except.ok (decision offers.size point,
    offers.push ⟨point, decision offers.size point⟩) = _
  simp [Except.map, Purgeable.verdict, Offer.judged]

/-- Looking something up offers nothing. -/
theorem performs_lookUp {found : β → Except Malformation (Purgeable α)} {next : β → Pass α}
    (source : Except Malformation β)
    (performs : ∀ value, source = .ok value → Performs decision (next value) (found value)) :
    Performs decision (liftM source >>= next) (source >>= found) := by
  intro offers
  cases source with
  | error fault => rfl
  | ok value => exact performs value rfl offers

theorem performs_bind {pass : Pass α} {next : α → Pass β}
    {found : Except Malformation (Purgeable α)} (offers : Array Offer)
    (performs : Performs decision pass found) :
    (pass >>= next).run offers = found >>= fun part =>
      (next (part.left decision offers.size)).run
        (offers ++ (Offer.judged decision offers.size part.points).toArray) := by
  rw [StateT.run_bind, performs offers]
  cases found <;> rfl

theorem performs_map₂ {front : Pass α} {back : Pass β}
    {found : Except Malformation (Purgeable α)} {found' : Except Malformation (Purgeable β)}
    (join : α → β → γ) (frontPerforms : Performs decision front found)
    (backPerforms : Performs decision back found') :
    Performs decision (do let first ← front; let second ← back; return join first second)
      (Survey.map₂ join found found') := by
  intro offers
  rw [performs_bind offers frontPerforms]
  cases found with
  | error fault => rfl
  | ok part =>
    -- The offers of the first pass are the ones made before the second.
    rw [Reader.ok_bind, performs_bind _ backPerforms]
    cases found' with
    | error fault => rfl
    | ok part' =>
      rw [Reader.ok_bind, StateT.run_pure]
      simp [Survey.map₂, Purgeable.map₂, Except.map, bind, Except.bind, pure, Except.pure,
        Offer.judged_append, Offer.length_judged]

/-- A step that follows the verdicts and cannot fail on what they leave. -/
theorem performs_then {pass : Pass α} {found : Except Malformation (Purgeable α)}
    (next : α → Pass β) (change : α → β) (performs : Performs decision pass found)
    (total : ∀ part, found = .ok part → ∀ first,
      next (part.left decision first) = pure (change (part.left decision first))) :
    Performs decision (pass >>= next) (Survey.map change found) := by
  intro offers
  rw [performs_bind offers performs]
  cases found with
  | error fault => rfl
  | ok part =>
    show (next (part.left decision offers.size)).run _ = _
    rw [total part rfl]
    rfl

theorem performs_map {pass : Pass α} {found : Except Malformation (Purgeable α)} (change : α → β)
    (performs : Performs decision pass found) :
    Performs decision (do let value ← pass; return change value) (Survey.map change found) :=
  performs_then _ _ performs fun _ _ _ => rfl

end Pass

end Unannotate
