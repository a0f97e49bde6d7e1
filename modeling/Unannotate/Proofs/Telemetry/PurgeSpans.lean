import Unannotate.Proofs.ArchivePurge.Outcome
import Unannotate.Proofs.Workers.Delivered

/-!
# The spans of a purge

A purge that succeeds has left a span for every artifact in what it purged: those of the entries of an archive
are directly below that of the archive. There is one for each artifact that the walk visits, so as many as
are counted.
-/
set_option autoImplicit false

namespace Unannotate

open Archive

/-! ## Work and its spans -/

namespace Work

variable {α β : Type}

theorem spans_bind {work : Work α} {value : α} (succeeded : work.outcome = .ok value) (next : α → Work β) :
    (work >>= next).journal.spans = work.journal.spans ++ (next value).journal.spans := by
  rw [bind_of_ok succeeded]
  rfl

/-- What comes after a piece of work may leave no spans. -/
theorem spans_bind_of_silent (work : Work α) {next : α → Work β}
    (silent : ∀ value, (next value).journal.spans = []) :
    (work >>= next).journal.spans = work.journal.spans := by
  cases found : work.outcome with
  | error failure => rw [bind_of_error found]
  | ok value => rw [spans_bind found, silent, List.append_nil]

theorem spans_inSpan (label : SpanLabel) (work : Work α) :
    (inSpan true label work).journal.spans = [.node label work.journal.spans] := rfl

theorem spans_each {items : List β} {work : β → Work α} {values : List α}
    (succeeded : (each items work).outcome = .ok values) :
    (each items work).journal.spans = items.flatMap fun item => (work item).journal.spans := by
  induction items generalizing values with
  | nil => rfl
  | cons item rest ih =>
    obtain ⟨value, first, others⟩ := bind_ok_iff.mp succeeded
    obtain ⟨values, later, -⟩ := bind_ok_iff.mp others
    rw [each, spans_bind first, spans_bind_of_silent _ fun _ => rfl, ih later, List.flatMap_cons]

end Work

/-! ## What spans there are -/

def ArtifactKind.spanName : ArtifactKind → String
  | .classFile => "class.purge"
  | .archive => "archive.purge"

/-- How many artifacts of a kind were counted. -/
def ArtifactKind.counted (summary : Summary) : ArtifactKind → Nat
  | .classFile => summary.classes
  | .archive => summary.archives

/-- What the span of an artifact says, given where the artifact comes from. -/
def ArtifactKind.spanLabel (origin : String) : ArtifactKind → SpanLabel
  | .classFile => ⟨ArtifactKind.classFile.spanName, [("purgeannorefs.class", .text origin)]⟩
  | .archive => ⟨ArtifactKind.archive.spanName, [("purgeannorefs.archive", .text origin)]⟩

def entrySpans (within : ArtifactKind → String → Bytes → List Span) (origin : String) (archive : Archive)
    (entry : Entry) : List Span :=
  match entry.artifact?, archive.contentOf? entry with
  | some kind, some content => within kind (origin ++ ":" ++ entry.name) content
  | _, _ => []

/-- The span of an artifact; below that of an archive are those of the artifacts that it directly holds. -/
def spansOf : (levels : Nat) → ArtifactKind → String → Bytes → List Span
  | _, .classFile, origin, _ => [.node (ArtifactKind.classFile.spanLabel origin) []]
  | 0, .archive, _, _ => []
  | levels + 1, .archive, origin, data =>
    [.node (ArtifactKind.archive.spanLabel origin)
      (match Archive.listing data with
      | .error _ => []
      | .ok (archive, _) => archive.entries.flatMap (entrySpans (spansOf levels) origin archive))]

section Purge

variable {optimize : ClassOptimizer} {levels : Nat}

theorem spans_purgeClass (optimize : ClassOptimizer) (origin : String) (data : Bytes) :
    (purgeClass optimize true origin data).journal.spans
      = [.node (ArtifactKind.classFile.spanLabel origin) []] := by
  unfold purgeClass
  rw [Work.spans_bind_of_silent]
  · simp only [Work.within, Work.spans_inSpan]
    cases optimize data <;> rfl
  · intro purged
    split <;> rfl

theorem spans_purgeContent (purge : Purge) (origin : String) {entry : Entry} {compression : Compression}
    {stored content : Bytes} (read : entry.content? compression stored = some content) :
    (purgeContent purge origin entry compression stored).journal.spans
      = (purge origin content).journal.spans := by
  have gives : readContent origin entry compression stored = pure content := by
    simp only [readContent, read]
  unfold purgeContent
  rw [gives, pure_bind, Work.spans_bind (Work.outcome_report _), Work.spans_bind_of_silent]
  · rfl
  · intro new
    cases new <;> rfl

theorem spans_listEntries (origin : String) (data : Bytes) : (listEntries origin data).journal.spans = [] := by
  have opened (bytes : Bytes) : (openArchive origin bytes).journal.spans = [] := by
    unfold openArchive
    cases ofBytes bytes <;> rfl
  unfold listEntries
  cases found : (openArchive origin data).outcome with
  | error failure => rw [Work.bind_of_error found, opened]
  | ok archive =>
    rw [Work.spans_bind found, opened, Work.spans_bind (Work.outcome_count _)]
    cases firstEntriesOnly archive.data archive.directoryStart archive.offset with
    | error fault => rfl
    | ok reduction =>
      cases reduction with
      | none => rfl
      | some reduction =>
        have last : (openArchive origin reduction.1 >>= fun reduced =>
            (pure ({ reduced with comment := archive.comment }, true) : Work (Archive × Bool))).journal.spans
            = [] := (Work.spans_bind_of_silent _ fun _ => rfl).trans (opened _)
        exact last

/-- Each purge of what an archive holds that succeeds has left the spans that there are. -/
def LeavesSpans (optimize : ClassOptimizer) (levels : Nat) : Prop :=
  ∀ kind origin data result, (purgeWithin optimize true levels kind origin data).outcome = .ok result →
    (purgeWithin optimize true levels kind origin data).journal.spans = spansOf levels kind origin data

theorem spans_purgeEntry (inside : LeavesSpans optimize levels) {origin : String} {archive : Archive}
    {item : Entry × Nat} {purged : PurgedEntry}
    (succeeds : (purgeEntry (purgeClass optimize true) (purgeArchive optimize true levels) origin archive
      item).outcome = .ok purged) :
    (purgeEntry (purgeClass optimize true) (purgeArchive optimize true levels) origin archive
      item).journal.spans = entrySpans (spansOf levels) origin archive item.1 := by
  obtain ⟨entry, index⟩ := item
  have artifact {kind : ArtifactKind} {compression : Compression} {stored content : Bytes}
      {result : Option Bytes} (opened : archive.open? entry = some (compression, stored))
      (sort : entry.artifact? = some kind) (read : entry.content? compression stored = some content)
      (purges : (purgeWithin optimize true levels kind (origin ++ ":" ++ entry.name) content).outcome
        = .ok result) :
      (purgeEntry (purgeClass optimize true) (purgeArchive optimize true levels) origin archive
        (entry, index)).journal.spans = entrySpans (spansOf levels) origin archive entry := by
    have found : archive.contentOf? entry = some content :=
      contentOf?_eq_some_iff.mpr ⟨compression, stored, opened, read⟩
    simp only [purgeEntry, entrySpans, opened, sort, found, ← inside _ _ _ _ purges]
    cases kind <;> exact spans_purgeContent _ _ read
  cases purgeEntry_ok_iff.mp succeeds with
  | resource opened plain =>
    simp only [purgeEntry, entrySpans, opened, plain]
    rfl
  | untouched opened sort read purges => exact artifact opened sort read purges
  | replaced opened sort read purges => exact artifact opened sort read purges

theorem spans_purgeEntries (inside : LeavesSpans optimize levels) {origin : String} {archive : Archive}
    {comment : Bytes} {changed : Bool} {result : Option Bytes}
    (succeeds : (purgeEntries (purgeClass optimize true) (purgeArchive optimize true levels) origin archive
      comment changed).outcome = .ok result) :
    (purgeEntries (purgeClass optimize true) (purgeArchive optimize true levels) origin archive comment
      changed).journal.spans = archive.entries.flatMap (entrySpans (spansOf levels) origin archive) := by
  obtain ⟨purged, every, -⟩ := Work.bind_ok_iff.mp succeeds
  have each : archive.entries.zipIdx.flatMap (fun item => (purgeEntry (purgeClass optimize true)
      (purgeArchive optimize true levels) origin archive item).journal.spans)
        = archive.entries.flatMap (entrySpans (spansOf levels) origin archive) := by
    conv_rhs => rw [← List.zipIdx_map_fst 0 archive.entries, List.flatMap_map]
    refine List.flatMap_congr fun item member => ?_
    obtain ⟨value, -, succeeds⟩ := exists_related_of_mem (Work.each_ok_iff.mp every) member
    exact spans_purgeEntry inside succeeds
  unfold purgeEntries
  rw [Work.spans_bind_of_silent, Work.spans_each every, each]
  intro purged
  split
  · rw [Work.spans_bind (Work.outcome_report _)]
    cases encode? (purged.map (·.1)) comment <;> rfl
  · rfl

theorem leavesSpans (optimize : ClassOptimizer) (levels : Nat) : LeavesSpans optimize levels := by
  induction levels with
  | zero =>
    intro kind origin data result succeeds
    cases kind with
    | classFile => exact spans_purgeClass optimize origin data
    | archive => cases succeeds
  | succ levels ih =>
    intro kind origin data result succeeds
    cases kind with
    | classFile => exact spans_purgeClass optimize origin data
    | archive =>
      simp only [purgeWithin, purgeArchive_succ, Work.outcome_inSpan, Work.spans_inSpan] at succeeds ⊢
      obtain ⟨⟨archive, repeats⟩, listed, entries⟩ := Work.bind_ok_iff.mp succeeds
      rw [Work.spans_bind listed, spans_listEntries, List.nil_append, spans_purgeEntries ih entries]
      rw [outcome_listEntries, mapError_eq_ok_iff] at listed
      simp only [spansOf, listed]
      rfl

end Purge

/-! ## How many spans there are -/

mutual

/-- What spans say, each before those below it. -/
def Span.labels : Span → List SpanLabel
  | .node label children => label :: Span.allLabels children

def Span.allLabels : List Span → List SpanLabel
  | [] => []
  | span :: rest => span.labels ++ Span.allLabels rest

end

theorem Span.allLabels_append (spans others : List Span) :
    allLabels (spans ++ others) = allLabels spans ++ allLabels others := by
  induction spans with
  | nil => rfl
  | cons span rest ih => rw [List.cons_append, allLabels, allLabels, ih, List.append_assoc]

theorem Span.allLabels_flatMap {α : Type} (items : List α) (spans : α → List Span) :
    allLabels (items.flatMap spans) = items.flatMap fun item => allLabels (spans item) := by
  induction items with
  | nil => rfl
  | cons item rest ih => rw [List.flatMap_cons, List.flatMap_cons, allLabels_append, ih]

/-- What the span says of the artifact that the step begins with. -/
def PurgeStep.spanLabel? : PurgeStep → Option SpanLabel
  | listing path _ => some (ArtifactKind.archive.spanLabel (originOf path))
  | optimizing path _ => some (ArtifactKind.classFile.spanLabel (originOf path))
  | limit _ | opening _ _ _ _ | reading _ _ _ _ | writing _ _ _ => none

def spanLabels (steps : List PurgeStep) : List SpanLabel := steps.filterMap PurgeStep.spanLabel?

theorem spanLabels_append (steps others : List PurgeStep) :
    spanLabels (steps ++ others) = spanLabels steps ++ spanLabels others := List.filterMap_append

theorem countP_spanLabels (kind : ArtifactKind) (steps : List PurgeStep) :
    (spanLabels steps).countP (·.name = kind.spanName) = (visits kind steps).length := by
  rw [spanLabels, visits, List.countP_filterMap, List.length_filterMap_eq_countP]
  refine List.countP_congr fun step _ => ?_
  cases kind <;> cases step <;>
    simp [PurgeStep.spanLabel?, PurgeStep.visit?, ArtifactKind.spanLabel, ArtifactKind.spanName]

/-- A span that is left is that of a class or of an archive. -/
theorem length_spanLabels (steps : List PurgeStep) :
    (spanLabels steps).length = (visits .archive steps).length + (visits .classFile steps).length := by
  induction steps with
  | nil => rfl
  | cons step rest ih =>
    simp only [spanLabels, visits, List.filterMap_cons] at ih ⊢
    cases step <;> simp [PurgeStep.spanLabel?, PurgeStep.visit?, ih] <;> omega

section Labels

variable (optimize : ClassOptimizer) {levels : Nat}

theorem labels_entrySpans
    (inside : ∀ kind path data, path ≠ [] → Span.allLabels (spansOf levels kind (originOf path) data)
      = spanLabels (stepsOf optimize levels kind path data)) {path : List String} (named : path ≠ [])
    (archive : Archive) (item : Entry × Nat) :
    Span.allLabels (entrySpans (spansOf levels) (originOf path) archive item.1)
      = spanLabels (entrySteps (stepsOf optimize levels) path archive item) := by
  obtain ⟨entry, index⟩ := item
  simp only [entrySpans, entrySteps, contentOf?]
  cases archive.open? entry with
  | none => cases entry.artifact? <;> rfl
  | some kept =>
    obtain ⟨compression, stored⟩ := kept
    cases entry.artifact? with
    | none => rfl
    | some kind =>
      rw [Option.bind_eq_bind, Option.bind_some, ← originOf_within named]
      cases read : entry.content? compression stored with
      | none =>
        simp only [read]
        rfl
      | some content =>
        simp only [read]
        exact inside kind (path ++ [entry.name]) content (by simp)

/-- There is a span for each artifact that the walk visits, in the same order. -/
theorem labels_spansOf (levels : Nat) (kind : ArtifactKind) (path : List String) (data : Bytes)
    (named : path ≠ []) :
    Span.allLabels (spansOf levels kind (originOf path) data)
      = spanLabels (stepsOf optimize levels kind path data) := by
  induction levels generalizing kind path data with
  | zero => cases kind <;> rfl
  | succ levels ih =>
    cases kind with
    | classFile => rfl
    | archive =>
      simp only [spansOf, stepsOf]
      cases Archive.listing data with
      | error cause => rfl
      | ok found =>
        obtain ⟨archive, repeats⟩ := found
        have entries : Span.allLabels (archive.entries.flatMap
            (entrySpans (spansOf levels) (originOf path) archive))
              = spanLabels (archive.entries.zipIdx.flatMap
                (entrySteps (stepsOf optimize levels) path archive)) := by
          conv_lhs => rw [← List.zipIdx_map_fst 0 archive.entries, List.flatMap_map]
          rw [Span.allLabels_flatMap, spanLabels, List.filterMap_flatMap]
          exact List.flatMap_congr fun item _ => labels_entrySpans optimize ih named archive item
        have silent (written : Bool) (news : List NewEntry) : spanLabels
            (if written then [.writing path news archive.comment] else []) = [] := by
          cases written <;> rfl
        simp only [Span.allLabels, Span.labels, entries, List.append_nil]
        conv_rhs => rw [← List.singleton_append, spanLabels_append, spanLabels_append, silent,
          List.append_nil]
        rfl

end Labels

/-- What was counted is the classes and the archives that have spans, and there are no other spans. -/
structure Summary.Covers (summary : Summary) (spans : List Span) : Prop where
  kinds : ∀ kind : ArtifactKind,
    (Span.allLabels spans).countP (·.name = kind.spanName) = kind.counted summary
  total : (Span.allLabels spans).length = summary.archives + summary.classes

theorem covers_spansOf (optimize : ClassOptimizer) (levels : Nat) (kind : ArtifactKind) (origin : String)
    (data : Bytes) :
    (tally optimize (stepsOf optimize levels kind [origin] data)).Covers
      (spansOf levels kind origin data) := by
  have labels := labels_spansOf optimize levels kind [origin] data (List.cons_ne_nil _ _)
  rw [originOf_singleton] at labels
  constructor
  · intro sort
    rw [labels, countP_spanLabels]
    cases sort <;> rfl
  · rw [labels, length_spanLabels]
    rfl

/-- A purge of an artifact that succeeds has left the spans of the artifact, and has counted them. -/
theorem spans_purgeArtifact {optimize : ClassOptimizer} {kind : ArtifactKind} {origin : String}
    {data : Bytes} {result : Option Bytes}
    (succeeds : (purgeArtifact optimize true kind origin data).outcome = .ok result) :
    (purgeArtifact optimize true kind origin data).journal.spans = spansOf maxNesting kind origin data ∧
      (purgeArtifact optimize true kind origin data).journal.summary.Covers
        (spansOf maxNesting kind origin data) := by
  rw [summary_purgeArtifact succeeds]
  rw [purgeArtifact_eq_purgeWithin] at succeeds ⊢
  exact ⟨leavesSpans optimize maxNesting kind origin data result succeeds,
    covers_spansOf optimize maxNesting kind origin data⟩

end Unannotate
