import Unannotate.Proofs.ArchivePurge.Contents
import Unannotate.Proofs.ArchivePurge.Outcome

/-!
# A purge leaves its own output as it is

What a purge has written repeats no name, and in it every entry is the kind of artifact that it was. So
when the optimizer has nothing more to do with the classes that it has written, neither has the purge with
the archive. As elsewhere this takes for granted that an archive is read as it was written.
-/
set_option autoImplicit false

namespace Unannotate

open Archive

/-- What the optimizer has written, it leaves as it is, and removes nothing from. -/
def Idempotent (optimize : ClassOptimizer) : Prop :=
  ∀ data purged events bytes, optimize data = .ok (purged, events) → purged.bytes = some bytes →
    ∃ again later, optimize bytes = .ok (again, later) ∧ again.bytes = none ∧ again.removed = []

/-- Reading an archive that was written gives all that was written. -/
def Archive.ReadsWhole (written : List NewEntry) (comment : Bytes) : Prop :=
  ∀ bytes, encode? written comment = some bytes → ofBytes bytes = .ok (asWritten written comment bytes)

variable {optimize : ClassOptimizer} {traced : Bool} {levels : Nat} {origin : String}

/-! ## Elsewhere -/

theorem PurgesEntry.elsewhere {purge later : ArtifactKind → Purge} {other : String} {archive : Archive}
    {entry : Entry} {purged : PurgedEntry} (step : PurgesEntry purge origin archive entry purged)
    (same : ∀ kind content result,
      (purge kind (origin ++ ":" ++ entry.name) content).outcome = .ok result →
      (later kind (other ++ ":" ++ entry.name) content).outcome = .ok result) :
    PurgesEntry later other archive entry purged := by
  cases step with
  | resource opened plain => exact .resource opened plain
  | untouched opened artifact read purged =>
    exact .untouched opened artifact read (same _ _ _ purged)
  | replaced opened artifact read purged =>
    exact .replaced opened artifact read (same _ _ _ purged)

/-- What a purge gives does not depend on where the artifact is said to be from. -/
theorem purgeWithin_elsewhere {kind : ArtifactKind} {data : Bytes} {result : Option Bytes}
    (succeeds : (purgeWithin optimize traced levels kind origin data).outcome = .ok result)
    (other : String) : (purgeWithin optimize traced levels kind other data).outcome = .ok result := by
  induction levels generalizing kind origin data result other with
  | zero =>
    cases kind with
    | classFile => exact purgeClass_ok_iff.mpr (purgeClass_ok_iff.mp succeeds)
    | archive => cases succeeds
  | succ levels ih =>
    cases kind with
    | classFile => exact purgeClass_ok_iff.mpr (purgeClass_ok_iff.mp succeeds)
    | archive =>
      obtain ⟨archive, repeats, listed, purged, steps, repacked⟩ := purgeArchive_ok_iff.mp succeeds
      refine purgeArchive_ok_iff.mpr ⟨archive, repeats, listed, purged, steps.imp ?_, repacked⟩
      exact fun entry new step => step.elsewhere fun kind content result purges => ih purges _

/-! ## What was written -/

/-- An entry that was written is left as it is, when its content is. -/
theorem PurgesEntry.again {purge later : ArtifactKind → Purge} {other : String}
    {before after : Archive} {old final : Entry} {purged : PurgedEntry}
    (step : PurgesEntry purge origin before old purged) (read : after.ReadAs purged.1 final)
    (stands : ∀ kind content result, old.artifact? = some kind →
      before.contentOf? old = some content →
      (purge kind (origin ++ ":" ++ old.name) content).outcome = .ok result →
      (later kind (other ++ ":" ++ final.name) (result.getD content)).outcome = .ok none) :
    ∃ kept, PurgesEntry later other after final kept ∧ kept.2 = false := by
  have named : final.name = old.name := by
    obtain ⟨⟨offset, rfl⟩, -⟩ := read
    exact step.renews.name_eq
  have sort := Entry.artifact?_congr named
  have content := read.contentOf?_eq
  have given := step.content?_eq
  rw [← content] at given
  cases artifact : old.artifact? with
  | none => exact ⟨_, .resource read.opens (sort.trans artifact), rfl⟩
  | some kind =>
    rw [artifact] at given
    obtain ⟨inner, result, found, purges, reread⟩ := given
    obtain ⟨_, _, opened, expanded⟩ := contentOf?_eq_some_iff.mp reread
    exact ⟨_, .untouched opened (sort.trans artifact) expanded
      (stands kind inner result artifact found purges), rfl⟩

/-- What was written is listed without repeats, and all of it is read. -/
theorem Archive.Listed.rewritten {data bytes : Bytes} {archive : Archive} {repeats : Bool}
    {written : List NewEntry} (listed : Listed data archive repeats)
    (renews : List.Forall₂ archive.Renews archive.entries written)
    (readsWhole : ReadsWhole written archive.comment)
    (encoded : encode? written archive.comment = some bytes) :
    ∃ after, Listed bytes after false ∧ List.Forall₂ after.ReadAs written after.entries := by
  have distinct : (written.map (·.name)).Nodup := by
    rw [names_of_renews renews]
    exact listed.nodup_names
  have numbered := numbered_of_renews listed renews
  exact ⟨_, listed_of_asWritten encoded distinct numbered (readsWhole bytes encoded),
    (encodes_of_encode? encoded).readAs numbered⟩

theorem purgeArchive_again (idempotent : Idempotent optimize) {data out : Bytes}
    (readsWhole : ∀ inner archive repeats written, Reaches data .archive inner →
      Listed inner archive repeats → List.Forall₂ archive.Renews archive.entries written →
      ReadsWhole written archive.comment)
    (purged : (purgeArchive optimize traced levels origin data).outcome = .ok (some out))
    (other : String) : (purgeArchive optimize traced levels other out).outcome = .ok none := by
  -- By induction on the levels: what was written one level down stands there again.
  induction levels generalizing origin other data out with
  | zero => cases purged
  | succ levels ih =>
    obtain ⟨before, repeats, listed, entries, steps, repacked⟩ := purgeArchive_ok_iff.mp purged
    have renews : List.Forall₂ before.Renews before.entries (entries.map (·.1)) :=
      List.forall₂_map_right_iff.mpr (steps.imp fun entry new step => step.renews)
    obtain ⟨after, relisted, read⟩ := listed.rewritten renews
      (readsWhole data before repeats _ (.here data) listed renews) repacked.encode?_eq
    have again : List.Forall₂ (fun _ final => ∃ kept : PurgedEntry,
        PurgesEntry (purgeWithin optimize traced levels) other after final kept ∧ kept.2 = false)
        before.entries after.entries := by
      refine forall₂_of_forall₂_map steps read fun old member new final step read => ?_
      refine step.again read fun kind content result artifact found purges => ?_
      cases result with
      | none => exact purgeWithin_elsewhere purges _
      | some bytes =>
        cases kind with
        | classFile =>
          obtain ⟨optimized, events, success, written⟩ := purgeClass_ok_iff.mp purges
          obtain ⟨settled, later, stays, unchanged, -⟩ :=
            idempotent _ _ _ _ success written
          exact purgeClass_ok_iff.mpr ⟨settled, later, stays, unchanged⟩
        | archive =>
          have holds : Holds data .archive content :=
            ⟨before, repeats, old, listed, member, artifact, found⟩
          exact ih (fun inner archive repeats written reaches =>
            readsWhole inner archive repeats written (.within holds reaches)) purges _
    obtain ⟨kept, keeps⟩ := exists_forall₂ fun final member =>
      (exists_related_of_mem again.flip member).elim fun _ kept => kept.2
    refine purgeArchive_ok_iff.mpr ⟨after, false, relisted, kept, keeps.imp fun _ _ both => both.1, ?_⟩
    have none : kept.any (·.2) = false := by
      rw [List.any_eq_false]
      intro value member
      obtain ⟨_, -, -, same⟩ := exists_related_of_mem keeps.flip member
      rw [same]
      exact Bool.false_ne_true
    rw [none]
    exact .standing

/-! ## What is reported -/

theorem removalLines_eq_nil (reports : ReportsChanges optimize) {content : Bytes}
    (unchanged : ¬ Changes optimize content) (path : List String) :
    removalLines optimize path content = [] := by
  unfold removalLines purgedOf?
  cases purges : optimize content with
  | error failure => rfl
  | ok result =>
    obtain ⟨purged, events⟩ := result
    have none : purged.removed = [] := by
      by_contra removes
      exact unchanged ⟨purged, events, purges, reports content purged events purges removes⟩
    simp [Except.toOption, none]

/-- An archive that stands has no class from which anything is removed. -/
theorem removals_eq_nil_of_stands (reports : ReportsChanges optimize) {data : Bytes}
    (stands : (purgeArchive optimize traced levels origin data).outcome = .ok none) :
    (purgeArchive optimize traced levels origin data).journal.summary.removals = [] := by
  have follows := follows_purgeWithin optimize traced levels .archive origin data
  have untouched := (none_iff_untouched stands).mp rfl
  change (purgeWithin optimize traced levels .archive origin data).journal.summary.removals = []
  rw [follows.summary_eq stands, tally, List.flatMap_eq_nil_iff]
  rintro ⟨path, content⟩ visited
  obtain ⟨names, -, leads⟩ := standsAt_of_mem_visits visited
  exact removalLines_eq_nil reports (untouched.unchanged content leads.reaches) path

theorem idempotent_dropping : Idempotent dropping := by
  intro data purged events bytes optimized written
  cases optimized
  by_cases empty : data = []
  · rw [if_pos empty] at written
    cases written
  · rw [if_neg empty] at written
    cases written
    exact ⟨_, _, rfl, rfl, rfl⟩

theorem reportsChanges_dropping : ReportsChanges dropping := by
  intro data purged events optimized removes
  cases optimized
  by_cases empty : data = []
  · rw [if_pos empty] at removes
    exact absurd rfl removes
  · rw [if_neg empty]
    rfl

/-- All archives that are reached from an archive of an archive of a class. -/
theorem packs_of_reaches {content inside outside data : Bytes}
    (inner : Packs [storedEntry "A.class" content] inside)
    (outer : Packs [storedEntry "lib.jar" inside] outside)
    (reaches : Reaches outside .archive data) : ∃ written, Packs written data := by
  cases reaches with
  | here => exact ⟨_, outer⟩
  | within holds reaches =>
    obtain ⟨name, member, -⟩ := outer.exists_of_holds holds
    obtain rfl := congrArg NewEntry.stored (List.mem_singleton.mp member)
    cases reaches with
    | here => exact ⟨_, inner⟩
    | within deeper _ =>
      -- The inner archive holds a class, and no archive.
      obtain ⟨name, member, artifact⟩ := inner.exists_of_holds deeper
      have named : ((storedEntry "A.class" content).entryAt 0).artifact?
          = ((storedEntry "A.class" []).entryAt 0).artifact? := Entry.artifact?_congr rfl
      have sort : ((storedEntry "A.class" []).entryAt 0).artifact? = some .classFile := by decide
      rw [List.mem_singleton.mp member, named, sort] at artifact
      cases artifact

end Unannotate
