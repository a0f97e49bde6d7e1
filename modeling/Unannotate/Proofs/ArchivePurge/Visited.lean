import Mathlib.Data.List.Nodup
import Unannotate.Proofs.ArchivePurge.Untouched
import Unannotate.Proofs.ArchivePurge.Walk

/-!
# Where the steps of a walk stand

Every step of a walk stands at the names of the entries that lead to what it works on. No two steps list
an archive, or hand over a class, at the same names; and when no step fails, every archive and every class
that names lead to is visited.
-/
set_option autoImplicit false

namespace Unannotate

open Archive

/-- The names of the entries that lead from an artifact to one in it, at any depth. -/
inductive Leads : ArtifactKind → Bytes → List String → ArtifactKind → Bytes → Prop
  | here (kind : ArtifactKind) (data : Bytes) : Leads kind data [] kind data
  | within {data inner content : Bytes} {kind last : ArtifactKind} {names : List String}
      {archive : Archive} {repeats : Bool} {entry : Entry} (listed : Listed data archive repeats)
      (member : entry ∈ archive.entries) (artifact : entry.artifact? = some kind)
      (found : archive.contentOf? entry = some inner) (leads : Leads kind inner names last content) :
      Leads .archive data (entry.name :: names) last content

theorem Leads.reaches {data content : Bytes} {names : List String} {last : ArtifactKind}
    (leads : Leads .archive data names last content) : Reaches data last content := by
  generalize sort : ArtifactKind.archive = kind at leads
  induction leads with
  | here => exact sort ▸ .here _
  | @within _ _ _ kind _ _ _ _ _ listed member artifact found leads ih =>
    have holds := listed.holds_iff.mpr ⟨_, member, artifact, found⟩
    cases kind with
    | archive => exact .within holds (ih rfl)
    | classFile =>
      cases leads with
      | here => exact .classFile holds

/-! ## Paths of steps -/

section Places

variable {front : List String} {kind : ArtifactKind} {data : Bytes}

/-- An artifact stands at a path that begins with `front`, which leads to `data`. -/
def StandsAt (front : List String) (kind : ArtifactKind) (data : Bytes) (last : ArtifactKind)
    (path : List String) (content : Bytes) : Prop :=
  ∃ names, path = front ++ names ∧ Leads kind data names last content

/-- The entries of an archive at a path are gone through. -/
def ListedAt (front : List String) (kind : ArtifactKind) (data : Bytes) (path : List String)
    (archive : Archive) : Prop :=
  ∃ content repeats, StandsAt front kind data .archive path content ∧ Listed content archive repeats

/-- The path of a step leads to what it works on. -/
def PurgeStep.StandsIn (front : List String) (kind : ArtifactKind) (data : Bytes) : PurgeStep → Prop
  | listing path content => StandsAt front kind data .archive path content
  | limit path => ∃ content, StandsAt front kind data .archive path content
  | opening path archive entry index =>
    ListedAt front kind data path archive ∧ archive.entries[index]? = some entry
  | reading path entry compression stored => ∃ outer archive, path = outer ++ [entry.name] ∧
    ListedAt front kind data outer archive ∧ entry ∈ archive.entries ∧
    archive.open? entry = some (compression, stored)
  | optimizing path content => StandsAt front kind data .classFile path content
  | writing path _ comment => ∃ archive, ListedAt front kind data path archive ∧
    comment = archive.comment

theorem standsAt_here (front : List String) (kind : ArtifactKind) (data : Bytes) :
    StandsAt front kind data kind front data :=
  ⟨[], (List.append_nil front).symm, .here kind data⟩

section Inner

variable {inner : Bytes} {archive : Archive} {repeats : Bool} {entry : Entry}

theorem StandsAt.within (listed : Listed data archive repeats) (member : entry ∈ archive.entries)
    (artifact : entry.artifact? = some kind) (found : archive.contentOf? entry = some inner)
    {last : ArtifactKind} {path : List String} {content : Bytes}
    (stands : StandsAt (front ++ [entry.name]) kind inner last path content) :
    StandsAt front .archive data last path content := by
  obtain ⟨names, rfl, leads⟩ := stands
  exact ⟨entry.name :: names, by simp, .within listed member artifact found leads⟩

theorem PurgeStep.StandsIn.within (listed : Listed data archive repeats)
    (member : entry ∈ archive.entries) (artifact : entry.artifact? = some kind)
    (found : archive.contentOf? entry = some inner) {step : PurgeStep}
    (stands : step.StandsIn (front ++ [entry.name]) kind inner) :
    step.StandsIn front .archive data := by
  have outward {path : List String} {other : Archive}
      (at_ : ListedAt (front ++ [entry.name]) kind inner path other) :
      ListedAt front .archive data path other := by
    obtain ⟨content, again, stands, lists⟩ := at_
    exact ⟨content, again, stands.within listed member artifact found, lists⟩
  cases step with
  | listing path content => exact StandsAt.within listed member artifact found stands
  | limit path =>
    obtain ⟨content, stands⟩ := stands
    exact ⟨content, stands.within listed member artifact found⟩
  | opening path other opened index => exact ⟨outward stands.1, stands.2⟩
  | reading path opened compression stored =>
    obtain ⟨outer, other, same, lists, rest⟩ := stands
    exact ⟨outer, other, same, outward lists, rest⟩
  | optimizing path content => exact StandsAt.within listed member artifact found stands
  | writing path entries comment =>
    obtain ⟨other, lists, same⟩ := stands
    exact ⟨other, outward lists, same⟩

end Inner

variable {optimize : ClassOptimizer} {levels : Nat} {path : List String}

theorem mem_entrySteps {within : ArtifactKind → List String → Bytes → List PurgeStep}
    {archive : Archive} {item : Entry × Nat} {step : PurgeStep} :
    step ∈ entrySteps within path archive item ↔ step = .opening path archive item.1 item.2 ∨
      ∃ kind compression stored, item.1.artifact? = some kind ∧
        archive.open? item.1 = some (compression, stored) ∧
        (step = .reading (path ++ [item.1.name]) item.1 compression stored ∨
          ∃ content, archive.contentOf? item.1 = some content ∧
            step ∈ within kind (path ++ [item.1.name]) content) := by
  obtain ⟨entry, index⟩ := item
  simp only [entrySteps, List.mem_cons, contentOf?]
  refine or_congr_right ?_
  cases archive.open? entry with
  | none => simp
  | some kept =>
    obtain ⟨compression, stored⟩ := kept
    cases entry.artifact? with
    | none => simp
    | some kind =>
      simp only [List.mem_cons, Option.some.injEq, Prod.mk.injEq, Option.bind_eq_bind,
        Option.bind_some]
      cases entry.content? compression stored <;> simp

theorem mem_stepsOf_succ {step : PurgeStep} :
    step ∈ stepsOf optimize (levels + 1) .archive path data ↔ step = .listing path data ∨
      ∃ archive repeats, Listed data archive repeats ∧
        ((∃ item ∈ archive.entries.zipIdx,
            step ∈ entrySteps (stepsOf optimize levels) path archive item) ∨
          ∃ purged : List PurgedEntry,
            purged = archive.entries.filterMap (entryAfter? (renewed optimize levels) archive) ∧
            (repeats || purged.any (·.2)) ∧
            step = .writing path (purged.map (·.1)) archive.comment) := by
  simp only [stepsOf, List.mem_cons]
  refine or_congr_right ?_
  simp only [← listing_eq_ok_iff]
  cases Archive.listing data with
  | error cause => simp
  | ok listed =>
    obtain ⟨archive, repeats⟩ := listed
    have chosen {found : Archive} {again : Bool} (same : .ok (archive, repeats)
        = (.ok (found, again) : Except Cause (Archive × Bool))) : archive = found ∧ repeats = again := by
      cases same
      exact ⟨rfl, rfl⟩
    rw [List.mem_append, List.mem_flatMap]
    constructor
    · intro taken
      refine ⟨archive, repeats, rfl, taken.imp_right fun last => ?_⟩
      split at last
      · next changed => exact ⟨_, rfl, changed, List.mem_singleton.mp last⟩
      · cases last
    · rintro ⟨found, again, same, taken⟩
      obtain ⟨rfl, rfl⟩ := chosen same
      refine taken.imp_right ?_
      rintro ⟨purged, rfl, changed, rfl⟩
      rw [if_pos changed]
      exact List.mem_singleton_self _

theorem standsIn_of_mem_stepsOf {step : PurgeStep}
    (taken : step ∈ stepsOf optimize levels kind path data) : step.StandsIn path kind data := by
  induction levels generalizing kind path data with
  | zero =>
    cases kind with
    | classFile =>
      cases List.mem_singleton.mp taken
      exact standsAt_here path _ data
    | archive =>
      cases List.mem_singleton.mp taken
      exact ⟨data, standsAt_here path _ data⟩
  | succ levels ih =>
    cases kind with
    | classFile =>
      cases List.mem_singleton.mp taken
      exact standsAt_here path _ data
    | archive =>
      obtain rfl | ⟨archive, repeats, listed, ⟨⟨entry, index⟩, member, inside⟩ | ⟨_, -, -, rfl⟩⟩ :=
        mem_stepsOf_succ.mp taken
      · exact standsAt_here path _ data
      · have lists : ListedAt path .archive data path archive :=
          ⟨data, repeats, standsAt_here path _ data, listed⟩
        have place : archive.entries[index]? = some entry := List.mk_mem_zipIdx_iff_getElem?.mp member
        have listedEntry : entry ∈ archive.entries := List.mem_of_getElem? place
        obtain rfl | ⟨kind, compression, stored, artifact, opened, rfl | ⟨content, found, deeper⟩⟩ :=
          mem_entrySteps.mp inside
        · exact ⟨lists, place⟩
        · exact ⟨path, archive, rfl, lists, listedEntry, opened⟩
        · exact (ih deeper).within listed listedEntry artifact found
      · exact ⟨archive, ⟨data, repeats, standsAt_here path _ data, listed⟩, rfl⟩

/-! ## What is visited -/

theorem standsAt_of_mem_visits {last : ArtifactKind} {content : Bytes}
    (visited : (path, content) ∈ visits last (stepsOf optimize levels kind front data)) :
    StandsAt front kind data last path content := by
  have stands := standsIn_of_mem_stepsOf (mem_visits.mp visited)
  cases last <;> exact stands

/-- When no step fails, whatever stands at a path is visited. -/
theorem mem_visits_of_leads {last : ArtifactKind} {content : Bytes} {names : List String}
    (sound : ∀ step ∈ stepsOf optimize levels kind front data, step.failure? optimize = none)
    (leads : Leads kind data names last content) :
    (front ++ names, content) ∈ visits last (stepsOf optimize levels kind front data) := by
  rw [mem_visits]
  induction levels generalizing kind front data names with
  | zero =>
    cases kind with
    | archive => cases sound (.limit front) (List.mem_singleton_self _)
    | classFile =>
      cases leads with
      | here =>
        rw [List.append_nil]
        exact List.mem_singleton_self _
  | succ levels ih =>
    cases leads with
    | here =>
      rw [List.append_nil]
      cases last with
      | archive => exact mem_stepsOf_succ.mpr (.inl rfl)
      | classFile => exact List.mem_singleton_self _
    | @within _ inner _ kind _ names archive repeats entry listed member artifact found leads =>
      obtain ⟨index, place⟩ := List.getElem?_of_mem member
      obtain ⟨compression, stored, opened, -⟩ := contentOf?_eq_some_iff.mp found
      have deeper (step : PurgeStep)
          (taken : step ∈ stepsOf optimize levels kind (front ++ [entry.name]) inner) :
          step ∈ stepsOf optimize (levels + 1) .archive front data :=
        mem_stepsOf_succ.mpr (.inr ⟨archive, repeats, listed, .inl ⟨(entry, index),
          List.mk_mem_zipIdx_iff_getElem?.mpr place,
          mem_entrySteps.mpr (.inr ⟨kind, compression, stored, artifact, opened,
            .inr ⟨inner, found, taken⟩⟩)⟩⟩)
      have taken := ih (fun step member => sound step (deeper step member)) leads
      rw [List.append_assoc] at taken
      exact deeper _ taken

/-- What is visited in an entry is visited in its content, if it has any. -/
theorem visits_entrySteps (last : ArtifactKind) (within : ArtifactKind → List String → Bytes →
    List PurgeStep) (archive : Archive) (item : Entry × Nat) :
    visits last (entrySteps within path archive item) = [] ∨ ∃ kind content,
      visits last (entrySteps within path archive item)
        = visits last (within kind (path ++ [item.1.name]) content) := by
  obtain ⟨entry, index⟩ := item
  simp only [entrySteps]
  cases archive.open? entry with
  | none => exact .inl rfl
  | some kept =>
    obtain ⟨compression, stored⟩ := kept
    cases entry.artifact? with
    | none => exact .inl rfl
    | some kind =>
      cases found : entry.content? compression stored with
      | none =>
        left
        simp only [found]
        rfl
      | some content =>
        right
        simp only [found]
        exact ⟨kind, content, rfl⟩

theorem prefix_of_mem_visits {last : ArtifactKind} {visited : List String × Bytes}
    (member : visited ∈ visits last (stepsOf optimize levels kind front data)) :
    front <+: visited.1 := by
  obtain ⟨names, same, -⟩ := standsAt_of_mem_visits member
  exact ⟨names, same.symm⟩

theorem prefix_of_mem_entries {last : ArtifactKind} {archive : Archive} {item : Entry × Nat}
    {visited : List String}
    (member : visited ∈ (visits last (entrySteps (stepsOf optimize levels) front archive item)).map (·.1)) :
    front ++ [item.1.name] <+: visited := by
  obtain ⟨found, inside, rfl⟩ := List.mem_map.mp member
  obtain none | ⟨kind, content, same⟩ := visits_entrySteps last (stepsOf optimize levels) archive item
  · rw [none] at inside
    cases inside
  · rw [same] at inside
    exact prefix_of_mem_visits inside

/-- Entries have different names, so their paths part. -/
theorem nodup_visits_entries {last : ArtifactKind} {archive : Archive}
    (distinct : (archive.entries.map (·.name)).Nodup)
    (every : ∀ kind path data,
      ((visits last (stepsOf optimize levels kind path data)).map (·.1)).Nodup) :
    ((visits last (archive.entries.zipIdx.flatMap
      (entrySteps (stepsOf optimize levels) front archive))).map (·.1)).Nodup := by
  rw [visits, List.filterMap_flatMap, List.map_flatMap, List.nodup_flatMap]
  constructor
  · intro item member
    obtain none | ⟨kind, content, same⟩ :=
      visits_entrySteps last (stepsOf optimize levels) archive item
    · rw [visits] at none
      rw [none]
      exact List.nodup_nil
    · rw [visits] at same
      rw [same]
      exact every kind _ content
  · rw [← List.zipIdx_map_fst 0 archive.entries, List.map_map] at distinct
    refine (List.pairwise_map.mp distinct).imp fun {one other} apart path first second => apart ?_
    obtain ⟨names, rfl⟩ := prefix_of_mem_entries first
    obtain ⟨names', same⟩ := prefix_of_mem_entries second
    simp only [List.append_assoc, List.append_cancel_left_eq, List.cons_append, List.cons.injEq] at same
    exact same.1.symm

theorem nodup_visits (last : ArtifactKind) :
    ((visits last (stepsOf optimize levels kind front data)).map (·.1)).Nodup := by
  have short (step : PurgeStep) : ((visits last [step]).map (·.1)).Nodup := by
    rw [visits, List.filterMap_cons, List.filterMap_nil]
    cases step.visit? last with
    | none => exact List.nodup_nil
    | some visited => exact List.nodup_singleton _
  induction levels generalizing kind front data with
  | zero => cases kind <;> exact short _
  | succ levels ih =>
    cases kind with
    | classFile => exact short _
    | archive =>
      simp only [stepsOf]
      cases listed : Archive.listing data with
      | error cause => exact short _
      | ok found =>
        obtain ⟨archive, repeats⟩ := found
        have distinct := (listing_eq_ok_iff.mp listed).nodup_names
        have silent (steps : List PurgeStep) (written : Bool) (entries : List NewEntry) :
            visits last (steps ++ if written then [.writing front entries archive.comment] else [])
              = visits last steps := by
          rw [visits_append]
          cases written <;> exact List.append_nil _
        rw [← List.singleton_append, visits_append, silent, List.map_append]
        refine List.Nodup.append (short _) (nodup_visits_entries distinct fun _ _ _ => ih) ?_
        -- The archive stands at `front` itself, and what is in it at longer paths.
        intro path own below
        have same : path = front := by
          obtain ⟨⟨_, content⟩, first, rfl⟩ := List.mem_map.mp own
          have step := List.mem_singleton.mp (mem_visits.mp first)
          cases last <;> cases step
          rfl
        subst same
        rw [visits, List.filterMap_flatMap, List.map_flatMap] at below
        obtain ⟨item, -, inside⟩ := List.mem_flatMap.mp below
        have longer := (prefix_of_mem_entries inside).length_le
        rw [List.length_append, List.length_singleton] at longer
        omega

end Places

end Unannotate
