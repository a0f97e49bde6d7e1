import Unannotate.Proofs.ArchivePurge.Contents
import Unannotate.Proofs.ArchivePurge.Followed

/-!
# Archives that differ in resources

A resource is an entry that is no artifact. Two archives that differ only in how their resources are kept
are purged alike, at any depth: the purges fail in the same way, or both archives stand, or both are
written again with the same entries beside the resources, each with its own resources. This takes one thing
from the resources: that they open. An entry is opened before it is known to be a resource, so one that
does not open ends the purge.
-/
set_option autoImplicit false

namespace Unannotate

open Archive

/-! ## Four lists, item by item -/

/-- The items of four lists belong together, place by place. -/
inductive Alongside {α β γ δ : Type} (related : α → β → γ → δ → Prop) :
    List α → List β → List γ → List δ → Prop
  | nil : Alongside related [] [] [] []
  | cons {first : α} {second : β} {third : γ} {fourth : δ} {firsts : List α} {seconds : List β}
      {thirds : List γ} {fourths : List δ} (here : related first second third fourth)
      (later : Alongside related firsts seconds thirds fourths) :
      Alongside related (first :: firsts) (second :: seconds) (third :: thirds) (fourth :: fourths)

namespace Alongside

variable {α β γ δ : Type} {related : α → β → γ → δ → Prop} {firsts : List α} {seconds : List β}
  {thirds : List γ} {fourths : List δ}

theorem map {α' β' γ' δ' : Type} {result : α' → β' → γ' → δ' → Prop} (first : α → α')
    (second : β → β') (third : γ → γ') (fourth : δ → δ')
    (implied : ∀ a b c d, related a b c d → result (first a) (second b) (third c) (fourth d))
    (rows : Alongside related firsts seconds thirds fourths) :
    Alongside result (firsts.map first) (seconds.map second) (thirds.map third)
      (fourths.map fourth) := by
  induction rows with
  | nil => exact .nil
  | cons here _ ih => exact .cons (implied _ _ _ _ here) ih

theorem any_eq {third : γ → Bool} {fourth : δ → Bool}
    (implied : ∀ a b c d, related a b c d → third c = fourth d)
    (rows : Alongside related firsts seconds thirds fourths) : thirds.any third = fourths.any fourth := by
  induction rows with
  | nil => rfl
  | cons here _ ih => rw [List.any_cons, List.any_cons, implied _ _ _ _ here, ih]

end Alongside

/-! ## Work that goes alike -/

namespace Work

variable {α β γ δ : Type}

/-- The work ends because an archive is too large to be written. -/
def TooLarge (work : Work α) : Prop :=
  ∃ origin, work.outcome = .error ⟨[.writing origin], .malformed .archiveTooLarge⟩

theorem TooLarge.bind {work : Work α} (large : work.TooLarge) (next : α → Work β) :
    (work >>= next).TooLarge := by
  obtain ⟨origin, failed⟩ := large
  exact ⟨origin, bind_error_iff.mpr (.inl failed)⟩

theorem TooLarge.after {work : Work α} {value : α} {next : α → Work β}
    (succeeded : work.outcome = .ok value) (large : (next value).TooLarge) :
    (work >>= next).TooLarge := by
  obtain ⟨origin, failed⟩ := large
  exact ⟨origin, bind_error_iff.mpr (.inr ⟨value, succeeded, failed⟩)⟩

theorem not_tooLarge_of_ok {work : Work α} {value : α} (succeeded : work.outcome = .ok value) :
    ¬ work.TooLarge := by
  rintro ⟨origin, failed⟩
  rw [succeeded] at failed
  cases failed

/-- Two pieces of work fail in the same way, or count the same and give values that are related. Where an
archive is too large to be written, nothing is said. -/
inductive Alike (related : α → β → Prop) (first : Work α) (second : Work β) : Prop
  | gives {value : α} {other : β} (here : first.outcome = .ok value) (there : second.outcome = .ok other)
      (matching : related value other) (counts : first.journal.summary = second.journal.summary) :
      Alike related first second
  | fails {failure : Failure} (here : first.outcome = .error failure)
      (there : second.outcome = .error failure) : Alike related first second
  | tooLarge (large : first.TooLarge ∨ second.TooLarge) : Alike related first second

namespace Alike

variable {related : α → β → Prop} {first : Work α} {second : Work β}

theorem same {related : α → α → Prop} (work : Work α) (matching : ∀ value, related value value) :
    Alike related work work := by
  cases ends : work.outcome with
  | ok value => exact .gives ends ends (matching value) rfl
  | error failure => exact .fails ends ends

theorem imp {weaker : α → β → Prop} (alike : Alike related first second)
    (implied : ∀ value other, related value other → weaker value other) :
    Alike weaker first second := by
  cases alike with
  | gives here there matching counts => exact .gives here there (implied _ _ matching) counts
  | fails here there => exact .fails here there
  | tooLarge large => exact .tooLarge large

theorem bind {result : γ → δ → Prop} {next : α → Work γ} {following : β → Work δ}
    (alike : Alike related first second)
    (continues : ∀ value other, related value other → Alike result (next value) (following other)) :
    Alike result (first >>= next) (second >>= following) := by
  cases alike with
  | fails here there =>
    exact .fails (bind_error_iff.mpr (.inl here)) (bind_error_iff.mpr (.inl there))
  | tooLarge large => exact .tooLarge (large.imp (·.bind next) (·.bind following))
  | gives here there matching counts =>
    cases continues _ _ matching with
    | fails ends finishes =>
      exact .fails (bind_error_iff.mpr (.inr ⟨_, here, ends⟩))
        (bind_error_iff.mpr (.inr ⟨_, there, finishes⟩))
    | tooLarge large => exact .tooLarge (large.imp (·.after here) (·.after there))
    | gives ends finishes last more =>
      refine .gives (bind_ok_iff.mpr ⟨_, here, ends⟩) (bind_ok_iff.mpr ⟨_, there, finishes⟩) last ?_
      rw [summary_bind here, summary_bind there, counts, more]

theorem inSpan (alike : Alike related first second) (traced : Bool) (label : SpanLabel) :
    Alike related (Work.inSpan traced label first) (Work.inSpan traced label second) := by
  cases alike with
  | gives here there matching counts =>
    refine .gives ((outcome_inSpan _ _ _).trans here) ((outcome_inSpan _ _ _).trans there) matching ?_
    rw [summary_inSpan, summary_inSpan, counts]
  | fails here there =>
    exact .fails ((outcome_inSpan _ _ _).trans here) ((outcome_inSpan _ _ _).trans there)
  | tooLarge large =>
    refine .tooLarge ?_
    simpa only [TooLarge, outcome_inSpan] using large

theorem each {result : α → β → γ → δ → Prop} {items : List α} {others : List β} {work : α → Work γ}
    {counterwork : β → Work δ}
    (every : List.Forall₂ (fun item other => Alike (result item other) (work item) (counterwork other))
      items others) :
    Alike (Alongside result items others) (Work.each items work) (Work.each others counterwork) := by
  induction every with
  | nil => exact .gives rfl rfl .nil rfl
  | cons here _ ih =>
    refine here.bind fun value other matching => ih.bind fun values others rest => ?_
    exact .gives rfl rfl (.cons matching rest) rfl

end Alike

end Work

/-! ## Archives that are alike -/

namespace Archive

/-- Two entries in the same place of two archives: one entry kept at two places, two resources that both
open or both do not, or two archives that are alike. -/
inductive Counterpart (alike : Bytes → Bytes → Prop) (archive other : Archive)
    (entry counterpart : Entry) : Prop
  | same (moved : counterpart = { entry with headerOffset := counterpart.headerOffset })
      (opens : other.open? counterpart = archive.open? entry)
  | resource (plain : entry.artifact? = none) (named : counterpart.name = entry.name)
      (opens : (other.open? counterpart).isSome = (archive.open? entry).isSome)
  | inner {compression : Compression} {stored otherStored content otherContent : Bytes}
      (sort : entry.artifact? = some .archive)
      (renewed : counterpart = { entry with
        headerOffset := counterpart.headerOffset, checksum := counterpart.checksum
        compressedSize := counterpart.compressedSize, size := counterpart.size })
      (opened : archive.open? entry = some (compression, stored))
      (otherOpened : other.open? counterpart = some (compression, otherStored))
      (read : entry.content? compression stored = some content)
      (otherRead : counterpart.content? compression otherStored = some otherContent)
      (within : alike content otherContent)

/-- Two archives differ in resources only, down to the levels that a purge goes down. -/
def AlikeWithin : (levels : Nat) → Bytes → Bytes → Prop
  | 0, _, _ => True
  | levels + 1, data, other =>
    (∃ cause, listing data = .error cause ∧ listing other = .error cause) ∨
      ∃ archive counterpart repeats, Listed data archive repeats ∧ Listed other counterpart repeats ∧
        counterpart.comment = archive.comment ∧
        List.Forall₂ (Counterpart (AlikeWithin levels) archive counterpart) archive.entries
          counterpart.entries

end Archive

/-- What is written for an entry whose content has been purged. -/
def Entry.afterPurge (entry : Entry) (compression : Compression) (stored : Bytes) :
    Option Bytes → NewEntry
  | none => entry.copied compression stored
  | some content => entry.withContent compression entry.keptFields.1 content

namespace Archive

/-- What is written for two entries in the same place: the same, or for each resource its own copy, or
what the purges of two archives that are alike gave. -/
inductive WrittenAlike (after : Bytes → Bytes → Option Bytes → Option Bytes → Prop)
    (archive other : Archive) (entry counterpart : Entry) : NewEntry → NewEntry → Prop
  | same {new : NewEntry} (artifact : entry.artifact? ≠ none) :
      WrittenAlike after archive other entry counterpart new new
  | resource {compression otherCompression : Compression} {stored otherStored : Bytes}
      (plain : entry.artifact? = none) (opened : archive.open? entry = some (compression, stored))
      (otherOpened : other.open? counterpart = some (otherCompression, otherStored)) :
      WrittenAlike after archive other entry counterpart (entry.copied compression stored)
        (counterpart.copied otherCompression otherStored)
  | inner {compression : Compression} {stored otherStored content otherContent : Bytes}
      {result otherResult : Option Bytes} (sort : entry.artifact? = some .archive)
      (opened : archive.open? entry = some (compression, stored))
      (otherOpened : other.open? counterpart = some (compression, otherStored))
      (read : entry.content? compression stored = some content)
      (otherRead : counterpart.content? compression otherStored = some otherContent)
      (purged : after content otherContent result otherResult) :
      WrittenAlike after archive other entry counterpart (entry.afterPurge compression stored result)
        (counterpart.afterPurge compression otherStored otherResult)

/-- What the purges of two archives give when both archives stand, or both are written again with the same
entries but for the resources. -/
def PurgedAlike : (levels : Nat) → Bytes → Bytes → Option Bytes → Option Bytes → Prop
  | _, _, _, none, none => True
  | levels + 1, data, other, some bytes, some otherBytes =>
    ∃ archive counterpart repeats written otherWritten,
      Listed data archive repeats ∧ Listed other counterpart repeats ∧
        encode? written archive.comment = some bytes ∧
        encode? otherWritten archive.comment = some otherBytes ∧
        Alongside (WrittenAlike (PurgedAlike levels) archive counterpart) archive.entries
          counterpart.entries written otherWritten
  | _, _, _, _, _ => False

theorem PurgedAlike.isSome_eq {levels : Nat} {data other : Bytes} {result otherResult : Option Bytes}
    (alike : PurgedAlike levels data other result otherResult) : result.isSome = otherResult.isSome := by
  cases result <;> cases otherResult <;> cases levels <;> first | rfl | cases alike

end Archive

/-! ## Two purges -/

section Purges

variable {optimize : ClassOptimizer} {traced : Bool} {levels : Nat} {origin : String}
  {archive other : Archive}

/-- Entries that are purged alike, with what is written for them. -/
def EntriesAlike (levels : Nat) (archive other : Archive) (entry counterpart : Entry)
    (purged otherPurged : PurgedEntry) : Prop :=
  purged.2 = otherPurged.2 ∧
    WrittenAlike (PurgedAlike levels) archive other entry counterpart purged.1 otherPurged.1

theorem alike_purgeContent {purge : Purge} {entry counterpart : Entry} {compression : Compression}
    {stored otherStored content otherContent : Bytes} {name : String}
    {after : Option Bytes → Option Bytes → Prop}
    (read : entry.content? compression stored = some content)
    (otherRead : counterpart.content? compression otherStored = some otherContent)
    (purges : Work.Alike after (purge name content) (purge name otherContent)) :
    Work.Alike (fun purged otherPurged => ∃ result otherResult, after result otherResult ∧
        purged = (entry.afterPurge compression stored result, result.isSome) ∧
        otherPurged = (counterpart.afterPurge compression otherStored otherResult, otherResult.isSome))
      (purgeContent purge name entry compression stored)
      (purgeContent purge name counterpart compression otherStored) := by
  simp only [purgeContent, readContent, read, otherRead, pure_bind]
  have reports : Work.Alike (fun _ _ => True)
      (Work.report (entry.keptFields.2.map (.droppingField name)))
      (Work.report (counterpart.keptFields.2.map (.droppingField name))) := .gives rfl rfl trivial rfl
  refine reports.bind fun _ _ _ => purges.bind fun result otherResult matching => ?_
  cases result <;> cases otherResult
  all_goals exact .gives rfl rfl ⟨_, _, matching, rfl, rfl⟩ rfl

/-- The content is not looked at where the entry is a resource. -/
theorem alike_purgeEntry_of_resource {entry counterpart : Entry} (plain : entry.artifact? = none)
    (named : counterpart.name = entry.name)
    (opens : (other.open? counterpart).isSome = (archive.open? entry).isSome) (index : Nat) :
    Work.Alike (EntriesAlike levels archive other entry counterpart)
      (purgeEntry (purgeClass optimize traced) (purgeArchive optimize traced levels) origin archive
        (entry, index))
      (purgeEntry (purgeClass optimize traced) (purgeArchive optimize traced levels) origin other
        (counterpart, index)) := by
  have otherPlain : counterpart.artifact? = none := (Entry.artifact?_congr named).trans plain
  simp only [purgeEntry, plain, otherPlain]
  cases opened : archive.open? entry with
  | none =>
    rw [opened, Option.isSome_none, Option.isSome_eq_false_iff, Option.isNone_iff_eq_none] at opens
    rw [opens]
    exact .fails rfl rfl
  | some kept =>
    rw [opened, Option.isSome_some] at opens
    obtain ⟨otherKept, otherOpened⟩ := Option.isSome_iff_exists.mp opens
    rw [otherOpened]
    exact .gives rfl rfl ⟨rfl, .resource plain opened otherOpened⟩ rfl

theorem alike_purgeEntry
    (inside : ∀ name content otherContent, AlikeWithin levels content otherContent →
      Work.Alike (PurgedAlike levels content otherContent) (purgeArchive optimize traced levels name content)
        (purgeArchive optimize traced levels name otherContent))
    {entry counterpart : Entry}
    (paired : Counterpart (AlikeWithin levels) archive other entry counterpart) (index : Nat) :
    Work.Alike (EntriesAlike levels archive other entry counterpart)
      (purgeEntry (purgeClass optimize traced) (purgeArchive optimize traced levels) origin archive
        (entry, index))
      (purgeEntry (purgeClass optimize traced) (purgeArchive optimize traced levels) origin other
        (counterpart, index)) := by
  cases paired with
  | resource plain named opens => exact alike_purgeEntry_of_resource plain named opens index
  | same moved opens =>
    have named : counterpart.name = entry.name := by rw [moved]
    by_cases plain : entry.artifact? = none
    · exact alike_purgeEntry_of_resource plain named (congrArg Option.isSome opens) index
    · have equal : purgeEntry (purgeClass optimize traced) (purgeArchive optimize traced levels) origin
          other (counterpart, index)
          = purgeEntry (purgeClass optimize traced) (purgeArchive optimize traced levels) origin archive
            (entry, index) := by
        simp only [purgeEntry, opens]
        rw [moved]
        rfl
      rw [equal]
      exact .same _ fun _ => ⟨rfl, .same plain⟩
  | inner sort renewed opened otherOpened read otherRead within =>
    have named : counterpart.name = entry.name := by rw [renewed]
    simp only [purgeEntry, opened, otherOpened, sort, (Entry.artifact?_congr named).trans sort, named]
    refine (alike_purgeContent read otherRead (inside _ _ _ within)).imp ?_
    rintro _ _ ⟨result, otherResult, matching, rfl, rfl⟩
    exact ⟨matching.isSome_eq, .inner sort opened otherOpened read otherRead matching⟩

/-- Entries side by side, with their positions. -/
theorem forall₂_zipIdx {related : Entry → Entry → Prop} {entries others : List Entry}
    (pairs : List.Forall₂ related entries others) (start : Nat) :
    List.Forall₂ (fun item other => related item.1 other.1 ∧ item.2 = other.2) (entries.zipIdx start)
      (others.zipIdx start) := by
  induction pairs generalizing start with
  | nil => exact .nil
  | cons here _ ih => exact .cons ⟨here, rfl⟩ (ih (start + 1))

theorem alike_purgeEntries {data otherData : Bytes} {repeats : Bool}
    (inside : ∀ name content otherContent, AlikeWithin levels content otherContent →
      Work.Alike (PurgedAlike levels content otherContent) (purgeArchive optimize traced levels name content)
        (purgeArchive optimize traced levels name otherContent))
    (listed : Listed data archive repeats) (otherListed : Listed otherData other repeats)
    (comments : other.comment = archive.comment)
    (paired : List.Forall₂ (Counterpart (AlikeWithin levels) archive other) archive.entries
      other.entries) :
    Work.Alike (PurgedAlike (levels + 1) data otherData)
      (purgeEntries (purgeClass optimize traced) (purgeArchive optimize traced levels) origin archive
        archive.comment repeats)
      (purgeEntries (purgeClass optimize traced) (purgeArchive optimize traced levels) origin other
        other.comment repeats) := by
  have every : Work.Alike
      (Alongside (fun item counterpart => EntriesAlike levels archive other item.1 counterpart.1)
        archive.entries.zipIdx other.entries.zipIdx)
      (Work.each archive.entries.zipIdx
        (purgeEntry (purgeClass optimize traced) (purgeArchive optimize traced levels) origin archive))
      (Work.each other.entries.zipIdx
        (purgeEntry (purgeClass optimize traced) (purgeArchive optimize traced levels) origin other)) := by
    refine Work.Alike.each ((forall₂_zipIdx paired 0).imp ?_)
    rintro ⟨entry, index⟩ ⟨counterpart, _⟩ ⟨pair, rfl⟩
    exact alike_purgeEntry inside pair index
  refine every.bind fun purged otherPurged rows => ?_
  have written := rows.map Prod.fst Prod.fst Prod.fst Prod.fst fun _ _ _ _ alike => alike.2
  have changes : purged.any (·.2) = otherPurged.any (·.2) := rows.any_eq fun _ _ _ _ alike => alike.1
  rw [List.zipIdx_map_fst, List.zipIdx_map_fst] at written
  rw [changes, comments]
  by_cases changed : repeats || otherPurged.any (·.2)
  · rw [if_pos changed, if_pos changed]
    have reports : Work.Alike (fun _ _ => True)
        (Work.report [.repackedArchive origin archive.entries.length])
        (Work.report [.repackedArchive origin other.entries.length]) := .gives rfl rfl trivial rfl
    refine reports.bind fun _ _ _ => ?_
    cases encoded : encode? (purged.map (·.1)) archive.comment with
    | none => exact .tooLarge (.inl ⟨origin, rfl⟩)
    | some bytes =>
      cases otherEncoded : encode? (otherPurged.map (·.1)) archive.comment with
      | none => exact .tooLarge (.inr ⟨origin, rfl⟩)
      | some otherBytes =>
        exact .gives rfl rfl
          ⟨archive, other, repeats, _, _, listed, otherListed, encoded, otherEncoded, written⟩ rfl
  · rw [if_neg changed, if_neg changed]
    exact .gives rfl rfl trivial rfl

theorem alike_listEntries_of_error {data otherData : Bytes} {cause : Cause}
    {related : Archive × Bool → Archive × Bool → Prop} (failed : listing data = .error cause)
    (otherFailed : listing otherData = .error cause) :
    Work.Alike related (listEntries origin data) (listEntries origin otherData) := by
  have here := outcome_listEntries origin data
  have there := outcome_listEntries origin otherData
  rw [failed] at here
  rw [otherFailed] at there
  exact .fails here there

theorem alike_listEntries {data otherData : Bytes} {repeats : Bool}
    (listed : Listed data archive repeats) (otherListed : Listed otherData other repeats) :
    Work.Alike (fun first second => first = (archive, repeats) ∧ second = (other, repeats))
      (listEntries origin data) (listEntries origin otherData) := by
  have here := outcome_listEntries origin data
  have there := outcome_listEntries origin otherData
  rw [listing_eq_ok_iff.mpr listed] at here
  rw [listing_eq_ok_iff.mpr otherListed] at there
  exact .gives here there ⟨rfl, rfl⟩
    ((summary_listEntries listed).trans (summary_listEntries otherListed).symm)

theorem alike_purgeArchive (optimize : ClassOptimizer) (traced : Bool) (levels : Nat) (origin : String)
    (data other : Bytes) (alike : AlikeWithin levels data other) :
    Work.Alike (PurgedAlike levels data other) (purgeArchive optimize traced levels origin data)
      (purgeArchive optimize traced levels origin other) := by
  -- By induction on the levels: what is alike in the archives is purged one level down.
  induction levels generalizing origin data other with
  | zero => exact .fails rfl rfl
  | succ levels ih =>
    rw [purgeArchive_succ, purgeArchive_succ]
    refine Work.Alike.inSpan ?_ _ _
    rcases alike with ⟨cause, failed, otherFailed⟩ |
      ⟨archive, counterpart, repeats, listed, otherListed, comments, paired⟩
    · have lists : Work.Alike (fun _ _ => False) (listEntries origin data) (listEntries origin other) :=
        alike_listEntries_of_error failed otherFailed
      exact lists.bind fun _ _ never => never.elim
    · refine (alike_listEntries listed otherListed).bind ?_
      rintro _ _ ⟨rfl, rfl⟩
      exact alike_purgeEntries ih listed otherListed comments paired

end Purges

/-- The entries of an archive of a class and a resource. -/
def besideResource (content resource : Bytes) : List NewEntry :=
  [storedEntry "A.class" content, storedEntry "r.txt" resource]

/-- The entries of an archive that holds that archive. -/
def aroundResource (content resource : Bytes) : List NewEntry :=
  [storedEntry "lib.jar" (packed (besideResource content resource))]

theorem alikeWithin_of_packs {levels : Nat} {written otherWritten : List NewEntry}
    {bytes otherBytes : Bytes} (packs : Packs written bytes) (otherPacks : Packs otherWritten otherBytes)
    (paired : List.Forall₂ (Counterpart (AlikeWithin levels) (asWritten written [] bytes)
      (asWritten otherWritten [] otherBytes)) (entriesAt 0 written) (entriesAt 0 otherWritten)) :
    AlikeWithin (levels + 1) bytes otherBytes :=
  .inr ⟨_, _, false, packs.listed, otherPacks.listed, rfl, paired⟩

theorem packs_besideResource (content resource : Bytes)
    (fits : (encode? (besideResource content resource) []).isSome) :
    Packs (besideResource content resource) (packed (besideResource content resource)) :=
  ⟨encode?_packed fits, by simp [besideResource, storedEntry], by simp [besideResource]⟩

theorem packs_aroundResource (content resource : Bytes)
    (fits : (encode? (aroundResource content resource) []).isSome) :
    Packs (aroundResource content resource) (packed (aroundResource content resource)) :=
  ⟨encode?_packed fits, by simp [aroundResource], by simp [aroundResource]⟩

theorem alikeWithin_besideResource :
    AlikeWithin 1 (packed (besideResource [0] [1])) (packed (besideResource [0] [2, 3])) := by
  refine alikeWithin_of_packs (packs_besideResource _ _ (by decide +kernel))
    (packs_besideResource _ _ (by decide +kernel)) ?_
  exact .cons (.same rfl (by decide +kernel))
    (.cons (.resource (by decide) rfl (by decide +kernel)) .nil)

set_option maxRecDepth 3000 in
theorem alikeWithin_aroundResource :
    AlikeWithin 2 (packed (aroundResource [0] [1])) (packed (aroundResource [0] [2, 3])) := by
  refine alikeWithin_of_packs (packs_aroundResource _ _ (by decide +kernel))
    (packs_aroundResource _ _ (by decide +kernel)) (.cons ?_ .nil)
  have opened : (asWritten (aroundResource [0] [1]) [] (packed (aroundResource [0] [1]))).open?
      ((storedEntry "lib.jar" (packed (besideResource [0] [1]))).entryAt 0)
      = some (.stored, packed (besideResource [0] [1])) := by decide +kernel
  have otherOpened : (asWritten (aroundResource [0] [2, 3]) []
        (packed (aroundResource [0] [2, 3]))).open?
      ((storedEntry "lib.jar" (packed (besideResource [0] [2, 3]))).entryAt 0)
      = some (.stored, packed (besideResource [0] [2, 3])) := by decide +kernel
  exact .inner (by decide) (by simp only [NewEntry.entryAt, storedEntry, NewEntry.extra]) opened otherOpened
    (by decide +kernel) (by decide +kernel) alikeWithin_besideResource

/-- An archive of a class that stands and of a resource that is said to be encrypted. -/
def sealedResource : Bytes := ((packed (besideResource [] [1])).set 43 1).set 134 1

end Unannotate
