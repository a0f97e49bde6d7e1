import Unannotate.Archive.Basic
import Unannotate.ClassPurge

/-!
Purging an archive.

Every class of an archive is purged, and every archive in it the same way; everything else is copied as
it is. An archive in which nothing changes stands as it is, byte for byte. Where names repeat, the first
entry of a name counts.
-/
set_option autoImplicit false

namespace Unannotate

def ArchiveFault.cause : ArchiveFault → Cause
  | unreadable => .malformed .unreadableArchive
  | io => .io

/-- An archive of the bytes of `origin`. -/
def openArchive (origin : String) (data : Bytes) : Work Archive :=
  match Archive.ofBytes data with
  | .ok archive => pure archive
  | .error fault => Work.fail ⟨[.reading origin], fault.cause⟩

/-- What to do to the bytes of one class or archive, given where they come from. -/
abbrev Purge := (origin : String) → Bytes → Work (Option Bytes)

/-- An entry of a purged archive, and whether its content is new. -/
abbrev PurgedEntry := NewEntry × Bool

/-- The content of an entry that is to be purged. -/
def readContent (origin : String) (entry : Entry) (compression : Compression) (stored : Bytes) :
    Work Bytes :=
  match entry.content? compression stored with
  | some content => pure content
  | none => Work.fail ⟨[.reading origin], .io⟩

/-- An entry whose content is replaced by what a purge gives for it, if that gives anything. -/
def purgeContent (purge : Purge) (origin : String) (entry : Entry) (compression : Compression)
    (stored : Bytes) : Work PurgedEntry := do
  let content ← readContent origin entry compression stored
  let (fields, dropped) := entry.keptFields
  Work.report (dropped.map (.droppingField origin))
  match ← purge origin content with
  | some content => return (entry.withContent compression fields content, true)
  | none => return (entry.copied compression stored, false)

/-- The entry at a position. It has to open even where its content is left alone. -/
def purgeEntry (purgeClass purgeNested : Purge) (origin : String) (archive : Archive)
    (item : Entry × Nat) : Work PurgedEntry :=
  let (entry, index) := item
  match archive.open? entry with
  | none => Work.fail ⟨[.readingEntry origin index], .malformed .unreadableArchive⟩
  | some (compression, stored) =>
    let entryOrigin := origin ++ ":" ++ entry.name
    match entry.artifact? with
    | none => return (entry.copied compression stored, false)
    | some .classFile => purgeContent purgeClass entryOrigin entry compression stored
    | some .archive => purgeContent purgeNested entryOrigin entry compression stored

/-- The entries of an archive, written again if any has new content or something `changed` before. -/
def purgeEntries (purgeClass purgeNested : Purge) (origin : String) (archive : Archive)
    (comment : Bytes) (changed : Bool) : Work (Option Bytes) := do
  let purged ← Work.each archive.entries.zipIdx (purgeEntry purgeClass purgeNested origin archive)
  if changed || purged.any (·.2) then
    Work.report [.repackedArchive origin archive.entries.length]
    match Archive.encode? (purged.map (·.1)) comment with
    | some bytes => return some bytes
    | none => Work.fail ⟨[.writing origin], .malformed .archiveTooLarge⟩
  else return none

/-- An opened archive, with repeated names left out before its entries are read. -/
def purgeOpened (purgeClass purgeNested : Purge) (origin : String) (archive : Archive) :
    Work (Option Bytes) := do
  match ← Work.ofArtifact (.reading origin)
      (firstEntriesOnly archive.data archive.directoryStart archive.offset) with
  | none => purgeEntries purgeClass purgeNested origin archive archive.comment false
  | some (data, dropped) =>
    Work.report [.skippingDuplicates origin dropped]
    let reduced ← openArchive origin data
    purgeEntries purgeClass purgeNested origin reduced archive.comment true

/-- The bytes that replace an archive, or none when it stands as it is. Archives nest at most `levels`
deep. -/
def purgeArchive (optimize : ClassOptimizer) (traced : Bool) : (levels : Nat) → Purge
  | 0, origin, _ => Work.fail ⟨[.reading origin], .nestingLimit⟩
  | levels + 1, origin, data =>
    Work.inSpan traced ⟨"archive.purge", [("purgeannorefs.archive", .text origin)]⟩ do
      let archive ← openArchive origin data
      Work.count { archives := 1 }
      purgeOpened (purgeClass optimize traced) (purgeArchive optimize traced levels) origin archive

/-- How deep archives may nest in a run. -/
def maxNesting : Nat := 1024

/-- The bytes that replace an artifact, or none when it stands as it is. -/
def purgeArtifact (optimize : ClassOptimizer) (traced : Bool) : ArtifactKind → Purge
  | .classFile => purgeClass optimize traced
  | .archive => purgeArchive optimize traced maxNesting

end Unannotate
