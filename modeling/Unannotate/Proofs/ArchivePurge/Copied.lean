import Unannotate.Proofs.ArchivePurge.Contents

/-!
# What is kept of an entry that is copied

An entry beside one that changes is copied: its bytes stay as they are compressed, and its method,
checksum, sizes, time of modification and comment are those it had. Its extra fields are not written
again, so they are what it had only when it had none; an entry with new content keeps them.
-/
set_option autoImplicit false

namespace Unannotate

namespace Archive

/-- Reading an archive that was written gives everything that was written about its entries. -/
def ReadsAs (written : List NewEntry) (comment : Bytes) : Prop :=
  ∀ bytes, encode? written comment = some bytes →
    ∃ archive, ofBytes bytes = .ok archive ∧ List.Forall₂ (ReadAs archive) written archive.entries

theorem readsAs_of_renews {data : Bytes} {archive : Archive} {repeats : Bool}
    {written : List NewEntry} (listed : Listed data archive repeats)
    (renews : List.Forall₂ archive.Renews archive.entries written)
    (plain : ∀ entry ∈ archive.entries, ¬ entry.Restates)
    (last : (endingOf written archive.comment).IsLast) : ReadsAs written archive.comment := by
  intro bytes encoded
  obtain ⟨opened, read⟩ := readAs_of_renews listed renews plain last encoded
  exact ⟨_, opened, read⟩

/-- An entry that opens says how its bytes are kept. -/
theorem compression_of_open? {archive : Archive} {entry : Entry} {compression : Compression}
    {stored : Bytes} (opened : archive.open? entry = some (compression, stored)) :
    entry.compression = some compression := by
  simp only [open?, Option.bind_eq_bind, Option.bind_eq_some_iff] at opened
  obtain ⟨known, found, _, -, finished⟩ := opened
  split at finished
  · cases finished
    exact found
  · cases finished

/-- The bytes of an entry and what is said of them are the same in another archive, and its extra fields
are left out. -/
structure CarriedOver (before after : Archive) (old new : Entry) : Prop where
  name : new.name = old.name
  comment : new.comment = old.comment
  compression : new.compression = old.compression
  modified : new.modified = old.modified
  checksum : new.checksum = old.checksum
  size : new.size = old.size
  bytes : ∃ kind stored, before.open? old = some (kind, stored) ∧ after.open? new = some (kind, stored) ∧
    (stored.length = old.compressedSize → new.compressedSize = old.compressedSize)
  extra : new.extra = []

theorem carriedOver_of_readAs {before after : Archive} {old new : Entry} {compression : Compression}
    {stored : Bytes} (opened : before.open? old = some (compression, stored))
    (read : after.ReadAs (old.copied compression stored) new) : CarriedOver before after old new := by
  obtain ⟨⟨offset, rfl⟩, opens⟩ := read
  exact ⟨rfl, rfl, (compression_of_open? opened).symm, rfl, rfl, rfl,
    ⟨compression, stored, opened, opens, id⟩, rfl⟩

end Archive

open Archive

/-- The entries of an archive of a class and a resource, and the extra fields of the resource. -/
def classBeside (content : Bytes) (fields : List ExtraField) : List NewEntry :=
  [storedEntry "A.class" content, { storedEntry "r.txt" [1] with fields }]

end Unannotate
