import Mathlib.Order.WellFounded
import Unannotate.Proofs.ArchivePurge.FirstListed
import Unannotate.Proofs.ArchivePurge.Outcome

/-!
# How deep archives nest

A purge goes down into an archive, the archives in it, and so on. It comes to an end where no chain of
archives, each held by the one before, goes on for ever, and nowhere else. There are such chains: the
content of an entry is what its bytes expand to, so an archive can hold itself.
-/
set_option autoImplicit false

namespace Unannotate

open Archive

/-- No chain of archives from here is as long as `levels`. -/
def NestsWithin : (levels : Nat) → Bytes → Prop
  | 0, _ => False
  | levels + 1, data => ∀ inner, Holds data .archive inner → NestsWithin levels inner

theorem nestsWithin_mono {levels more : Nat} {data : Bytes} (fewer : levels ≤ more)
    (nests : NestsWithin levels data) : NestsWithin more data := by
  induction levels generalizing more data with
  | zero => exact nests.elim
  | succ levels ih =>
    obtain ⟨more, rfl⟩ : ∃ least, more = least + 1 := ⟨more - 1, by omega⟩
    exact fun inner holds => ih (by omega) (nests inner holds)

/-! ## Chains -/

/-- One bound for all items, where each has one. -/
theorem exists_common_bound {α : Type} {bounds : α → Nat → Prop} {items : List α}
    (grows : ∀ item least most, least ≤ most → bounds item least → bounds item most)
    (every : ∀ item ∈ items, ∃ bound, bounds item bound) :
    ∃ bound, ∀ item ∈ items, bounds item bound := by
  induction items with
  | nil => exact ⟨0, by simp⟩
  | cons item rest ih =>
    rw [List.forall_mem_cons] at every
    obtain ⟨here, bounded⟩ := every.1
    obtain ⟨later, others⟩ := ih every.2
    refine ⟨max here later, List.forall_mem_cons.mpr ⟨?_, fun other member => ?_⟩⟩
    · exact grows item _ _ (Nat.le_max_left here later) bounded
    · exact grows other _ _ (Nat.le_max_right here later) (others other member)

/-- An archive has finitely many entries, so it nests within a bound when all in it do. -/
theorem exists_nestsWithin {data : Bytes}
    (every : ∀ inner, Holds data .archive inner → ∃ levels, NestsWithin levels inner) :
    ∃ levels, NestsWithin levels data := by
  by_cases listable : ∃ archive repeats, Listed data archive repeats
  · obtain ⟨archive, repeats, listed⟩ := listable
    obtain ⟨levels, bounded⟩ : ∃ levels, ∀ entry ∈ archive.entries, ∀ inner,
        entry.artifact? = some .archive → archive.contentOf? entry = some inner →
        NestsWithin levels inner := by
      apply exists_common_bound
      · exact fun entry least most fewer nests inner artifact found =>
          nestsWithin_mono fewer (nests inner artifact found)
      · intro entry member
        by_cases nested : entry.artifact? = some .archive ∧ (archive.contentOf? entry).isSome
        · obtain ⟨artifact, some⟩ := nested
          obtain ⟨inner, found⟩ := Option.isSome_iff_exists.mp some
          obtain ⟨levels, nests⟩ := every inner (listed.holds_iff.mpr ⟨entry, member, artifact, found⟩)
          refine ⟨levels, fun other _ again => ?_⟩
          rw [found] at again
          cases again
          exact nests
        · refine ⟨0, fun inner artifact found => absurd ⟨artifact, ?_⟩ nested⟩
          exact Option.isSome_of_eq_some found
    refine ⟨levels + 1, fun inner holds => ?_⟩
    obtain ⟨entry, member, artifact, found⟩ := listed.holds_iff.mp holds
    exact bounded entry member inner artifact found
  · refine ⟨1, fun inner holds => absurd ?_ listable⟩
    obtain ⟨archive, repeats, _, listed, -⟩ := holds
    exact ⟨archive, repeats, listed⟩

theorem exists_nestsWithin_iff_acc {data : Bytes} :
    (∃ levels, NestsWithin levels data) ↔
      Acc (fun inner outer => Holds outer .archive inner) data := by
  constructor
  · rintro ⟨levels, nests⟩
    induction levels generalizing data with
    | zero => exact nests.elim
    | succ levels ih => exact .intro data fun inner holds => ih (nests inner holds)
  · intro accessible
    induction accessible with
    | intro data _ ih => exact exists_nestsWithin ih

/-! ## Limits -/

variable {optimize : ClassOptimizer} {traced : Bool} {levels : Nat} {origin : String} {data : Bytes}

theorem Work.bind_congr {α β : Type} {work : Work α} {next other : α → Work β}
    (same : ∀ value, work.outcome = .ok value → next value = other value) :
    (work >>= next) = (work >>= other) := by
  cases outcome : work.outcome with
  | error failure => rw [Work.bind_of_error outcome, Work.bind_of_error outcome]
  | ok value => rw [Work.bind_of_ok outcome, Work.bind_of_ok outcome, same value outcome]

theorem purgeEntry_congr {purgeClass purgeNested other : Purge} {archive : Archive}
    {item : Entry × Nat}
    (same : ∀ inside inner, item.1.artifact? = some .archive →
      archive.contentOf? item.1 = some inner → purgeNested inside inner = other inside inner) :
    purgeEntry purgeClass purgeNested origin archive item
      = purgeEntry purgeClass other origin archive item := by
  obtain ⟨entry, index⟩ := item
  simp only [purgeEntry]
  cases opened : archive.open? entry with
  | none => rfl
  | some kept =>
    obtain ⟨compression, stored⟩ := kept
    cases artifact : entry.artifact? with
    | none => rfl
    | some kind =>
      cases kind with
      | classFile => rfl
      | archive =>
        refine Work.bind_congr fun content read => ?_
        have found : archive.contentOf? entry = some content :=
          contentOf?_eq_some_iff.mpr ⟨_, _, opened, readContent_ok_iff.mp read⟩
        simp only [same _ content artifact found]

/-- A limit that is not reached makes no difference. -/
theorem purgeArchive_eq_of_nestsWithin {more : Nat} (nests : NestsWithin levels data)
    (fewer : levels ≤ more) :
    purgeArchive optimize traced more origin data = purgeArchive optimize traced levels origin data := by
  induction levels generalizing more origin data with
  | zero => exact nests.elim
  | succ levels ih =>
    obtain ⟨more, rfl⟩ : ∃ least, more = least + 1 := ⟨more - 1, by omega⟩
    rw [purgeArchive_succ, purgeArchive_succ]
    refine congrArg _ (Work.bind_congr fun found listing => ?_)
    obtain ⟨archive, repeats⟩ := found
    have listed : Listed data archive repeats := by
      rw [outcome_listEntries, mapError_eq_ok_iff] at listing
      exact listing_eq_ok_iff.mp listing
    have each : Work.each archive.entries.zipIdx
          (purgeEntry (purgeClass optimize traced) (purgeArchive optimize traced more) origin archive)
        = Work.each archive.entries.zipIdx (purgeEntry (purgeClass optimize traced)
          (purgeArchive optimize traced levels) origin archive) := by
      refine Work.each_congr fun item member => purgeEntry_congr fun inside inner artifact found => ?_
      have holds : Holds data .archive inner :=
        listed.holds_iff.mpr ⟨item.1, List.fst_mem_of_mem_zipIdx member, artifact, found⟩
      exact ih (nests inner holds) (by omega)
    simp only [purgeEntries, each]

theorem nestsWithin_of_succeeds {result : Option Bytes}
    (succeeds : (purgeArchive optimize traced levels origin data).outcome = .ok result) :
    NestsWithin levels data := by
  induction levels generalizing origin data result with
  | zero => cases succeeds
  | succ levels ih =>
    intro inner holds
    obtain ⟨inside, part, purges, -⟩ := exists_outcome_of_holds succeeds holds
    exact ih purges

/-- A block of compressed data for `count` bytes that are kept as they are, without these bytes. -/
def keeping (count : Nat) : Bytes :=
  0 :: (Bytes.littleEndian 2 count ++ Bytes.littleEndian 2 (0xFFFF - count))

/-- An entry of an archive that holds only this entry, for whatever the archive is compressed to. -/
def itself (stored : Bytes) : NewEntry :=
  { name := "a.zip", comment := "", fields := [], compression := .deflated, modified := ⟨0x5264, 0x28C4⟩
    checksum := 0xA20C44FB, size := 368, mode := 0o100644, stored }

/-- What the archive is compressed to: the bytes in front of it and behind it are kept, and the rest says
by turns to keep what says it and to repeat it. Each unit has five bytes. -/
def compressedSelf : Bytes :=
  let blank := itself (List.replicate 260 0)
  let front := blank.localRecord.take 35
  let back := 0 :: ((blank.directoryRecord 0).encode ++ (endingOf [blank] []).encode)
  let repeatFront : Bytes := [0x22, 0x56, 0x1D, 0x40, 0x00]
  let repeatFour : Bytes := [0x42, 0x88, 0x21, 0xC4, 0x00]
  let repeatBack : Bytes := [0xA2, 0xB2, 0x71, 0x80, 0x01]
  let one := keeping 5
  let four := keeping 20
  let none := keeping 0
  keeping 40 ++ front ++ keeping 40 ++ repeatFront ++ one ++ repeatFront ++ one ++ one ++ four
    ++ repeatFront ++ one ++ one ++ four ++ repeatFour ++ four ++ repeatFour ++ four ++ repeatFour
    ++ four ++ repeatFour ++ four ++ repeatFour ++ none ++ none ++ keeping 79 ++ repeatFour ++ none
    ++ none ++ keeping 79 ++ repeatBack ++ back ++ repeatBack ++ [0]

def holdingItself : Bytes := packed [itself compressedSelf]

set_option maxRecDepth 10000 in
theorem encode?_holdingItself : encode? [itself compressedSelf] [] = some holdingItself :=
  encode?_packed (by decide +kernel)

set_option maxRecDepth 10000 in
theorem inflate?_compressedSelf : inflate? compressedSelf = some holdingItself := by decide +kernel

set_option maxRecDepth 10000 in
theorem crc32_holdingItself : (crc32 holdingItself).toNat = 0xA20C44FB := by decide +kernel

theorem readable_itself (stored : Bytes) : (itself stored).Readable where
  date_lt := (by decide : 0x5264 < 0x10000)
  time_lt := (by decide : 0x28C4 < 0x10000)
  checksum_lt := (by decide : 0xA20C44FB < 0x100000000)
  mode_pos := (by decide : 0 < 0o100644)
  mode_lt := (by decide : 0o100644 < 0x10000)
  inert := by simp [itself]

theorem listed_holdingItself :
    Listed holdingItself (asWritten [itself compressedSelf] [] holdingItself) false := by
  refine listed_encode? encode?_holdingItself (List.nodup_singleton _) ?_
    (EndRecord.isLast_of_comment_eq_nil rfl)
  exact fun new member => List.mem_singleton.mp member ▸ readable_itself compressedSelf

theorem opens_itself : (asWritten [itself compressedSelf] [] holdingItself).open?
    ((itself compressedSelf).entryAt 0) = some (.deflated, compressedSelf) := by
  have read := readAs_encode? encode?_holdingItself fun new member =>
    List.mem_singleton.mp member ▸ readable_itself compressedSelf
  cases read with
  | cons first _ => exact first.opens

theorem content?_itself : ((itself compressedSelf).entryAt 0).content? .deflated compressedSelf
    = some holdingItself := by
  unfold Entry.content?
  rw [Compression.expand?, inflate?_compressedSelf, Option.bind_eq_bind, Option.bind_some]
  exact if_pos crc32_holdingItself

theorem holds_holdingItself : Holds holdingItself .archive holdingItself :=
  ⟨_, _, (itself compressedSelf).entryAt 0, listed_holdingItself, List.mem_singleton_self _,
    by decide, contentOf?_eq_some_iff.mpr ⟨_, _, opens_itself, content?_itself⟩⟩

theorem entrySteps_itself (within : ArtifactKind → List String → Bytes → List PurgeStep)
    (path : List String) :
    let archive := asWritten [itself compressedSelf] [] holdingItself
    let entry := (itself compressedSelf).entryAt 0
    entrySteps within path archive (entry, 0)
      = .opening path archive entry 0 :: .reading (path ++ ["a.zip"]) entry .deflated compressedSelf ::
        within .archive (path ++ ["a.zip"]) holdingItself := by
  have artifact : ((itself compressedSelf).entryAt 0).artifact? = some .archive := by decide
  simp only [entrySteps, opens_itself, content?_itself, artifact]
  rfl

/-- Every limit is reached, and nothing fails before. -/
theorem firstFailure?_holdingItself (optimize : ClassOptimizer) (levels : Nat) (path : List String) :
    ∃ failure, firstFailure? optimize (stepsOf optimize levels .archive path holdingItself)
      = some failure ∧ failure.cause = .nestingLimit := by
  induction levels generalizing path with
  | zero => exact ⟨_, rfl, rfl⟩
  | succ levels ih =>
    obtain ⟨failure, inside, cause⟩ := ih (path ++ ["a.zip"])
    have listed := listing_eq_ok_iff.mpr listed_holdingItself
    have entries : (asWritten [itself compressedSelf] [] holdingItself).entries.zipIdx
        = [((itself compressedSelf).entryAt 0, 0)] := rfl
    refine ⟨failure, ?_, cause⟩
    simp only [stepsOf, listed, entries, List.flatMap_cons, List.flatMap_nil, entrySteps_itself,
      List.cons_append, List.append_nil, firstFailure?_cons, firstFailure?_append, inside,
      PurgeStep.failure?, PurgeStep.fault?, opens_itself, content?_itself, Option.isSome_some, if_true,
      Option.map_none, Option.none_or, Option.some_or]

end Unannotate
