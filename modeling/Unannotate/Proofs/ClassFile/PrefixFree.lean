import Unannotate.Proofs.ClassFile.Blocks
import Unannotate.Proofs.ClassFile.Lossless

/-!
# Accepted class files are prefix-free

Cut anywhere, an accepted class file is refused for want of bytes, and with anything behind it it is
refused for what trails. Class files, code bodies and record bodies are read from the front to the end of
their data, and no input makes them look outside of it.
-/
set_option autoImplicit false

namespace Unannotate

open Reader

/-! ## Reading inside of the data -/

/-- What some course of blocks finds in the data: it goes through the positions from the front to the end,
or refuses on the way, and nothing that it takes or that lies between two of its positions is outside. -/
def ReadsInside {α : Type} (parse : Bytes → Except Malformation α) : Prop :=
  ∃ reads : BlockReads α, ∀ data,
    reads.byOffset data 0 = some ((parse data).map fun value => (value, data.length)) ∧
      (reads.positions data 0).Pairwise fun start stop => (data.slice? start stop).isSome

section Checked

variable {α β : Type} {reader : Reader α} {written : α → Bytes → Prop} {check : α → Except Malformation β}

theorem blocks_liftM {result : Except Malformation β} (reads : ReadsOnly result) :
    TakesBlocks (liftM result : Reader β) := by
  cases result with
  | error fault => exact blocks_fail (reads fault rfl)
  | ok value => exact blocks_pure value

/-- A whole byte string is read from its front to its end. -/
theorem all_finishing (accepts : reader.Accepts written) (part : String) (data : Bytes) :
    (do let value ← reader; finish part; return value : Reader α) (.ofBytes data)
      = (all reader part data).map fun value => (value, ⟨data.reverse, []⟩) := by
  rw [all_eq]
  cases outcome : (do let value ← reader; finish part; return value : Reader α) (.ofBytes data) with
  | error fault => rfl
  | ok found =>
    obtain ⟨value, last⟩ := found
    obtain ⟨result, middle, valueRead, rest⟩ := bind_eq_ok_iff.mp outcome
    obtain ⟨_, next, finished, returned⟩ := bind_eq_ok_iff.mp rest
    obtain ⟨ended, rfl⟩ := (finish_eq_ok_iff part middle next).mp finished
    cases returned
    obtain ⟨front, -, ahead, behind⟩ := (accepts ..).mp valueRead
    have entire : data = front := by simpa [Cursor.ofBytes, ended] using ahead
    have last_eq : last = ⟨data.reverse, []⟩ := by
      rw [Cursor.mk.injEq, entire]
      exact ⟨by simpa [Cursor.ofBytes, List.reverseAux_eq] using behind, ended⟩
    rw [last_eq]
    rfl

/-- A value that is read to the end of the data and then checked for itself. -/
theorem readsInside_all_bind (blocks : reader.TakesBlocks) (accepts : reader.Accepts written)
    (part : String) (checks : ∀ value, ReadsOnly (check value)) :
    ReadsInside fun data => all reader part data >>= check := by
  have whole : TakesBlocks (do let value ← reader; finish part; return value) :=
    blocks_bind blocks fun value => blocks_bind (blocks_finish part) fun _ => blocks_pure value
  obtain ⟨reads, same⟩ := blocks_bind whole fun value => blocks_liftM (checks value)
  refine ⟨reads, fun data => ⟨?_, reads.positions_pairwise (Nat.zero_le _)⟩⟩
  have followed := reads.byOffset_eq (.ofBytes data)
  rw [same] at followed
  refine Eq.trans followed (congrArg some ?_)
  have staged := all_finishing accepts part data
  dsimp only
  cases found : all reader part data with
  | error fault =>
    rw [found] at staged
    rw [bind_of_eq_error staged]
    rfl
  | ok value =>
    rw [found] at staged
    rw [bind_of_eq_ok staged]
    show _ = (check value).map fun checked => (checked, data.length)
    cases check value with
    | error fault => rfl
    | ok checked => exact congrArg (fun length => Except.ok (checked, length)) List.length_reverse

theorem readsInside_all (blocks : reader.TakesBlocks) (accepts : reader.Accepts written)
    (part : String) : ReadsInside (all reader part) := by
  have checked : ReadsInside fun data => all reader part data >>= pure :=
    readsInside_all_bind blocks accepts part readsOnly_ok
  simpa only [bind_pure] using checked

/-! ## Cut data and data with more behind it -/

/-- What is read to the end cannot be read when bytes are missing at the end. -/
theorem all_of_cut (blocks : reader.TakesBlocks) (accepts : reader.Accepts written) {value : α}
    {short missing : Bytes} (isWritten : written value (short ++ missing)) (cut : missing ≠ [])
    (part : String) :
    ∃ need offset, all reader part short = .error (.truncated need offset short.length) ∧
      offset ≤ short.length ∧ short.length < offset + need := by
  obtain ⟨reads, rfl⟩ := blocks
  have read := accepts.read isWritten [] []
  rw [List.append_nil] at read
  obtain ⟨need, offset, starved, bounds⟩ := reads.starves read rfl cut
  rw [List.length_nil, Nat.zero_add] at starved bounds
  exact ⟨need, offset, all_of_error starved part, bounds⟩

/-- Whatever stands behind what is read to the end is left over. -/
theorem all_of_more (accepts : reader.Accepts written) {value : α} {data more : Bytes}
    (isWritten : written value data) (nonempty : more ≠ []) (part : String) :
    all reader part (data ++ more) = .error (.trailing more.length part) :=
  all_of_rest (accepts.read isWritten [] more) nonempty part

end Checked

/-! ## Class files -/

theorem Code.readsInside_parse : ReadsInside parse :=
  readsInside_all blocks_read accepts_read "Code attribute"

theorem RecordComponent.readsInside_parseList : ReadsInside parseList :=
  readsInside_all blocks_readList (accepts_counted accepts_read) "Record attribute"

namespace ClassFile

theorem readsInside_parse : ReadsInside parse :=
  readsInside_all_bind blocks_read accepts_read "class attributes" fun file =>
    readsOnly_bind file.readsOnly_name fun _ => readsOnly_ok file

theorem parse_of_error {data : Bytes} {fault : Malformation}
    (refused : all read "class attributes" data = .error fault) : parse data = .error fault := by
  rw [parse, refused]
  rfl

/-- No accepted class file is a proper prefix of another one: cut anywhere it wants for bytes, and with
anything behind it, that is left over. Neither of the parsers looks outside of its data. -/
theorem accepted_files_prefixFree :
    (∀ data file, parse data = .ok file →
      (∀ short missing, missing ≠ [] → data = short ++ missing →
        ∃ need offset, parse short = .error (.truncated need offset short.length) ∧
          offset ≤ short.length ∧ short.length < offset + need) ∧
      ∀ more, more ≠ [] →
        parse (data ++ more) = .error (.trailing more.length "class attributes")) ∧
    ReadsInside parse ∧ ReadsInside Code.parse ∧ ReadsInside RecordComponent.parseList := by
  refine ⟨fun data file parsed => ?_, readsInside_parse, Code.readsInside_parse,
    RecordComponent.readsInside_parseList⟩
  obtain ⟨fits, -, laidOut⟩ := (parse_eq_ok_iff data file).mp parsed
  have isWritten : Written Fits layout file data := ⟨fits, laidOut⟩
  constructor
  · rintro short missing cut rfl
    obtain ⟨need, offset, starved, bounds⟩ :=
      all_of_cut blocks_read accepts_read isWritten cut "class attributes"
    exact ⟨need, offset, parse_of_error starved, bounds⟩
  · intro more nonempty
    exact parse_of_error (all_of_more accepts_read isWritten nonempty "class attributes")

/-- The bare class is refused when its second half is missing, and with one byte more. -/
theorem accepted_files_prefixFree_bareFile :
    parse bareFile.layout = .ok bareFile ∧
      (∃ need offset, parse (bareFile.layout.take 20) = .error (.truncated need offset 20)) ∧
      parse (bareFile.layout ++ [0]) = .error (.trailing 1 "class attributes") := by
  have parsed : parse bareFile.layout = .ok bareFile := by decide +kernel
  obtain ⟨cutAnywhere, withMore⟩ := accepted_files_prefixFree.1 bareFile.layout bareFile parsed
  obtain ⟨need, offset, starved, -⟩ := cutAnywhere (bareFile.layout.take 20) (bareFile.layout.drop 20)
    (by decide +kernel) (List.take_append_drop 20 bareFile.layout).symm
  exact ⟨parsed, ⟨need, offset, starved⟩, withMore [0] (by decide)⟩

end ClassFile

end Unannotate
