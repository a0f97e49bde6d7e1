import Unannotate.Proofs.AnnotationTree.Lossless
import Unannotate.Proofs.Layout.Locality

/-!
# How the layout check ends on written bytes

A walk is an account of how the layout check gets on: it comes through, it finds a fault in what it
reads, or it does not end where a body ends. `LayoutCheck.Follows` says that a check does what a walk
says on certain bytes, wherever they stand; where the check goes past the end of a body, nothing is
said. What is written field by field, counted or nested is followed as the check goes over it, and
annotations are always passed.
-/
set_option autoImplicit false

namespace Unannotate

open Reader

/-- Why the layout check does not come through a part of a class. -/
inductive LayoutStop
  /-- There is a fault in the bytes, which the check finds wherever they stand. -/
  | faulty (fault : LayoutFault)
  /-- The check stops at an attribute that it does not know, within a body that a purge drops. -/
  | dropped (name : String)
  /-- The check does not end where a body ends. -/
  | misfit
  deriving DecidableEq, Repr

/-- How the layout check gets on over a part of a class. -/
abbrev LayoutWalk := Except LayoutStop Unit

namespace LayoutCheck

variable {α : Type}

/-- The walk of a check over bytes that it reads on their own. -/
def alone (check : LayoutCheck Unit) (info : Bytes) : LayoutWalk :=
  match check (.ofBytes info) with
  | .ok (_, cursor) => if cursor.rest.isEmpty then .ok () else .error .misfit
  | .error fault => .error (if fault.isAboutEnd then .misfit else .faulty fault)

/-- Wherever `front` stands, the check passes over it or finds a fault in it as the walk says. -/
structure Follows (check : LayoutCheck Unit) (front : Bytes) (walk : LayoutWalk) : Prop where
  passes : walk = .ok () → ∀ passed rest,
    check ⟨passed, front ++ rest⟩ = .ok ((), ⟨front.reverseAux passed, rest⟩)
  faults : ∀ {fault}, walk = .error (.faulty fault) → ∀ passed rest,
    check ⟨passed, front ++ rest⟩ = .error fault

/-- The check passes over `front`, wherever it stands. -/
abbrev Covers (check : LayoutCheck Unit) (front : Bytes) : Prop := Follows check front (.ok ())

theorem covers_of_passes {check : LayoutCheck Unit} {front : Bytes}
    (passes : ∀ passed rest,
      check ⟨passed, front ++ rest⟩ = .ok ((), ⟨front.reverseAux passed, rest⟩)) :
    Covers check front := by
  refine ⟨fun _ => passes, ?_⟩
  intro fault stopped
  cases stopped

/-- What a body is found to be on its own, it is anywhere, also with more levels. -/
theorem follows_alone {check check' : LayoutCheck Unit} {info : Bytes}
    (carries : Carries info.length check check') : Follows check' info (check.alone info) where
  passes through := by
    unfold alone at through
    split at through
    · next cursor checked =>
      split at through
      · next ended =>
        obtain ⟨taken, split, carried⟩ := carries.passes (Nat.le_refl _) checked
        have ended : cursor.rest = [] := List.isEmpty_iff.mp ended
        rw [ended, List.append_nil] at split
        rw [split]
        simpa only [split, ended, List.nil_append] using carried
      · cases through
    · cases through
  faults {fault} stopped := by
    unfold alone at stopped
    split at stopped
    · split at stopped <;> cases stopped
    · next found checked =>
      split at stopped
      · cases stopped
      · next inside =>
        cases stopped
        exact carries.faults (Nat.le_refl _) (Bool.eq_false_iff.mpr inside) checked

/-- A check that covers a body gets through it on its own. -/
theorem alone_of_covers {check : LayoutCheck Unit} {info : Bytes} (covers : Covers check info) :
    check.alone info = .ok () := by
  have passed := covers.passes rfl [] []
  rw [List.append_nil] at passed
  unfold alone Cursor.ofBytes
  rw [passed]
  rfl

/-! ## Sequencing and repetition -/

theorem follows_bind {check check' : LayoutCheck Unit} {front front' : Bytes} {walk walk' : LayoutWalk}
    (first : Follows check front walk) (second : Follows check' front' walk') :
    Follows (do check; check') (front ++ front') (do walk; walk') where
  passes through passed rest := by
    cases walk with
    | error stop => cases through
    | ok _ =>
      rw [bind_apply, List.append_assoc, first.passes rfl]
      show check' ⟨front.reverseAux passed, front' ++ rest⟩ = _
      rw [second.passes through]
      simp [List.reverseAux_eq]
  faults {fault} stopped passed rest := by
    rw [bind_apply, List.append_assoc]
    cases walk with
    | error stop =>
      cases stopped
      rw [first.faults rfl]
      rfl
    | ok _ =>
      rw [first.passes rfl]
      exact second.faults stopped _ rest

/-- What is always passed over leaves the rest of the walk as it is. -/
theorem follows_behind {check check' : LayoutCheck Unit} {front front' : Bytes} {walk : LayoutWalk}
    (first : Covers check front) (second : Follows check' front' walk) :
    Follows (do check; check') (front ++ front') walk := follows_bind first second

theorem follows_nil : Follows (pure ()) [] (.ok ()) := covers_of_passes fun _ _ => rfl

/-- What stands behind an integer may depend on it. -/
theorem follows_integer {width value : Nat} (fits : value < Bytes.capacity width)
    {next : Nat → LayoutCheck Unit} {front : Bytes} {walk : LayoutWalk}
    (follows : Follows (next value) front walk) :
    Follows (integer width >>= next) (Bytes.bigEndian width value ++ front) walk := by
  have read (passed rest : Bytes) : integer width ⟨passed, Bytes.bigEndian width value ++ rest⟩
      = .ok (value, ⟨(Bytes.bigEndian width value).reverseAux passed, rest⟩) := by
    have taken := Cursor.take?_append passed (Bytes.bigEndian width value) rest
    rw [Bytes.length_bigEndian] at taken
    simp only [integer, taken, Bytes.ofBigEndian_bigEndian_of_lt fits]
  constructor
  · intro through passed rest
    rw [bind_apply, List.append_assoc, read]
    show next value ⟨_, front ++ rest⟩ = _
    rw [follows.passes through]
    simp [List.reverseAux_eq]
  · intro fault stopped passed rest
    rw [bind_apply, List.append_assoc, read]
    exact follows.faults stopped _ rest

theorem follows_times {item : LayoutCheck Unit} {layout : α → Bytes} {walk : α → LayoutWalk}
    {list : List α} (each : ∀ value ∈ list, Follows item (layout value) (walk value)) :
    Follows (times item list.length) (list.flatMap layout) (list.forM walk) := by
  induction list with
  | nil => exact follows_nil
  | cons head tail ih =>
    obtain ⟨headFollows, tailFollows⟩ := List.forall_mem_cons.mp each
    exact follows_bind headFollows (ih tailFollows)

theorem follows_counted {item : LayoutCheck Unit} {layout : α → Bytes} {walk : α → LayoutWalk}
    {list : List α} (short : list.length < 65536)
    (each : ∀ value ∈ list, Follows item (layout value) (walk value)) :
    Follows (counted item) (countedLayout layout list) (list.forM walk) :=
  follows_integer short (follows_times each)

theorem covers_times {item : LayoutCheck Unit} {layout : α → Bytes} {list : List α}
    (each : ∀ value ∈ list, Covers item (layout value)) :
    Covers (times item list.length) (list.flatMap layout) := by
  have follows := follows_times each
  have through (list : List α) : (list.forM fun _ => (.ok () : LayoutWalk)) = .ok () := by
    induction list with
    | nil => rfl
    | cons head tail ih => exact ih
  rwa [through] at follows

theorem covers_counted {item : LayoutCheck Unit} {layout : α → Bytes} {list : List α}
    (short : list.length < 65536) (each : ∀ value ∈ list, Covers item (layout value)) :
    Covers (counted item) (countedLayout layout list) :=
  follows_integer short (covers_times each)

/-! ## Fields that are passed over -/

theorem covers_integer {width : Nat} {front : Bytes} (length : front.length = width) :
    Covers (discard (integer width)) front := by
  apply covers_of_passes
  intro passed rest
  subst length
  have taken := Cursor.take?_append passed front rest
  have read : integer front.length ⟨passed, front ++ rest⟩
      = .ok (Bytes.ofBigEndian front, ⟨front.reverseAux passed, rest⟩) := by
    simp only [integer, taken]
  show (integer front.length ⟨passed, front ++ rest⟩).map (fun result => ((), result.2)) = _
  rw [read]
  rfl

theorem covers_block (front : Bytes) : Covers (block front.length) front := by
  apply covers_of_passes
  intro passed rest
  simp only [block, Cursor.take?_append]

/-- A block that is there to be passed over. -/
theorem covers_room {check : LayoutCheck Unit} {front : Bytes} (covers : Covers check front) :
    Covers (do room front.length; check) front := by
  apply covers_of_passes
  intro passed rest
  have roomy : room front.length ⟨passed, front ++ rest⟩ = .ok ((), ⟨passed, front ++ rest⟩) := by
    simp only [room, Cursor.take?_append]
  rw [bind_apply, roomy]
  exact covers.passes rfl passed rest

/-- A number of items that each take the same width, whatever their bytes. -/
theorem covers_times_of_length {item : LayoutCheck Unit} {width count : Nat} {front : Bytes}
    (each : ∀ part : Bytes, part.length = width → Covers item part)
    (length : front.length = count * width) : Covers (times item count) front := by
  induction count generalizing front with
  | zero =>
    rw [Nat.zero_mul] at length
    rw [List.eq_nil_of_length_eq_zero length]
    exact follows_nil
  | succ count ih =>
    rw [Nat.succ_mul] at length
    have head := each (front.take width) (by rw [List.length_take]; omega)
    have tail := ih (by rw [List.length_drop]; omega : (front.drop width).length = count * width)
    have both := follows_bind head tail
    rwa [List.take_append_drop] at both

theorem covers_words {count : Nat} {front : Bytes} (length : front.length = count * 2) :
    Covers (words count) front :=
  covers_times_of_length (fun _ => covers_integer) length

/-! ## Annotations -/

theorem covers_annotationBody {value : LayoutCheck Unit} {typeIndex : UInt16}
    {pairs : List (UInt16 × ElementValue)} (short : pairs.length < 65536)
    (each : ∀ pair ∈ pairs, Covers value (ElementValue.encode pair.2)) :
    Covers (annotationBody value)
      (Bytes.ofUInt16 typeIndex ++ countedLayout ElementValue.pairLayout pairs) := by
  refine follows_behind (covers_integer (Bytes.length_ofUInt16 _)) (covers_counted short ?_)
  intro pair inPairs
  exact follows_behind (covers_integer (Bytes.length_ofUInt16 _)) (each pair inPairs)

theorem follows_u8 {tag : UInt8} {next : Nat → LayoutCheck Unit} {front : Bytes} {walk : LayoutWalk}
    (follows : Follows (next tag.toNat) front walk) :
    Follows (do let tag ← u8; next tag) (tag :: front) walk := by
  have written : tag :: front = Bytes.bigEndian 1 tag.toNat ++ front := by
    rw [← Bytes.ofUInt8_eq]
    rfl
  rw [written]
  exact follows_integer tag.toNat_lt follows

/-- An item of a counted list is no longer than the list. -/
theorem length_le_countedLayout (layout : α → Bytes) {list : List α} {value : α}
    (inList : value ∈ list) :
    (layout value).length + 2 ≤ (countedLayout layout list).length := by
  have inItems : layout value ∈ list.map layout := List.mem_map.mpr ⟨value, inList, rfl⟩
  have part := (List.sublist_flatten_of_mem inItems).length_le
  rw [countedLayout, List.length_append, Bytes.length_bigEndian, List.flatMap]
  omega

/-- By induction on the depth: the check reads the tag of a value and goes over its parts in the same
order as they are written. -/
theorem covers_elementValue {depth levels : Nat} {value : ElementValue}
    (fits : ElementValue.FitsWithin depth value)
    (enough : (ElementValue.encode value).length ≤ levels) :
    Covers (elementValue levels) (ElementValue.encode value) := by
  induction depth generalizing levels value with
  | zero => cases fits
  | succ depth ih =>
    obtain ⟨levels, rfl⟩ : ∃ fewer, levels = fewer + 1 := by
      obtain ⟨tag, rest, same⟩ := ElementValue.exists_encode_eq_cons value
      rw [same, List.length_cons] at enough
      exact ⟨levels - 1, by omega⟩
    cases value with
    | constant tag index =>
      have known : tag ∈ ElementValue.constantTags := fits
      rw [ElementValue.encode]
      refine follows_u8 ?_
      unfold ElementValue.constantTags at known
      rw [UInt8.ofNat_toNat, if_pos known]
      exact covers_integer (Bytes.length_ofUInt16 _)
    | enumConstant typeName constantName =>
      rw [ElementValue.encode]
      refine follows_u8 ?_
      rw [if_neg (by decide), if_pos (by decide)]
      exact covers_words (by simp [Bytes.length_ofUInt16])
    | nested typeIndex pairs =>
      have fits : CountedFits (fun pair => ElementValue.FitsWithin depth pair.2) pairs := fits
      rw [ElementValue.encode_nested] at enough ⊢
      refine follows_u8 ?_
      rw [if_neg (by decide), if_neg (by decide), if_pos (by decide)]
      refine covers_annotationBody fits.1 ?_
      intro pair inPairs
      refine ih (fits.2 pair inPairs) ?_
      have part := length_le_countedLayout ElementValue.pairLayout inPairs
      simp only [ElementValue.pairLayout, List.length_cons, List.length_append] at enough part
      omega
    | array items =>
      have fits : CountedFits (ElementValue.FitsWithin depth) items := fits
      rw [ElementValue.encode_array] at enough ⊢
      refine follows_u8 ?_
      rw [if_neg (by decide), if_neg (by decide), if_neg (by decide), if_pos (by decide)]
      refine covers_counted fits.1 ?_
      intro item inItems
      refine ih (fits.2 item inItems) ?_
      have part := length_le_countedLayout ElementValue.encode inItems
      rw [List.length_cons] at enough
      omega

theorem covers_annotationItem {levels : Nat} {tree : AnnotationTree} (fits : tree.Fits)
    (enough : tree.encode.length ≤ levels) : Covers (annotationItem levels) tree.encode := by
  rw [AnnotationTree.encode_eq] at enough ⊢
  refine covers_annotationBody fits.1 ?_
  intro pair inPairs
  refine covers_elementValue (fits.2 pair inPairs) ?_
  have part := length_le_countedLayout ElementValue.pairLayout inPairs
  simp only [ElementValue.pairLayout, List.length_append] at enough part
  omega

/-- The check passes over any list of annotations that a purge can read. -/
theorem covers_annotations {levels : Nat} {trees : List AnnotationTree}
    (fits : AnnotationTree.ListFits trees)
    (enough : (AnnotationTree.encodeList trees).length ≤ levels) :
    Covers (counted (annotationItem levels)) (AnnotationTree.encodeList trees) := by
  refine covers_counted fits.1 ?_
  intro tree inTrees
  refine covers_annotationItem (fits.2 tree inTrees) ?_
  have part := length_le_countedLayout AnnotationTree.encode inTrees
  have same : AnnotationTree.encodeList trees = countedLayout AnnotationTree.encode trees := rfl
  rw [same] at enough
  omega

theorem covers_parameters {levels : Nat} {lists : List (List AnnotationTree)}
    (fits : AnnotationTree.ParametersFit lists)
    (enough : (AnnotationTree.encodeParameters lists).length ≤ levels) :
    Covers (do let count ← u8; times (counted (annotationItem levels)) count)
      (AnnotationTree.encodeParameters lists) := by
  refine follows_integer fits.1 (covers_times ?_)
  intro trees inLists
  refine covers_annotations (fits.2 trees inLists) ?_
  have part := length_le_countedLayout AnnotationTree.encodeList inLists
  simp only [countedLayout, AnnotationTree.encodeParameters, List.length_append,
    Bytes.length_bigEndian] at enough part
  omega

end LayoutCheck

end Unannotate
