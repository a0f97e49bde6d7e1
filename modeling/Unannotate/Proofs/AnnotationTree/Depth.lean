import Unannotate.Proofs.AnnotationTree.Lossless

/-!
# Annotations are read up to a depth

A tree can be written when its counts fit 16 bits and its constants carry known tags, however deep its
values nest. Reading tells two cases apart and no more: a tree whose values nest at most 256 deep is read
from its encoding, whatever stands around it, and one that nests deeper is refused for its depth. Nothing
but such an encoding is ever read.
-/
set_option autoImplicit false

namespace Unannotate

open Reader

/-! ## Refused values -/

namespace Reader

variable {α : Type}

/-- The written form of a bad value is refused for one fault, whatever stands around it. -/
def Refuses (reader : Reader α) (fault : Malformation) (bad : α → Prop) (layout : α → Bytes) : Prop :=
  ∀ value, bad value → ∀ passed tail, reader ⟨passed, layout value ++ tail⟩ = .error fault

variable {item : Reader α} {fault : Malformation} {fits bad : α → Prop} {layout : α → Bytes}

/-- The values in front of the first bad one are read, and that one is refused. -/
theorem times_refuses (accepts : item.Accepts (Written fits layout))
    (refuses : item.Refuses fault bad layout) {list : List α}
    (each : ∀ value ∈ list, fits value ∨ bad value) (some : ∃ value ∈ list, bad value)
    (passed tail : Bytes) :
    times item list.length ⟨passed, list.flatMap layout ++ tail⟩ = .error fault := by
  induction list generalizing passed with
  | nil => simp at some
  | cons head rest ih =>
    obtain ⟨headEither, restEither⟩ := List.forall_mem_cons.mp each
    rw [List.length_cons, times, List.flatMap_cons, List.append_assoc]
    by_cases headBad : bad head
    · exact bind_of_eq_error (refuses head headBad passed _)
    · have headFits := headEither.resolve_right headBad
      have restBad : ∃ value ∈ rest, bad value := by
        obtain ⟨value, inList, valueBad⟩ := some
        rcases List.mem_cons.mp inList with rfl | inRest
        · exact absurd valueBad headBad
        · exact ⟨value, inRest, valueBad⟩
      rw [bind_of_eq_ok (accepts.read ⟨headFits, rfl⟩ passed _)]
      exact bind_of_eq_error (ih restEither restBad _)

theorem counted_refuses (accepts : item.Accepts (Written fits layout))
    (refuses : item.Refuses fault bad layout) :
    Refuses (counted item) fault
      (fun list => list.length < 65536 ∧ (∀ value ∈ list, fits value ∨ bad value) ∧
        ∃ value ∈ list, bad value)
      (countedLayout layout) := by
  rintro list ⟨short, each, some⟩ passed tail
  have width : (UInt16.ofNat list.length).toNat = list.length := UInt16.toNat_ofNat_of_lt short
  have count : Bytes.bigEndian 2 list.length = Bytes.ofUInt16 (UInt16.ofNat list.length) := by
    rw [Bytes.ofUInt16_ofNat]
  rw [counted, countedLayout, List.append_assoc, count, bind_of_eq_ok (accepts_u16.read rfl passed _),
    width]
  exact times_refuses accepts refuses each some _ tail

end Reader

/-! ## Element values -/

namespace ElementValue

/-- The letters that stand for a value of one constant. -/
def constantLetters : List Char := "BCDFIJSZsc".toList

/-- Known tags, and counts that fit 16 bits, at any depth. -/
inductive WellFormed : ElementValue → Prop
  | constant {tag : UInt8} {index : UInt16}
      (known : tag ∈ constantLetters.map fun letter => UInt8.ofNat letter.toNat) :
      WellFormed (constant tag index)
  | enumConstant {typeName constantName : UInt16} : WellFormed (enumConstant typeName constantName)
  | nested {typeIndex : UInt16} {pairs : List (UInt16 × ElementValue)} (short : pairs.length < 65536)
      (each : ∀ pair ∈ pairs, WellFormed pair.2) : WellFormed (nested typeIndex pairs)
  | array {items : List ElementValue} (short : items.length < 65536)
      (each : ∀ item ∈ items, WellFormed item) : WellFormed (array items)

mutual

/-- How deep values nest in a value, itself counted. -/
def depth : ElementValue → Nat
  | constant _ _ => 1
  | enumConstant _ _ => 1
  | nested _ pairs => depthOfPairs pairs + 1
  | array items => depthOfItems items + 1

def depthOfPairs : List (UInt16 × ElementValue) → Nat
  | [] => 0
  | (_, value) :: rest => max (depth value) (depthOfPairs rest)

def depthOfItems : List ElementValue → Nat
  | [] => 0
  | value :: rest => max (depth value) (depthOfItems rest)

end

theorem depth_pos (value : ElementValue) : 0 < value.depth := by
  cases value <;> simp [depth]

theorem depthOfPairs_le_iff (pairs : List (UInt16 × ElementValue)) (levels : Nat) :
    depthOfPairs pairs ≤ levels ↔ ∀ pair ∈ pairs, pair.2.depth ≤ levels := by
  induction pairs with
  | nil => simp [depthOfPairs]
  | cons pair rest ih =>
    obtain ⟨name, value⟩ := pair
    rw [depthOfPairs, Nat.max_le, ih, List.forall_mem_cons]

theorem depthOfItems_le_iff (items : List ElementValue) (levels : Nat) :
    depthOfItems items ≤ levels ↔ ∀ item ∈ items, item.depth ≤ levels := by
  induction items with
  | nil => simp [depthOfItems]
  | cons value rest ih => rw [depthOfItems, Nat.max_le, ih, List.forall_mem_cons]

theorem mem_constantTags_iff (tag : UInt8) :
    tag ∈ constantTags ↔ tag ∈ constantLetters.map fun letter => UInt8.ofNat letter.toNat := by
  have same : (constantLetters.map fun letter => UInt8.ofNat letter.toNat) = constantTags := by decide
  rw [same]

/-- What a reader with so many levels accepts is what is well-formed and nests no deeper. -/
theorem fitsWithin_iff (levels : Nat) (value : ElementValue) :
    FitsWithin levels value ↔ value.WellFormed ∧ value.depth ≤ levels := by
  induction levels generalizing value with
  | zero =>
    have positive := value.depth_pos
    simp only [FitsWithin, false_iff]
    rintro ⟨-, shallow⟩
    omega
  | succ levels ih =>
    cases value with
    | constant tag index =>
      rw [FitsWithin, mem_constantTags_iff]
      constructor
      · intro known
        exact ⟨.constant known, by simp [depth]⟩
      · rintro ⟨⟨known⟩, -⟩
        exact known
    | enumConstant typeName constantName =>
      simp only [FitsWithin, true_iff]
      exact ⟨.enumConstant, by simp [depth]⟩
    | nested typeIndex pairs =>
      rw [FitsWithin, CountedFits, depth, Nat.succ_le_succ_iff, depthOfPairs_le_iff]
      simp only [ih]
      constructor
      · rintro ⟨short, each⟩
        exact ⟨.nested short fun pair inPairs => (each pair inPairs).1,
          fun pair inPairs => (each pair inPairs).2⟩
      · rintro ⟨wellFormed, shallow⟩
        cases wellFormed with
        | nested short each =>
          exact ⟨short, fun pair inPairs => ⟨each pair inPairs, shallow pair inPairs⟩⟩
    | array items =>
      rw [FitsWithin, CountedFits, depth, Nat.succ_le_succ_iff, depthOfItems_le_iff]
      simp only [ih]
      constructor
      · rintro ⟨short, each⟩
        exact ⟨.array short fun item inItems => (each item inItems).1,
          fun item inItems => (each item inItems).2⟩
      · rintro ⟨wellFormed, shallow⟩
        cases wellFormed with
        | array short each =>
          exact ⟨short, fun item inItems => ⟨each item inItems, shallow item inItems⟩⟩

theorem refuses_readPair {readValue : Reader ElementValue} {fault : Malformation}
    {bad : ElementValue → Prop} (refuses : readValue.Refuses fault bad encode) :
    Refuses (readPair readValue) fault (fun pair => bad pair.2) pairLayout := by
  rintro ⟨name, value⟩ valueBad passed tail
  rw [readPair, pairLayout, List.append_assoc, bind_of_eq_ok (accepts_u16.read rfl passed _)]
  exact bind_of_eq_error (refuses value valueBad _ tail)

/-- What an array or an annotation of deeper values looks like to a reader with fewer levels. -/
theorem shallow_or_deep {α : Type} (valueOf : α → ElementValue) {list : List α} {levels : Nat}
    (each : ∀ item ∈ list, (valueOf item).WellFormed)
    (deep : ¬ ∀ item ∈ list, (valueOf item).depth ≤ levels) :
    (∀ item ∈ list, FitsWithin levels (valueOf item) ∨
        (valueOf item).WellFormed ∧ levels < (valueOf item).depth) ∧
      ∃ item ∈ list, (valueOf item).WellFormed ∧ levels < (valueOf item).depth := by
  constructor
  · intro item inList
    rw [fitsWithin_iff]
    rcases Nat.lt_or_ge levels (valueOf item).depth with deeper | shallow
    · exact .inr ⟨each item inList, deeper⟩
    · exact .inl ⟨each item inList, shallow⟩
  · simp only [not_forall, Nat.not_le] at deep
    obtain ⟨item, inList, deeper⟩ := deep
    exact ⟨item, inList, each item inList, deeper⟩

/-- By induction on the levels, as values are read: the first value below that nests too deep ends the
reading. -/
theorem refuses_read (levels : Nat) :
    Refuses (read levels) .valuesTooDeep (fun value => value.WellFormed ∧ levels < value.depth)
      encode := by
  induction levels with
  | zero => exact fun _ _ _ _ => rfl
  | succ levels ih =>
    rintro value ⟨wellFormed, deep⟩ passed tail
    cases wellFormed with
    | constant | enumConstant =>
      rw [depth] at deep
      omega
    | @nested typeIndex pairs short each =>
      rw [depth, Nat.succ_lt_succ_iff, ← Nat.not_le, depthOfPairs_le_iff] at deep
      obtain ⟨either, deeper⟩ := shallow_or_deep Prod.snd each deep
      have pairsRefused := counted_refuses (accepts_readPair (accepts_read levels))
        (refuses_readPair ih) pairs ⟨short, either, deeper⟩
      rw [encode_nested, read, List.cons_append,
        bind_of_eq_ok (u8_cons ..),
        if_neg (by decide), if_neg (by decide), if_pos rfl, List.append_assoc,
        bind_of_eq_ok (accepts_u16.read rfl _ _)]
      exact bind_of_eq_error (pairsRefused _ tail)
    | @array items short each =>
      rw [depth, Nat.succ_lt_succ_iff, ← Nat.not_le, depthOfItems_le_iff] at deep
      obtain ⟨either, deeper⟩ := shallow_or_deep id each deep
      have itemsRefused := counted_refuses (accepts_read levels) ih items ⟨short, either, deeper⟩
      rw [encode_array, read, List.cons_append,
        bind_of_eq_ok (u8_cons ..),
        if_neg (by decide), if_neg (by decide), if_neg (by decide), if_pos rfl]
      exact bind_of_eq_error (itemsRefused _ tail)

end ElementValue

/-! ## Annotations -/

namespace AnnotationTree

/-- As many pairs as a count can say, and every value well-formed. -/
def WellFormed (tree : AnnotationTree) : Prop :=
  tree.pairs.length < 65536 ∧ ∀ pair ∈ tree.pairs, pair.2.WellFormed

/-- How deep the element values nest. -/
def depth (tree : AnnotationTree) : Nat := ElementValue.depthOfPairs tree.pairs

theorem fits_iff (tree : AnnotationTree) : tree.Fits ↔ tree.WellFormed ∧ tree.depth ≤ 256 := by
  rw [Fits, CountedFits, WellFormed, depth, ElementValue.depthOfPairs_le_iff]
  simp only [ElementValue.fitsWithin_iff, ElementValue.maxDepth]
  constructor
  · rintro ⟨short, each⟩
    exact ⟨⟨short, fun pair inPairs => (each pair inPairs).1⟩, fun pair inPairs => (each pair inPairs).2⟩
  · rintro ⟨⟨short, each⟩, shallow⟩
    exact ⟨short, fun pair inPairs => ⟨each pair inPairs, shallow pair inPairs⟩⟩

theorem read_of_deeper {tree : AnnotationTree} (wellFormed : tree.WellFormed) (deep : 256 < tree.depth)
    (passed tail : Bytes) : read ⟨passed, tree.encode ++ tail⟩ = .error .valuesTooDeep := by
  obtain ⟨short, each⟩ := wellFormed
  rw [depth, ← Nat.not_le, ElementValue.depthOfPairs_le_iff] at deep
  obtain ⟨either, deeper⟩ := ElementValue.shallow_or_deep Prod.snd each deep
  have levels := ElementValue.accepts_read ElementValue.maxDepth
  have pairsRefused := counted_refuses (ElementValue.accepts_readPair levels)
    (ElementValue.refuses_readPair (ElementValue.refuses_read ElementValue.maxDepth)) tree.pairs
    ⟨short, either, deeper⟩
  rw [encode_eq, read, List.append_assoc, bind_of_eq_ok (accepts_u16.read rfl passed _)]
  exact bind_of_eq_error (pairsRefused _ tail)

theorem read_of_encode {tree : AnnotationTree} (wellFormed : tree.WellFormed) (passed tail : Bytes) :
    read ⟨passed, tree.encode ++ tail⟩ =
      if tree.depth ≤ 256 then .ok (tree, ⟨tree.encode.reverseAux passed, tail⟩)
      else .error .valuesTooDeep := by
  split
  · next shallow => exact accepts_read.read ⟨tree.fits_iff.mpr ⟨wellFormed, shallow⟩, rfl⟩ passed tail
  · next deep => exact read_of_deeper wellFormed (Nat.lt_of_not_le deep) passed tail

/-- A tree whose values nest at most 256 deep is read from its encoding and nothing else is consumed; a
deeper one is refused. Whatever is read was the encoding of the tree that is found, and of no other. -/
theorem reads_exactly_encodings :
    (∀ tree : AnnotationTree, tree.WellFormed → ∀ passed tail,
      read ⟨passed, tree.encode ++ tail⟩ =
        if tree.depth ≤ 256 then .ok (tree, ⟨tree.encode.reverseAux passed, tail⟩)
        else .error .valuesTooDeep) ∧
    ∀ (cursor next : Cursor) (found : AnnotationTree), read cursor = .ok (found, next) →
      (found.WellFormed ∧ found.depth ≤ 256) ∧
        (cursor.Passes next found.encode ∧ next.since cursor.offset = found.encode) ∧
        ∀ tree : AnnotationTree, tree.WellFormed → ∀ tail, cursor.rest = tree.encode ++ tail →
          tree = found := by
  refine ⟨fun tree wellFormed passed tail => read_of_encode wellFormed passed tail, ?_⟩
  intro cursor next found treeRead
  obtain ⟨_, ⟨fits, rfl⟩, passes⟩ := (accepts_read ..).mp treeRead
  refine ⟨found.fits_iff.mp fits, ⟨passes, passes.since_eq⟩, ?_⟩
  intro tree wellFormed tail ahead
  have again := read_of_encode wellFormed cursor.passed tail
  rw [← ahead, show read ⟨cursor.passed, cursor.rest⟩ = .ok (found, next) from treeRead] at again
  split at again
  · cases again
    rfl
  · cases again

/-- A text and an array with an annotation and a number in it. -/
def mixedTree : AnnotationTree :=
  ⟨10, [(90, .constant 0x73 91),
    (92, .array [.nested 93 [(94, .enumConstant 95 96)], .constant 0x49 97])]⟩

theorem mixedTree_wellFormed : mixedTree.WellFormed := by
  refine ⟨by decide, List.forall_mem_cons.mpr
    ⟨.constant (by decide), List.forall_mem_singleton.mpr (.array (by decide) ?_)⟩⟩
  exact List.forall_mem_cons.mpr ⟨.nested (by decide) (List.forall_mem_singleton.mpr .enumConstant),
    List.forall_mem_singleton.mpr (.constant (by decide))⟩

/-- A number in so many arrays of one item. -/
def arraysAround : (arrays : Nat) → ElementValue
  | 0 => .constant 0x49 1
  | arrays + 1 => .array [arraysAround arrays]

theorem arraysAround_wellFormed (arrays : Nat) : (arraysAround arrays).WellFormed := by
  induction arrays with
  | zero => exact .constant (by decide)
  | succ arrays ih => exact .array (by simp) (List.forall_mem_singleton.mpr ih)

theorem depth_arraysAround (arrays : Nat) : (arraysAround arrays).depth = arrays + 1 := by
  induction arrays with
  | zero => rfl
  | succ arrays ih =>
    rw [arraysAround, ElementValue.depth, ElementValue.depthOfItems, ElementValue.depthOfItems, ih]
    rfl

/-- The mixed tree stands in its bytes and is read; 255 arrays around a number are read, 256 are not. -/
theorem reads_exactly_encodings_mixedTree :
    mixedTree.encode = [0, 10, 0, 2, 0, 90, 0x73, 0, 91, 0, 92, 0x5B, 0, 2, 0x40, 0, 93, 0, 1, 0, 94,
      0x65, 0, 95, 0, 96, 0x49, 0, 97] ∧
    read ⟨[5], mixedTree.encode ++ [7]⟩
      = .ok (mixedTree, ⟨mixedTree.encode.reverseAux [5], [7]⟩) ∧
    Cursor.since 1 ⟨mixedTree.encode.reverseAux [5], [7]⟩ = mixedTree.encode ∧
    ∀ passed tail, ∃ next,
      read ⟨passed, encode ⟨1, [(2, arraysAround 255)]⟩ ++ tail⟩
        = .ok (⟨1, [(2, arraysAround 255)]⟩, next) ∧
      read ⟨passed, encode ⟨1, [(2, arraysAround 256)]⟩ ++ tail⟩ = .error .valuesTooDeep := by
  obtain ⟨reads, found⟩ := reads_exactly_encodings
  have mixedRead := reads mixedTree mixedTree_wellFormed [5] [7]
  rw [if_pos (by decide)] at mixedRead
  refine ⟨by decide, mixedRead, (found _ _ _ mixedRead).2.1.2, ?_⟩
  intro passed tail
  have arraysRead (arrays : Nat) := reads ⟨1, [(2, arraysAround arrays)]⟩
    ⟨by simp, List.forall_mem_singleton.mpr (arraysAround_wellFormed arrays)⟩
    passed tail
  simp only [depth, ElementValue.depthOfPairs, depth_arraysAround] at arraysRead
  exact ⟨_, arraysRead 255, arraysRead 256⟩

end AnnotationTree

end Unannotate
