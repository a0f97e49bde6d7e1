import Unannotate.AnnotationTree.Basic
import Unannotate.Proofs.ClassFile.Reading

/-!
# Annotations are read as they are written

An annotation body is exactly the encoding of the trees that are read from it: the readers accept the
encodings of trees whose counts fit 16 bits, whose constant tags are known and whose values nest at
most `ElementValue.maxDepth` deep, and nothing else. A kept tree is therefore written with the very
bytes it was read from.
-/
set_option autoImplicit false

namespace Unannotate

open Reader

/-! ## Element values -/

namespace ElementValue

/-- The counts fit, the tags are known, and the value nests at most `levels` deep. -/
def FitsWithin : (levels : Nat) → ElementValue → Prop
  | 0, _ => False
  | _ + 1, constant tag _ => tag ∈ constantTags
  | _ + 1, enumConstant _ _ => True
  | levels + 1, nested _ pairs => CountedFits (fun pair => FitsWithin levels pair.2) pairs
  | levels + 1, array items => CountedFits (FitsWithin levels) items

def pairLayout (pair : UInt16 × ElementValue) : Bytes := Bytes.ofUInt16 pair.1 ++ encode pair.2

theorem encodePairs_eq (pairs : List (UInt16 × ElementValue)) :
    encodePairs pairs = pairs.flatMap pairLayout := by
  induction pairs with
  | nil => rfl
  | cons pair rest ih =>
    obtain ⟨name, value⟩ := pair
    rw [encodePairs, ih, List.flatMap_cons, pairLayout]

theorem encodeItems_eq (items : List ElementValue) : encodeItems items = items.flatMap encode := by
  induction items with
  | nil => rfl
  | cons value rest ih => rw [encodeItems, ih, List.flatMap_cons]

theorem encode_nested (typeIndex : UInt16) (pairs : List (UInt16 × ElementValue)) :
    encode (nested typeIndex pairs)
      = annotationTag :: (Bytes.ofUInt16 typeIndex ++ countedLayout pairLayout pairs) := by
  rw [encode, encodePairs_eq, countedLayout, List.append_assoc]

theorem encode_array (items : List ElementValue) :
    encode (array items) = arrayTag :: countedLayout encode items := by
  rw [encode, encodeItems_eq, countedLayout]

theorem exists_encode_eq_cons (value : ElementValue) : ∃ tag body, encode value = tag :: body := by
  cases value <;> exact ⟨_, _, by rw [encode]⟩

theorem accepts_readPair {readValue : Reader ElementValue} {fits : ElementValue → Prop}
    (accepts : readValue.Accepts (Written fits encode)) :
    Accepts (readPair readValue) (Written (fun pair => fits pair.2) pairLayout) := by
  refine (accepts_bind accepts_u16 fun name => accepts_bind accepts fun value =>
    accepts_pure (name, value)).congr ?_
  rintro ⟨name, value⟩ front
  constructor
  · rintro ⟨_, _, _, rfl, ⟨_, _, _, ⟨valueFits, rfl⟩, ⟨⟨⟩, rfl⟩, rfl⟩, rfl⟩
    exact ⟨valueFits, by simp [pairLayout]⟩
  · rintro ⟨valueFits, rfl⟩
    exact ⟨name, _, _, rfl, ⟨value, _, [], ⟨valueFits, rfl⟩, ⟨rfl, rfl⟩, rfl⟩, by simp [pairLayout]⟩

theorem accepts_nested (levels : Nat) (accepts : (read levels).Accepts (Written (FitsWithin levels) encode)) :
    Accepts
      (do
        let typeIndex ← u16
        let pairs ← counted (readPair (read levels))
        return nested typeIndex pairs)
      fun value front => ∃ typeIndex pairs, value = nested typeIndex pairs ∧
        CountedFits (fun pair => FitsWithin levels pair.2) pairs ∧
        front = Bytes.ofUInt16 typeIndex ++ countedLayout pairLayout pairs := by
  refine (accepts_bind accepts_u16 fun typeIndex =>
    accepts_bind (accepts_counted (accepts_readPair accepts)) fun pairs => accepts_pure _).congr ?_
  intro value front
  constructor
  · rintro ⟨typeIndex, _, _, rfl, ⟨pairs, _, _, ⟨fits, rfl⟩, ⟨rfl, rfl⟩, rfl⟩, rfl⟩
    exact ⟨typeIndex, pairs, rfl, fits, by simp⟩
  · rintro ⟨typeIndex, pairs, rfl, fits, rfl⟩
    exact ⟨typeIndex, _, _, rfl, ⟨pairs, _, [], ⟨fits, rfl⟩, ⟨rfl, rfl⟩, rfl⟩, by simp⟩

/-- By induction on the levels: each step reads a tag and, where values nest, values of one level
less. -/
theorem accepts_read (levels : Nat) : Accepts (read levels) (Written (FitsWithin levels) encode) := by
  induction levels with
  | zero =>
    refine (accepts_fail _).congr ?_
    intro value front
    simp [Written, FitsWithin]
  | succ levels ih =>
    have constants (tag : UInt8) := accepts_map (constant tag) accepts_u16
    have enums := accepts_pair enumConstant
    have annotations := accepts_nested levels ih
    have arrays := accepts_map array (accepts_counted ih)
    rw [read]
    refine (accepts_bind accepts_u8 (?_ : ∀ tag, Accepts _ fun value front =>
      FitsWithin (levels + 1) value ∧ encode value = tag :: front)).congr ?_
    · intro tag cursor value next
      constructor
      · intro valueRead
        by_cases isConstant : tag ∈ constantTags
        · rw [if_pos isConstant] at valueRead
          obtain ⟨_, ⟨index, rfl, rfl⟩, passes⟩ := (constants tag ..).mp valueRead
          exact ⟨_, ⟨isConstant, by rw [encode]⟩, passes⟩
        rw [if_neg isConstant] at valueRead
        by_cases isEnum : tag = enumTag
        · subst isEnum
          rw [if_pos rfl] at valueRead
          obtain ⟨_, ⟨typeName, constantName, rfl, rfl⟩, passes⟩ := (enums ..).mp valueRead
          exact ⟨_, ⟨trivial, by rw [encode]⟩, passes⟩
        rw [if_neg isEnum] at valueRead
        by_cases isAnnotation : tag = annotationTag
        · subst isAnnotation
          rw [if_pos rfl] at valueRead
          obtain ⟨_, ⟨typeIndex, pairs, rfl, fits, rfl⟩, passes⟩ := (annotations ..).mp valueRead
          exact ⟨_, ⟨fits, encode_nested typeIndex pairs⟩, passes⟩
        rw [if_neg isAnnotation] at valueRead
        by_cases isArray : tag = arrayTag
        · subst isArray
          rw [if_pos rfl] at valueRead
          obtain ⟨_, ⟨items, ⟨fits, rfl⟩, rfl⟩, passes⟩ := (arrays ..).mp valueRead
          exact ⟨_, ⟨fits, encode_array items⟩, passes⟩
        rw [if_neg isArray] at valueRead
        cases valueRead
      · rintro ⟨front, ⟨fits, same⟩, passes⟩
        cases value with
        | constant known index =>
          rw [encode] at same
          cases same
          have isConstant : tag ∈ constantTags := fits
          rw [if_pos isConstant]
          exact (constants tag ..).mpr ⟨_, ⟨index, rfl, rfl⟩, passes⟩
        | enumConstant typeName constantName =>
          rw [encode] at same
          cases same
          exact (enums ..).mpr ⟨_, ⟨typeName, constantName, rfl, rfl⟩, passes⟩
        | nested typeIndex pairs =>
          rw [encode_nested] at same
          cases same
          exact (annotations ..).mpr ⟨_, ⟨typeIndex, pairs, rfl, fits, rfl⟩, passes⟩
        | array items =>
          rw [encode_array] at same
          cases same
          exact (arrays ..).mpr ⟨_, ⟨items, ⟨fits, rfl⟩, rfl⟩, passes⟩
    · intro value front
      constructor
      · rintro ⟨tag, _, lower, rfl, ⟨fits, same⟩, rfl⟩
        exact ⟨fits, same.symm⟩
      · rintro ⟨fits, rfl⟩
        obtain ⟨tag, body, same⟩ := exists_encode_eq_cons value
        exact ⟨tag, _, body, rfl, ⟨fits, same⟩, same⟩

end ElementValue

/-! ## Annotations and lists of them -/

namespace AnnotationTree

def Fits (tree : AnnotationTree) : Prop :=
  CountedFits (fun pair => ElementValue.FitsWithin ElementValue.maxDepth pair.2) tree.pairs

theorem encode_eq (tree : AnnotationTree) :
    tree.encode
      = Bytes.ofUInt16 tree.typeIndex ++ countedLayout ElementValue.pairLayout tree.pairs := by
  rw [encode, ElementValue.encodePairs_eq, countedLayout, List.append_assoc]

theorem accepts_read : Accepts read (Written Fits encode) := by
  refine (accepts_bind accepts_u16 fun typeIndex => accepts_bind
    (accepts_counted (ElementValue.accepts_readPair (ElementValue.accepts_read ElementValue.maxDepth)))
      fun pairs => accepts_pure _).congr ?_
  intro tree front
  constructor
  · rintro ⟨typeIndex, _, _, rfl, ⟨pairs, _, _, ⟨fits, rfl⟩, ⟨rfl, rfl⟩, rfl⟩, rfl⟩
    exact ⟨fits, by simp [encode_eq]⟩
  · rintro ⟨fits, rfl⟩
    exact ⟨tree.typeIndex, _, _, rfl, ⟨tree.pairs, _, [], ⟨fits, rfl⟩, ⟨rfl, rfl⟩, rfl⟩,
      by simp [encode_eq]⟩

abbrev ListFits : List AnnotationTree → Prop := CountedFits Fits

theorem accepts_readList : Accepts readList (Written ListFits encodeList) :=
  accepts_counted accepts_read

/-- An annotations body is the encoding of its trees, and nothing else is one. -/
theorem parseList_eq_ok_iff (info : Bytes) (trees : List AnnotationTree) :
    parseList info = .ok trees ↔ ListFits trees ∧ info = encodeList trees :=
  all_eq_ok_iff accepts_readList "annotations attribute" info trees

def ParametersFit (parameters : List (List AnnotationTree)) : Prop :=
  parameters.length < 256 ∧ ∀ trees ∈ parameters, ListFits trees

theorem accepts_readParameters : Accepts readParameters (Written ParametersFit encodeParameters) := by
  refine (accepts_bind accepts_u8 fun count => accepts_times accepts_readList count.toNat).congr ?_
  intro parameters front
  constructor
  · rintro ⟨count, _, _, rfl, ⟨⟨width, fits⟩, rfl⟩, rfl⟩
    refine ⟨⟨?_, fits⟩, ?_⟩
    · rw [width]
      exact count.toNat_lt
    · rw [encodeParameters, width, Bytes.ofUInt8_eq]
  · rintro ⟨⟨bound, fits⟩, rfl⟩
    have width : (UInt8.ofNat parameters.length).toNat = parameters.length :=
      UInt8.toNat_ofNat_of_lt bound
    refine ⟨UInt8.ofNat parameters.length, _, _, rfl, ⟨⟨width.symm, fits⟩, rfl⟩, ?_⟩
    rw [Bytes.ofUInt8_ofNat, encodeParameters]

/-- A parameter annotations body is the encoding of its lists, and nothing else is one. -/
theorem parseParameters_eq_ok_iff (info : Bytes) (parameters : List (List AnnotationTree)) :
    parseParameters info = .ok parameters ↔
      ParametersFit parameters ∧ info = encodeParameters parameters :=
  all_eq_ok_iff accepts_readParameters "parameter annotations attribute" info parameters

end AnnotationTree

end Unannotate
