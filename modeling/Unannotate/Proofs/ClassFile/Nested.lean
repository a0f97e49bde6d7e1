import Unannotate.Proofs.ClassFile.Sections

/-!
# Bodies with attributes in them lose nothing

A body of code and a list of record components are read from exactly one layout, so what was read is
written back byte for byte. Nested attributes, components and attributes of components can be left out:
what is written then reads as the others, in their order, and the bytes of the code in front of the nested
attributes are those that were there.
-/
set_option autoImplicit false

namespace Unannotate

open Reader

namespace Code

/-- How many bytes stand in front of the nested attributes: the limits, the instructions behind their
length, and the handlers behind their number. -/
def frontSize (info : Bytes) : Nat :=
  let instructions := Bytes.ofBigEndian ((info.drop 4).take 4)
  let handlers := Bytes.ofBigEndian ((info.drop (8 + instructions)).take 2)
  10 + instructions + handlers * 8

theorem frontSize_layout {code : Code} (fits : code.Fits) :
    frontSize code.layout = code.encodeFront.length := by
  obtain ⟨limits, instructions, ⟨entries, entriesFit, handlers⟩, -⟩ := fits
  have count : code.handlers.length / 8 = entries := by omega
  -- The two fields that are looked up, each with what stands before it and behind it.
  have lengthAt : code.layout = code.limits ++ (Bytes.bigEndian 4 code.instructions.length
      ++ (code.instructions ++ Bytes.bigEndian 2 entries ++ code.handlers
        ++ Attribute.listLayout code.attributes)) := by
    simp only [layout, encodeFront, count, List.append_assoc]
  have countAt : code.layout = (code.limits ++ Bytes.bigEndian 4 code.instructions.length
      ++ code.instructions) ++ (Bytes.bigEndian 2 entries
        ++ (code.handlers ++ Attribute.listLayout code.attributes)) := by
    simp only [layout, encodeFront, count, List.append_assoc]
  have behindInstructions : (code.limits ++ Bytes.bigEndian 4 code.instructions.length
      ++ code.instructions).length = 8 + code.instructions.length := by
    simp only [List.length_append, limits, Bytes.length_bigEndian]
  have lengthRead : Bytes.ofBigEndian ((code.layout.drop 4).take 4) = code.instructions.length := by
    rw [lengthAt, List.drop_left' limits, List.take_left' (Bytes.length_bigEndian 4 _)]
    exact Bytes.ofBigEndian_bigEndian_of_lt instructions
  have countRead : Bytes.ofBigEndian ((code.layout.drop (8 + code.instructions.length)).take 2)
      = entries := by
    rw [countAt, List.drop_left' behindInstructions, List.take_left' (Bytes.length_bigEndian 2 _)]
    exact Bytes.ofBigEndian_bigEndian_of_lt entriesFit
  simp only [frontSize, lengthRead, countRead, encodeFront, List.length_append,
    Bytes.length_bigEndian, limits, handlers]
  omega

theorem take_frontSize {code : Code} (fits : code.Fits) :
    code.layout.take (frontSize code.layout) = code.encodeFront := by
  rw [frontSize_layout fits]
  exact List.take_left

theorem encode_kept {info : Bytes} {code : Code} (parsed : parse info = .ok code)
    {kept : List Attribute} (part : kept.Sublist code.attributes) :
    ∃ list, Attribute.encodeList kept = .ok list ∧
      ({ code with attributes := kept } : Code).encode = .ok (info.take (frontSize info) ++ list) ∧
      parse (info.take (frontSize info) ++ list) = .ok { code with attributes := kept } := by
  obtain ⟨fits, rfl⟩ := (parse_eq_ok_iff info code).mp parsed
  have keptFits := fits.ofSublist part
  refine ⟨Attribute.listLayout kept, (Attribute.writes_encodeList ..).mpr ⟨keptFits.2.2.2, rfl⟩, ?_⟩
  rw [take_frontSize fits]
  exact ⟨(encode_eq_ok_iff ..).mpr ⟨keptFits.2.2.2, rfl⟩, (parse_eq_ok_iff ..).mpr ⟨keptFits, rfl⟩⟩

end Code

namespace RecordComponent

/-- A component as it was, with some of its attributes in their order. -/
structure Keeps (kept component : RecordComponent) : Prop where
  nameIndex : kept.nameIndex = component.nameIndex
  descriptorIndex : kept.descriptorIndex = component.descriptorIndex
  attributes : kept.attributes.Sublist component.attributes

theorem Keeps.fits {kept component : RecordComponent} (keeps : kept.Keeps component)
    (fits : component.Fits) : kept.Fits :=
  CountedFits.ofSublist fits keeps.attributes

theorem encodeList_kept {info : Bytes} {components : List RecordComponent}
    (parsed : parseList info = .ok components) {kept : List RecordComponent}
    (part : List.SublistForall₂ Keeps kept components) :
    ∃ written, encodeList kept = .ok written ∧ parseList written = .ok kept := by
  obtain ⟨fits, -⟩ := (parseList_eq_ok_iff info components).mp parsed
  have keptFits : ListFits kept := CountedFits.ofSublistForall₂ (fun _ _ keeps => keeps.fits) part fits
  exact ⟨listLayout kept, (writes_encodeList ..).mpr ⟨keptFits, rfl⟩,
    (parseList_eq_ok_iff ..).mpr ⟨keptFits, rfl⟩⟩

end RecordComponent

/-- Bodies of code and lists of record components that are accepted are written back as they were. When
any part of what is nested in them is left out, they are written without it and read as what remains, and
the code keeps every byte in front of its attributes. -/
theorem nested_codecs_lossless :
    (∀ info code, Code.parse info = .ok code →
      code.encode = .ok info ∧
      ∀ kept : List Attribute, kept.Sublist code.attributes →
        ∃ list, Attribute.encodeList kept = .ok list ∧
          ({ code with attributes := kept } : Code).encode
            = .ok (info.take (Code.frontSize info) ++ list) ∧
          Code.parse (info.take (Code.frontSize info) ++ list)
            = .ok { code with attributes := kept }) ∧
    (∀ info components, RecordComponent.parseList info = .ok components →
      RecordComponent.encodeList components = .ok info ∧
      ∀ kept, List.SublistForall₂ RecordComponent.Keeps kept components →
        ∃ written, RecordComponent.encodeList kept = .ok written ∧
          RecordComponent.parseList written = .ok kept) := by
  constructor
  · intro info code parsed
    obtain ⟨fits, isLayout⟩ := (Code.parse_eq_ok_iff info code).mp parsed
    exact ⟨(Code.encode_eq_ok_iff code info).mpr ⟨fits.2.2.2, isLayout⟩,
      fun _ => Code.encode_kept parsed⟩
  · intro info components parsed
    exact ⟨(RecordComponent.writes_encodeList components info).mpr
        ((RecordComponent.parseList_eq_ok_iff info components).mp parsed),
      fun _ => RecordComponent.encodeList_kept parsed⟩

/-- One instruction under one handler, with two nested attributes. -/
def guardedBody : Bytes :=
  [0, 2, 0, 1, 0, 0, 0, 1, 0xB1, 0, 1, 0, 0, 0, 1, 0, 0, 0, 0,
    0, 2, 0, 5, 0, 0, 0, 2, 7, 7, 0, 6, 0, 0, 0, 0]

/-- Two components, the first with two attributes. -/
def pairOfComponents : Bytes :=
  [0, 2, 0, 3, 0, 4, 0, 2, 0, 5, 0, 0, 0, 2, 7, 7, 0, 6, 0, 0, 0, 0, 0, 8, 0, 9, 0, 0]

/-- The code without its first attribute, and the record without its second component and the first
attribute of the first one. -/
theorem nested_codecs_lossless_samples :
    (∃ code, Code.parse guardedBody = .ok code ∧ code.encode = .ok guardedBody ∧
      ({ code with attributes := [⟨6, []⟩] } : Code).encode
        = .ok (guardedBody.take 19 ++ [0, 1, 0, 6, 0, 0, 0, 0])) ∧
    (∃ components, RecordComponent.parseList pairOfComponents = .ok components ∧
      RecordComponent.encodeList components = .ok pairOfComponents ∧
      ∃ written, RecordComponent.encodeList [⟨3, 4, [⟨6, []⟩]⟩] = .ok written ∧
        RecordComponent.parseList written = .ok [⟨3, 4, [⟨6, []⟩]⟩]) := by
  obtain ⟨ofCode, ofRecord⟩ := nested_codecs_lossless
  constructor
  · have parsed : Code.parse guardedBody = .ok ⟨[0, 2, 0, 1], [0xB1], [0, 0, 0, 1, 0, 0, 0, 0],
        [⟨5, [7, 7]⟩, ⟨6, []⟩]⟩ := by decide +kernel
    obtain ⟨back, anyPart⟩ := ofCode _ _ parsed
    obtain ⟨list, listed, written, -⟩ := anyPart [⟨6, []⟩] ((List.Sublist.refl _).cons _)
    have spelled : list = [0, 1, 0, 6, 0, 0, 0, 0] :=
      Except.ok.inj (listed.symm.trans (by decide))
    rw [spelled] at written
    exact ⟨_, parsed, back, written⟩
  · have parsed : RecordComponent.parseList pairOfComponents
        = .ok [⟨3, 4, [⟨5, [7, 7]⟩, ⟨6, []⟩]⟩, ⟨8, 9, []⟩] := by decide +kernel
    obtain ⟨back, anyPart⟩ := ofRecord _ _ parsed
    exact ⟨_, parsed, back, anyPart _ (.cons ⟨rfl, rfl, (List.Sublist.refl _).cons _⟩ .nil)⟩

end Unannotate
