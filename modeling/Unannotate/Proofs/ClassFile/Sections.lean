import Unannotate.ClassFile.Code
import Unannotate.ClassFile.Record
import Unannotate.Proofs.ClassFile.Reading

/-!
# Attributes and what is made of them

Every section that carries attributes is read exactly from what the encoder writes: attribute lists,
members, code bodies and record components. Each has a layout, and fits when its counts and lengths fit
their fields.
-/
set_option autoImplicit false

namespace Unannotate

open Reader

/-! ## Attributes -/

namespace Attribute

/-- The length of the body fits its 32-bit field. -/
def Fits (item : Attribute) : Prop := item.info.length < 4294967296

def layout (item : Attribute) : Bytes :=
  Bytes.ofUInt16 item.nameIndex ++ Bytes.bigEndian 4 item.info.length ++ item.info

abbrev ListFits : List Attribute → Prop := CountedFits Fits

abbrev listLayout : List Attribute → Bytes := countedLayout layout

theorem accepts_read : Accepts read (Written Fits layout) := by
  refine (accepts_bind accepts_u16 fun nameIndex => accepts_bind accepts_u32 fun length =>
    accepts_bind (accepts_bytes length.toNat) fun info => accepts_pure _).congr ?_
  intro item front
  constructor
  · rintro ⟨nameIndex, _, _, rfl, ⟨length, _, _, rfl, ⟨_, info, _, ⟨width, rfl⟩, ⟨rfl, rfl⟩, rfl⟩, rfl⟩,
      rfl⟩
    have width : info.length = length.toNat := width
    refine ⟨?_, ?_⟩
    · show info.length < 4294967296
      rw [width]
      exact length.toNat_lt
    · simp [layout, Bytes.ofUInt32, width]
  · rintro ⟨fits, rfl⟩
    have width : (UInt32.ofNat item.info.length).toNat = item.info.length :=
      UInt32.toNat_ofNat_of_lt fits
    refine ⟨item.nameIndex, _, _, rfl, ⟨UInt32.ofNat item.info.length, _, _, rfl,
      ⟨item.info, item.info, [], ⟨width.symm, rfl⟩, ⟨rfl, rfl⟩, rfl⟩, rfl⟩, ?_⟩
    simp [layout, Bytes.ofUInt32, width]

theorem accepts_readList : Accepts readList (Written ListFits listLayout) :=
  accepts_counted accepts_read

theorem writes_encode : Writes encode Fits layout := by
  intro item front
  unfold encode
  split
  · next fits => simp [Written, Fits, fits, layout, eq_comm]
  · next long => simp [Written, Fits, long]

theorem writes_encodeList : Writes encodeList ListFits listLayout :=
  writes_counted writes_encode "attributes"

/-- What ends with an attribute list fits when the list does. -/
theorem writes_followedBy {α : Type} (front : α → Bytes) (attributes : α → List Attribute) :
    Writes
      (fun value => do
        let encoded ← encodeList (attributes value)
        return front value ++ encoded)
      (fun value => ListFits (attributes value))
      fun value => front value ++ listLayout (attributes value) := by
  intro value written
  rw [outcome_bind_ok_iff]
  constructor
  · rintro ⟨encoded, listWritten, returned⟩
    obtain ⟨fits, rfl⟩ := (writes_encodeList ..).mp listWritten
    cases returned
    exact ⟨fits, rfl⟩
  · rintro ⟨fits, rfl⟩
    exact ⟨_, (writes_encodeList ..).mpr ⟨fits, rfl⟩, rfl⟩

end Attribute

/-! ## Fields and methods -/

namespace Member

def Fits (member : Member) : Prop := Attribute.ListFits member.attributes

def layout (member : Member) : Bytes :=
  Bytes.ofUInt16 member.accessFlags ++ Bytes.ofUInt16 member.nameIndex
    ++ Bytes.ofUInt16 member.descriptorIndex ++ Attribute.listLayout member.attributes

theorem accepts_read : Accepts read (Written Fits layout) := by
  refine (accepts_bind accepts_u16 fun accessFlags => accepts_bind accepts_u16 fun nameIndex =>
    accepts_bind accepts_u16 fun descriptorIndex => accepts_bind Attribute.accepts_readList
      fun attributes => accepts_pure _).congr ?_
  intro member front
  constructor
  · rintro ⟨accessFlags, _, _, rfl, ⟨nameIndex, _, _, rfl, ⟨descriptorIndex, _, _, rfl,
      ⟨attributes, _, _, ⟨fits, rfl⟩, ⟨rfl, rfl⟩, rfl⟩, rfl⟩, rfl⟩, rfl⟩
    exact ⟨fits, by simp [layout]⟩
  · rintro ⟨fits, rfl⟩
    exact ⟨member.accessFlags, _, _, rfl, ⟨member.nameIndex, _, _, rfl, ⟨member.descriptorIndex, _, _,
      rfl, ⟨member.attributes, _, [], ⟨fits, rfl⟩, ⟨rfl, rfl⟩, rfl⟩, rfl⟩, rfl⟩, by simp [layout]⟩

theorem writes_encode : Writes encode Fits layout :=
  Attribute.writes_followedBy _ attributes

theorem writes_encodeList (part : String) :
    Writes (encodeList part) (CountedFits Fits) (countedLayout layout) :=
  writes_counted writes_encode part

end Member

/-! ## Record components -/

namespace RecordComponent

def Fits (component : RecordComponent) : Prop := Attribute.ListFits component.attributes

def layout (component : RecordComponent) : Bytes :=
  Bytes.ofUInt16 component.nameIndex ++ Bytes.ofUInt16 component.descriptorIndex
    ++ Attribute.listLayout component.attributes

abbrev ListFits : List RecordComponent → Prop := CountedFits Fits

abbrev listLayout : List RecordComponent → Bytes := countedLayout layout

theorem accepts_read : Accepts read (Written Fits layout) := by
  refine (accepts_bind accepts_u16 fun nameIndex => accepts_bind accepts_u16 fun descriptorIndex =>
    accepts_bind Attribute.accepts_readList fun attributes => accepts_pure _).congr ?_
  intro component front
  constructor
  · rintro ⟨nameIndex, _, _, rfl, ⟨descriptorIndex, _, _, rfl,
      ⟨attributes, _, _, ⟨fits, rfl⟩, ⟨rfl, rfl⟩, rfl⟩, rfl⟩, rfl⟩
    exact ⟨fits, by simp [layout]⟩
  · rintro ⟨fits, rfl⟩
    exact ⟨component.nameIndex, _, _, rfl, ⟨component.descriptorIndex, _, _, rfl,
      ⟨component.attributes, _, [], ⟨fits, rfl⟩, ⟨rfl, rfl⟩, rfl⟩, rfl⟩, by simp [layout]⟩

theorem writes_encode : Writes encode Fits layout :=
  Attribute.writes_followedBy _ attributes

theorem parseList_eq_ok_iff (info : Bytes) (components : List RecordComponent) :
    parseList info = .ok components ↔ ListFits components ∧ info = listLayout components :=
  all_eq_ok_iff (accepts_counted accepts_read) "Record attribute" info components

theorem writes_encodeList : Writes encodeList ListFits listLayout :=
  writes_counted writes_encode "record components"

end RecordComponent

/-! ## Code bodies -/

namespace Code

/-- The parts have the sizes that the fields in front of them can say. -/
def Fits (code : Code) : Prop :=
  code.limits.length = 4 ∧ code.instructions.length < 4294967296 ∧
    (∃ entries < 65536, code.handlers.length = entries * 8) ∧ Attribute.ListFits code.attributes

def layout (code : Code) : Bytes := code.encodeFront ++ Attribute.listLayout code.attributes

theorem Fits.ofSublist {code : Code} (fits : code.Fits) {kept : List Attribute}
    (part : kept.Sublist code.attributes) : ({ code with attributes := kept } : Code).Fits :=
  ⟨fits.1, fits.2.1, fits.2.2.1, CountedFits.ofSublist fits.2.2.2 part⟩

theorem accepts_read : Accepts read (Written Fits layout) := by
  refine (accepts_bind (accepts_bytes 4) fun limits => accepts_bind accepts_u32 fun length =>
    accepts_bind (accepts_bytes length.toNat) fun instructions => accepts_bind accepts_u16
      fun entries => accepts_bind (accepts_bytes (entries.toNat * 8)) fun handlers =>
        accepts_bind Attribute.accepts_readList fun attributes => accepts_pure _).congr ?_
  intro code front
  constructor
  · rintro ⟨_, limits, _, ⟨limitsWidth, rfl⟩, ⟨length, _, _, rfl, ⟨_, instructions, _, ⟨width, rfl⟩,
      ⟨entries, _, _, rfl, ⟨_, handlers, _, ⟨handlersWidth, rfl⟩,
        ⟨attributes, _, _, ⟨fits, rfl⟩, ⟨rfl, rfl⟩, rfl⟩, rfl⟩, rfl⟩, rfl⟩, rfl⟩, rfl⟩
    have width : instructions.length = length.toNat := width
    have handlersWidth : handlers.length = entries.toNat * 8 := handlersWidth
    refine ⟨⟨limitsWidth, ?_, ⟨entries.toNat, entries.toNat_lt, handlersWidth⟩, fits⟩, ?_⟩
    · show instructions.length < 4294967296
      rw [width]
      exact length.toNat_lt
    · simp [layout, encodeFront, Bytes.ofUInt32, Bytes.ofUInt16, width, handlersWidth]
  · rintro ⟨⟨limitsWidth, fitsLength, ⟨entries, fitsEntries, handlersWidth⟩, fits⟩, rfl⟩
    have width : (UInt32.ofNat code.instructions.length).toNat = code.instructions.length :=
      UInt32.toNat_ofNat_of_lt fitsLength
    have count : (UInt16.ofNat entries).toNat = entries := UInt16.toNat_ofNat_of_lt fitsEntries
    refine ⟨code.limits, _, _, ⟨limitsWidth, rfl⟩, ⟨UInt32.ofNat code.instructions.length, _, _, rfl,
      ⟨code.instructions, _, _, ⟨width.symm, rfl⟩, ⟨UInt16.ofNat entries, _, _, rfl,
        ⟨code.handlers, _, _, ⟨by rw [count]; exact handlersWidth, rfl⟩,
          ⟨code.attributes, _, [], ⟨fits, rfl⟩, ⟨rfl, rfl⟩, rfl⟩, rfl⟩, rfl⟩, rfl⟩, rfl⟩, ?_⟩
    simp [layout, encodeFront, Bytes.ofUInt32, Bytes.ofUInt16, width, count, handlersWidth]

theorem parse_eq_ok_iff (info : Bytes) (code : Code) :
    parse info = .ok code ↔ code.Fits ∧ info = code.layout :=
  all_eq_ok_iff accepts_read "Code attribute" info code

theorem encode_eq_ok_iff (code : Code) (front : Bytes) :
    code.encode = .ok front ↔ Attribute.ListFits code.attributes ∧ front = code.layout :=
  Attribute.writes_followedBy encodeFront attributes code front

end Code

end Unannotate
