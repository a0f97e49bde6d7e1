import Unannotate.Proofs.ClassFile.ConstantPool
import Unannotate.Proofs.ClassFile.Sections

/-!
# The class file codec loses nothing

`ClassFile.parse` accepts exactly the layouts of class files that fit and whose name can be read, and
`ClassFile.encode` writes the layout of every class file whose counts and lengths fit. So a parsed class
is written back byte for byte, and a class with edited lists is read back as it was edited.
-/
set_option autoImplicit false

namespace Unannotate.ClassFile

open Reader

/-- Every count and length fits the field that has to say it, and the pool can be read back. -/
structure Fits (file : ClassFile) : Prop where
  pool : file.pool.Fits
  interfaces : file.interfaces.length < 65536
  fields : CountedFits Member.Fits file.fields
  methods : CountedFits Member.Fits file.methods
  attributes : Attribute.ListFits file.attributes

def layout (file : ClassFile) : Bytes :=
  Bytes.ofUInt32 magic ++ Bytes.ofUInt16 file.minorVersion ++ Bytes.ofUInt16 file.majorVersion
    ++ file.pool.encode ++ Bytes.ofUInt16 file.accessFlags ++ Bytes.ofUInt16 file.thisClass
    ++ Bytes.ofUInt16 file.superClass ++ countedLayout Bytes.ofUInt16 file.interfaces
    ++ countedLayout Member.layout file.fields ++ countedLayout Member.layout file.methods
    ++ Attribute.listLayout file.attributes

/-! ## Reading -/

theorem accepts_readHeader :
    Accepts readHeader fun versions front =>
      front = Bytes.ofUInt32 magic ++ Bytes.ofUInt16 versions.1 ++ Bytes.ofUInt16 versions.2 := by
  refine (accepts_bind accepts_u32 (?_ : ∀ first, Accepts _ fun versions front =>
    first = magic ∧ front = Bytes.ofUInt16 versions.1 ++ Bytes.ofUInt16 versions.2)).congr ?_
  · intro first
    by_cases known : first = magic
    · rw [if_neg (not_not_intro known)]
      refine (accepts_bind accepts_u16 fun minorVersion => accepts_bind accepts_u16
        fun majorVersion => accepts_pure _).congr ?_
      rintro ⟨minorVersion, majorVersion⟩ front
      simp [known, and_comm]
    · rw [if_pos known]
      exact (accepts_fail _).congr (by simp [known])
  · intro versions front
    simp

theorem accepts_interfaces :
    Accepts (counted u16)
      (Written (fun list => list.length < 65536) (countedLayout Bytes.ofUInt16)) := by
  have accepts : u16.Accepts (Written (fun _ => True) Bytes.ofUInt16) :=
    accepts_u16.congr (by simp [Written])
  refine (accepts_counted accepts).congr ?_
  simp [Written, CountedFits]

theorem accepts_read : Accepts read (Written Fits layout) := by
  refine (accepts_bind accepts_readHeader fun versions => accepts_bind ConstantPool.accepts_read
    fun pool => accepts_bind accepts_u16 fun accessFlags => accepts_bind accepts_u16
    fun thisClass => accepts_bind accepts_u16 fun superClass => accepts_bind accepts_interfaces
    fun interfaces => accepts_bind (accepts_counted Member.accepts_read) fun fields =>
    accepts_bind (accepts_counted Member.accepts_read) fun methods =>
    accepts_bind Attribute.accepts_readList fun attributes => accepts_pure _).congr ?_
  intro file front
  constructor
  · rintro ⟨⟨minorVersion, majorVersion⟩, _, _, rfl, ⟨pool, _, _, ⟨poolFits, rfl⟩,
      ⟨accessFlags, _, _, rfl, ⟨thisClass, _, _, rfl, ⟨superClass, _, _, rfl,
        ⟨interfaces, _, _, ⟨interfacesFit, rfl⟩, ⟨fields, _, _, ⟨fieldsFit, rfl⟩,
          ⟨methods, _, _, ⟨methodsFit, rfl⟩, ⟨attributes, _, _, ⟨attributesFit, rfl⟩,
            ⟨rfl, rfl⟩, rfl⟩, rfl⟩, rfl⟩, rfl⟩, rfl⟩, rfl⟩, rfl⟩, rfl⟩, rfl⟩
    exact ⟨⟨poolFits, interfacesFit, fieldsFit, methodsFit, attributesFit⟩, by simp [layout]⟩
  · rintro ⟨⟨poolFits, interfacesFit, fieldsFit, methodsFit, attributesFit⟩, rfl⟩
    exact ⟨⟨file.minorVersion, file.majorVersion⟩, _, _, rfl, ⟨file.pool, _, _, ⟨poolFits, rfl⟩,
      ⟨file.accessFlags, _, _, rfl, ⟨file.thisClass, _, _, rfl, ⟨file.superClass, _, _, rfl,
        ⟨file.interfaces, _, _, ⟨interfacesFit, rfl⟩, ⟨file.fields, _, _, ⟨fieldsFit, rfl⟩,
          ⟨file.methods, _, _, ⟨methodsFit, rfl⟩, ⟨file.attributes, _, [], ⟨attributesFit, rfl⟩,
            ⟨rfl, rfl⟩, rfl⟩, rfl⟩, rfl⟩, rfl⟩, rfl⟩, rfl⟩, rfl⟩, rfl⟩, by simp [layout]⟩

theorem parse_eq_ok_iff (data : Bytes) (file : ClassFile) :
    parse data = .ok file ↔
      file.Fits ∧ (∃ className, file.name = .ok className) ∧ data = file.layout := by
  have whole := all_eq_ok_iff accepts_read "class attributes" data file
  rw [parse, outcome_bind_ok_iff]
  constructor
  · rintro ⟨found, read, rest⟩
    obtain ⟨className, named, returned⟩ := outcome_bind_ok_iff.mp rest
    cases returned
    obtain ⟨fits, rfl⟩ := whole.mp read
    exact ⟨fits, ⟨className, named⟩, rfl⟩
  · rintro ⟨fits, ⟨className, named⟩, rfl⟩
    exact ⟨file, whole.mpr ⟨fits, rfl⟩, outcome_bind_ok_iff.mpr ⟨className, named, rfl⟩⟩

/-! ## Writing -/

/-- The pool is written as it is; only the lists around it can be too long. -/
theorem encode_eq_ok_iff (file : ClassFile) (front : Bytes) :
    file.encode = .ok front ↔
      (file.interfaces.length < 65536 ∧ CountedFits Member.Fits file.fields ∧
        CountedFits Member.Fits file.methods ∧ Attribute.ListFits file.attributes) ∧
      front = file.layout := by
  simp only [encode, outcome_bind_ok_iff, encodeCount_eq_ok_iff, Member.writes_encodeList _ _ _,
    Attribute.writes_encodeList _ _]
  constructor
  · rintro ⟨_, ⟨interfacesFit, rfl⟩, _, ⟨fieldsFit, rfl⟩, _, ⟨methodsFit, rfl⟩, _,
      ⟨attributesFit, rfl⟩, returned⟩
    cases returned
    exact ⟨⟨interfacesFit, fieldsFit, methodsFit, attributesFit⟩, by simp [layout, countedLayout]⟩
  · rintro ⟨⟨interfacesFit, fieldsFit, methodsFit, attributesFit⟩, rfl⟩
    refine ⟨_, ⟨interfacesFit, rfl⟩, _, ⟨fieldsFit, rfl⟩, _, ⟨methodsFit, rfl⟩, _,
      ⟨attributesFit, rfl⟩, ?_⟩
    simp [layout, countedLayout, pure, Except.pure]

theorem encode_of_fits {file : ClassFile} (fits : file.Fits) : file.encode = .ok file.layout :=
  (encode_eq_ok_iff file file.layout).mpr
    ⟨⟨fits.interfaces, fits.fields, fits.methods, fits.attributes⟩, rfl⟩

/-! ## Edited lists -/

/-- All attribute lists of a class: its own and those of its fields and methods. -/
def attributeLists (file : ClassFile) : List (List Attribute) :=
  file.attributes :: (file.fields ++ file.methods).map Member.attributes

/-- No list is longer than its count can say, and no attribute body longer than its length can. -/
structure WithinBounds (file : ClassFile) : Prop where
  interfaces : file.interfaces.length ≤ 65535
  fields : file.fields.length ≤ 65535
  methods : file.methods.length ≤ 65535
  lists : ∀ list ∈ file.attributeLists, list.length ≤ 65535
  bodies : ∀ list ∈ file.attributeLists, ∀ item ∈ list, item.info.length < 4294967296

theorem WithinBounds.listFits {file : ClassFile} (bounds : file.WithinBounds) {list : List Attribute}
    (member : list ∈ file.attributeLists) : Attribute.ListFits list :=
  ⟨Nat.lt_succ_of_le (bounds.lists list member), bounds.bodies list member⟩

theorem WithinBounds.membersFit {file : ClassFile} (bounds : file.WithinBounds) {part : List Member}
    (short : part.length ≤ 65535) (included : ∀ member ∈ part, member ∈ file.fields ++ file.methods) :
    CountedFits Member.Fits part := by
  refine ⟨Nat.lt_succ_of_le short, ?_⟩
  intro member inPart
  apply bounds.listFits
  exact List.mem_cons_of_mem _ (List.mem_map_of_mem (included member inPart))

theorem WithinBounds.fits {file : ClassFile} (bounds : file.WithinBounds) (pool : file.pool.Fits) :
    file.Fits where
  pool := pool
  interfaces := Nat.lt_succ_of_le bounds.interfaces
  fields := bounds.membersFit bounds.fields fun _ inFields => List.mem_append_left _ inFields
  methods := bounds.membersFit bounds.methods fun _ inMethods => List.mem_append_right _ inMethods
  attributes := bounds.listFits List.mem_cons_self

/-- A class that was read is written back byte for byte. With any other interfaces, fields, methods and
attributes that are within bounds it is written as well, and read back as it is. -/
theorem codec_lossless (data : Bytes) (file : ClassFile) (parsed : parse data = .ok file) :
    file.encode = .ok data ∧
      ∀ (interfaces : List UInt16) (fields methods : List Member) (attributes : List Attribute),
        WithinBounds { file with interfaces, fields, methods, attributes } →
          ∃ out, encode { file with interfaces, fields, methods, attributes } = .ok out ∧
            parse out = .ok { file with interfaces, fields, methods, attributes } := by
  obtain ⟨fits, named, rfl⟩ := (parse_eq_ok_iff data file).mp parsed
  refine ⟨encode_of_fits fits, ?_⟩
  intro interfaces fields methods attributes bounds
  have editedFits := bounds.fits fits.pool
  exact ⟨_, encode_of_fits editedFits, (parse_eq_ok_iff _ _).mpr ⟨editedFits, named, rfl⟩⟩

/-- A class `A` with a two-slot constant and nothing in it. -/
def bareFile : ClassFile :=
  { minorVersion := 0, majorVersion := 52
    pool := .ofConstants 5 [.text [65], .classRef 1, .long 9]
    accessFlags := 33, thisClass := 2, superClass := 0
    interfaces := [], fields := [], methods := [], attributes := [] }

/-- The bare class stays what it is, and can be given an interface, a method and an attribute. -/
theorem codec_lossless_bareFile :
    parse bareFile.layout = .ok bareFile ∧ bareFile.encode = .ok bareFile.layout ∧
      ∃ out,
        encode { bareFile with
          interfaces := [2], fields := [], methods := [⟨1, 1, 1, [⟨1, []⟩]⟩],
          attributes := [⟨1, [7]⟩] } = .ok out ∧
        parse out = .ok { bareFile with
          interfaces := [2], fields := [], methods := [⟨1, 1, 1, [⟨1, []⟩]⟩],
          attributes := [⟨1, [7]⟩] } := by
  have parsed : parse bareFile.layout = .ok bareFile := by decide +kernel
  obtain ⟨written, edits⟩ := codec_lossless bareFile.layout bareFile parsed
  refine ⟨parsed, written, edits [2] [] [⟨1, 1, 1, [⟨1, []⟩]⟩] [⟨1, [7]⟩] ?_⟩
  constructor <;> decide

end Unannotate.ClassFile
