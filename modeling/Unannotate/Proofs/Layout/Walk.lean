import Unannotate.Proofs.ClassFile.Lossless
import Unannotate.Proofs.Layout.Following
import Unannotate.PurgedClass

/-!
# The layout check over the sections of a class file

A walk goes over a class file as a purge sees it: a body that a purge leaves as it is, is given to the
check as a whole, and one that a purge opens is gone into. Where the announced length of a body is not
what the check reads, the walk ends as a misfit. As long as it does not, the check of the bytes of the
class file ends as the walk does.
-/
set_option autoImplicit false

namespace Unannotate

open Reader LayoutCheck

/-! ## Walks -/

namespace ConstantPool

variable (pool : ConstantPool) (flags : StripFlags)

/-- A body that is left as it is. -/
def walkWhole (name : String) (info : Bytes) : LayoutWalk :=
  (LayoutCheck.body info.length (attributes pool info.length) info.length name).alone info

/-- A body that goes away as a whole, and with it what may stop the check in it. -/
def walkDropped (name : String) (info : Bytes) : LayoutWalk :=
  match pool.walkWhole name info with
  | .error (.faulty (.unmatchedAttribute inner)) => .error (.dropped inner)
  | walk => walk

def walkAttribute (ofBody : String → Bytes → LayoutWalk) (item : Attribute) : LayoutWalk :=
  match pool.text item.nameIndex with
  | .ok name => ofBody name item.info
  | .error _ => .error .misfit

def walkList (ofBody : String → Bytes → LayoutWalk) (attributes : List Attribute) : LayoutWalk :=
  attributes.forM (pool.walkAttribute ofBody)

/-- The attributes of a code body, some of which the flags name. -/
def walkNested : List Attribute → LayoutWalk :=
  pool.walkList fun name info =>
    if flags.dropsFromCode name then pool.walkDropped name info else pool.walkWhole name info

def walkCode (info : Bytes) : LayoutWalk :=
  match Code.parse info with
  | .ok code => pool.walkNested flags code.attributes
  | .error _ => .error .misfit

/-- A body of a list in which a `Record` is an attribute like any other. -/
def walkBody (name : String) (info : Bytes) : LayoutWalk :=
  match AttributeRole.ofName name with
  | .code =>
    if flags.skipCode then pool.walkDropped name info
    else if flags.skipDebug || flags.skipFrames then pool.walkCode flags info
    else pool.walkWhole name info
  | .debugInfo => if flags.skipDebug then pool.walkDropped name info else pool.walkWhole name info
  | _ => pool.walkWhole name info

theorem walkBody_of_code {name : String} (role : AttributeRole.ofName name = .code) (info : Bytes) :
    pool.walkBody flags name info =
      if flags.skipCode then pool.walkDropped name info
      else if flags.skipDebug || flags.skipFrames then pool.walkCode flags info
      else pool.walkWhole name info := by
  simp only [walkBody, role]

theorem walkBody_of_debugInfo {name : String} (role : AttributeRole.ofName name = .debugInfo)
    (info : Bytes) :
    pool.walkBody flags name info =
      if flags.skipDebug then pool.walkDropped name info else pool.walkWhole name info := by
  simp only [walkBody, role]

/-- No flag is about any other body. -/
theorem walkBody_eq_walkWhole {name : String} (notCode : AttributeRole.ofName name ≠ .code)
    (notDebugInfo : AttributeRole.ofName name ≠ .debugInfo) :
    pool.walkBody flags name = pool.walkWhole name := by
  funext info
  unfold walkBody
  split
  · next role => exact absurd role notCode
  · next role => exact absurd role notDebugInfo
  · rfl

def walkComponent (component : RecordComponent) : LayoutWalk :=
  pool.walkList (pool.walkBody flags) component.attributes

def walkRecord (info : Bytes) : LayoutWalk :=
  match RecordComponent.parseList info with
  | .ok components => components.forM (pool.walkComponent flags)
  | .error _ => .error .misfit

def walkClassBody (name : String) (info : Bytes) : LayoutWalk :=
  match AttributeRole.ofName name with
  | .record => pool.walkRecord flags info
  | _ => pool.walkBody flags name info

theorem walkClassBody_of_record {name : String} (role : AttributeRole.ofName name = .record) :
    pool.walkClassBody flags name = pool.walkRecord flags := by
  funext info
  simp only [walkClassBody, role]

theorem walkClassBody_of_not_record {name : String} (role : AttributeRole.ofName name ≠ .record) :
    pool.walkClassBody flags name = pool.walkBody flags name := by
  funext info
  unfold walkClassBody
  split
  · next isRecord => exact absurd isRecord role
  · rfl

def walkMember (member : Member) : LayoutWalk :=
  pool.walkList (pool.walkBody flags) member.attributes

end ConstantPool

/-- How the layout check gets on over a class file that a purge with these flags edits. -/
def ClassFile.walk (flags : StripFlags) (file : ClassFile) : LayoutWalk := do
  file.fields.forM (file.pool.walkMember flags)
  file.methods.forM (file.pool.walkMember flags)
  file.pool.walkList (file.pool.walkClassBody flags) file.attributes

/-! ## The check follows them -/

namespace LayoutCheck

variable {pool : ConstantPool} {flags : StripFlags} {levels : Nat}

theorem follows_misfit (check : LayoutCheck Unit) (front : Bytes) :
    Follows check front (.error .misfit) := by
  constructor
  · intro through
    cases through
  · intro fault stopped
    cases stopped

/-- The check of a body of any name does as the walk says, with a level for each byte. -/
def BodiesFollow (pool : ConstantPool) (ofBody : String → Bytes → LayoutWalk) : Prop :=
  ∀ levels name info, info.length ≤ levels →
    Follows (body levels (attributes pool levels) info.length name) info (ofBody name info)

theorem attributeName_of_text {index : UInt16} {name : String} (named : pool.text index = .ok name) :
    attributeName pool index.toNat = pure name := by
  unfold ConstantPool.text ConstantPool.constant? at named
  unfold attributeName
  cases slot : pool.slots[index.toNat]? with
  | none =>
    rw [slot] at named
    cases named
  | some constant =>
    rw [slot] at named
    cases constant with
    | none => cases named
    | some constant =>
      cases constant with
      | text encoded =>
        have named : ModifiedUtf8.decode encoded = .ok name := named
        simp only [named]
      | _ => cases named

theorem follows_oneAttribute {ofBody : String → Bytes → LayoutWalk} (follow : BodiesFollow pool ofBody)
    {item : Attribute} (fits : item.Fits) (enough : item.info.length ≤ levels) :
    Follows (oneAttribute pool levels) item.layout (pool.walkAttribute ofBody item) := by
  unfold ConstantPool.walkAttribute
  cases named : pool.text item.nameIndex with
  | error fault => exact follows_misfit _ _
  | ok name =>
    rw [Attribute.layout, List.append_assoc]
    refine follows_integer item.nameIndex.toNat_lt (follows_integer fits ?_)
    rw [attributeName_of_text named, pure_bind]
    exact follow levels name item.info enough

theorem follows_attributes {ofBody : String → Bytes → LayoutWalk} (follow : BodiesFollow pool ofBody)
    {attributes : List Attribute} (fits : Attribute.ListFits attributes)
    (enough : (Attribute.listLayout attributes).length ≤ levels) :
    Follows (LayoutCheck.attributes pool levels) (Attribute.listLayout attributes)
      (pool.walkList ofBody attributes) := by
  obtain ⟨levels, rfl⟩ : ∃ fewer, levels = fewer + 1 := by
    rw [Attribute.listLayout, countedLayout, List.length_append, Bytes.length_bigEndian] at enough
    exact ⟨levels - 1, by omega⟩
  rw [attributes_succ]
  refine follows_counted fits.1 ?_
  intro item inList
  refine follows_oneAttribute follow (fits.2 item inList) ?_
  have part : item.layout.length + 2 ≤ (Attribute.listLayout attributes).length :=
    length_le_countedLayout Attribute.layout inList
  simp only [Attribute.layout, List.length_append] at part
  omega

theorem bodiesFollow_whole (pool : ConstantPool) : BodiesFollow pool pool.walkWhole := by
  intro levels name info enough
  exact follows_alone (carries_body (carries_elementValue enough) (carries_attributes pool enough) _ _)

theorem bodiesFollow_dropped (pool : ConstantPool) : BodiesFollow pool pool.walkDropped := by
  intro levels name info enough
  have whole := bodiesFollow_whole pool levels name info enough
  unfold ConstantPool.walkDropped
  split
  · constructor
    · intro through
      cases through
    · intro fault stopped
      cases stopped
  · exact whole

theorem bodiesFollow_ite {condition : String → Bool} {ofBody other : String → Bytes → LayoutWalk}
    (first : BodiesFollow pool ofBody) (second : BodiesFollow pool other) :
    BodiesFollow pool fun name info => if condition name then ofBody name info else other name info := by
  intro levels name info enough
  dsimp only
  split
  · exact first levels name info enough
  · exact second levels name info enough

theorem body_code (levels : Nat) (nested : LayoutCheck Unit) (length : Nat) :
    body levels nested length "Code"
      = (do words 2; block (← u32); counted (words 4); nested) := rfl

theorem body_record (levels : Nat) (nested : LayoutCheck Unit) (length : Nat) :
    body levels nested length "Record" = counted (do words 2; nested) := rfl

/-- The check goes over the front of a code body and into its attributes. -/
theorem follows_code {info : Bytes} (enough : info.length ≤ levels) :
    Follows (body levels (attributes pool levels) info.length "Code") info
      (pool.walkCode flags info) := by
  unfold ConstantPool.walkCode
  split
  · next code parsed =>
    obtain ⟨⟨limits, instructions, ⟨entries, fewEntries, handlers⟩, attributesFit⟩, rfl⟩ :=
      (Code.parse_eq_ok_iff info code).mp parsed
    have shorter : (Attribute.listLayout code.attributes).length ≤ levels := by
      rw [Code.layout, List.length_append] at enough
      omega
    have nested : Follows (attributes pool levels) (Attribute.listLayout code.attributes)
        (pool.walkNested flags code.attributes) :=
      follows_attributes (bodiesFollow_ite (bodiesFollow_dropped pool) (bodiesFollow_whole pool))
        attributesFit shorter
    have count : code.handlers.length / 8 = entries := by omega
    have table : Covers (counted (words 4)) (Bytes.bigEndian 2 entries ++ code.handlers) :=
      follows_integer fewEntries
        (covers_times_of_length (fun _ length => covers_words length) handlers)
    have front : Covers (words 2) code.limits := covers_words limits
    have rest : Follows (do block (← u32); counted (words 4); attributes pool levels)
        (Bytes.bigEndian 4 code.instructions.length ++ (code.instructions
          ++ (Bytes.bigEndian 2 entries ++ code.handlers
            ++ Attribute.listLayout code.attributes)))
        (pool.walkNested flags code.attributes) :=
      follows_integer instructions
        (follows_behind (covers_block code.instructions) (follows_behind table nested))
    have whole := follows_behind front rest
    rw [body_code, Code.layout, Code.encodeFront, count]
    simpa only [List.append_assoc] using whole
  · exact follows_misfit _ _

theorem name_of_code {name : String} (role : AttributeRole.ofName name = .code) : name = "Code" := by
  unfold AttributeRole.ofName at role
  split at role <;> first | rfl | cases role

theorem name_of_record {name : String} (role : AttributeRole.ofName name = .record) :
    name = "Record" := by
  unfold AttributeRole.ofName at role
  split at role <;> first | rfl | cases role

theorem bodiesFollow_body : BodiesFollow pool (pool.walkBody flags) := by
  intro levels name info enough
  have dropped := bodiesFollow_dropped pool levels name info enough
  have whole := bodiesFollow_whole pool levels name info enough
  unfold ConstantPool.walkBody
  split
  · next role =>
    cases name_of_code role
    split
    · exact dropped
    · split
      · exact follows_code enough
      · exact whole
  · split
    · exact dropped
    · exact whole
  · exact whole

theorem follows_component {component : RecordComponent} (fits : component.Fits)
    (enough : component.layout.length ≤ levels) :
    Follows (do words 2; attributes pool levels) component.layout
      (pool.walkComponent flags component) := by
  have front : Covers (words 2)
      (Bytes.ofUInt16 component.nameIndex ++ Bytes.ofUInt16 component.descriptorIndex) :=
    covers_words (by simp [Bytes.length_ofUInt16])
  refine follows_behind front (follows_attributes bodiesFollow_body fits ?_)
  rw [RecordComponent.layout, List.length_append] at enough
  omega

theorem bodiesFollow_classBody : BodiesFollow pool (pool.walkClassBody flags) := by
  intro levels name info enough
  unfold ConstantPool.walkClassBody
  split
  · next role =>
    cases name_of_record role
    unfold ConstantPool.walkRecord
    split
    · next components parsed =>
      obtain ⟨fits, rfl⟩ := (RecordComponent.parseList_eq_ok_iff info components).mp parsed
      rw [body_record]
      refine follows_counted fits.1 ?_
      intro component inList
      refine follows_component (fits.2 component inList) ?_
      have part : component.layout.length + 2 ≤ (RecordComponent.listLayout components).length :=
        length_le_countedLayout RecordComponent.layout inList
      omega
    · exact follows_misfit _ _
  · exact bodiesFollow_body levels name info enough

theorem follows_member {current : Member} (fits : current.Fits)
    (enough : current.layout.length ≤ levels) :
    Follows (member pool levels) current.layout (pool.walkMember flags current) := by
  have front : Covers (words 3) (Bytes.ofUInt16 current.accessFlags
      ++ Bytes.ofUInt16 current.nameIndex ++ Bytes.ofUInt16 current.descriptorIndex) :=
    covers_words (by simp [Bytes.length_ofUInt16])
  refine follows_behind front (follows_attributes bodiesFollow_body fits ?_)
  rw [Member.layout, List.length_append] at enough
  omega

theorem follows_members {members : List Member} (fits : CountedFits Member.Fits members)
    (enough : (countedLayout Member.layout members).length ≤ levels) :
    Follows (counted (member pool levels)) (countedLayout Member.layout members)
      (members.forM (pool.walkMember flags)) := by
  refine follows_counted fits.1 ?_
  intro current inList
  refine follows_member (fits.2 current inList) ?_
  have part := length_le_countedLayout Member.layout inList
  omega

/-- What stands behind the constant pool of a class file. -/
def sectionsLayout (file : ClassFile) : Bytes :=
  Bytes.ofUInt16 file.accessFlags ++ Bytes.ofUInt16 file.thisClass
    ++ Bytes.ofUInt16 file.superClass ++ (countedLayout Bytes.ofUInt16 file.interfaces
      ++ (countedLayout Member.layout file.fields ++ (countedLayout Member.layout file.methods
        ++ Attribute.listLayout file.attributes)))

theorem follows_sections {file : ClassFile} (flags : StripFlags) (fits : file.Fits)
    (enough : (sectionsLayout file).length ≤ levels) :
    Follows (sections file.pool levels) (sectionsLayout file) (file.walk flags) := by
  have front : Covers (words 3) (Bytes.ofUInt16 file.accessFlags ++ Bytes.ofUInt16 file.thisClass
      ++ Bytes.ofUInt16 file.superClass) :=
    covers_words (by simp [Bytes.length_ofUInt16])
  have interfaces : Covers (counted (words 1)) (countedLayout Bytes.ofUInt16 file.interfaces) :=
    covers_counted fits.interfaces fun _ _ => covers_words (Bytes.length_ofUInt16 _)
  simp only [sectionsLayout, List.length_append] at enough
  refine follows_behind front (follows_behind interfaces
    (follows_bind (follows_members fits.fields ?_) (follows_bind (follows_members fits.methods ?_)
      (follows_attributes bodiesFollow_classBody fits.attributes ?_))))
  all_goals omega

end LayoutCheck

namespace ClassFile

/-- What the check reads before it starts: the header and the constant pool. -/
def headLayout (file : ClassFile) : Bytes :=
  Bytes.ofUInt32 magic ++ Bytes.ofUInt16 file.minorVersion ++ Bytes.ofUInt16 file.majorVersion
    ++ file.pool.encode

theorem layout_eq_append (file : ClassFile) :
    file.layout = file.headLayout ++ sectionsLayout file := by
  simp only [layout, headLayout, sectionsLayout, List.append_assoc]

/-- Behind the head stand the sections that the check goes over. -/
theorem read_headLayout {file : ClassFile} (fits : file.Fits) :
    (do let _ ← readHeader; ConstantPool.read : Reader ConstantPool) (.ofBytes file.layout)
      = .ok (file.pool, ⟨file.headLayout.reverseAux [], sectionsLayout file⟩) := by
  have accepts := accepts_bind accepts_readHeader fun _ => ConstantPool.accepts_read
  exact (accepts _ file.pool _).mpr ⟨file.headLayout,
    ⟨(file.minorVersion, file.majorVersion), _, _, rfl, ⟨fits.pool, rfl⟩, rfl⟩,
    layout_eq_append file, rfl⟩

/-- The check of a class file that fits ends as the walk over it. -/
theorem checkLayout_of_walk {file : ClassFile} (flags : StripFlags) (fits : file.Fits) :
    (file.walk flags = .ok () → checkLayout file.layout = .ok ()) ∧
    ∀ fault, file.walk flags = .error (.faulty fault) →
      checkLayout file.layout = .error (.layout fault) := by
  have enough : (sectionsLayout file).length ≤ file.layout.length := by
    rw [layout_eq_append, List.length_append]
    exact Nat.le_add_left ..
  have follows := follows_sections flags fits enough
  have ended : sectionsLayout file = sectionsLayout file ++ [] := (List.append_nil _).symm
  constructor
  · intro through
    unfold checkLayout
    simp only [read_headLayout fits, bind_apply]
    rw [ended, follows.passes through]
    rfl
  · intro fault stopped
    unfold checkLayout
    simp only [read_headLayout fits, bind_apply]
    rw [ended, follows.faults stopped]
    rfl

end ClassFile

end Unannotate
