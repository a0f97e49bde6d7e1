import Mathlib.Algebra.GroupWithZero.Nat
import Unannotate.Proofs.Purge.ReferenceEdit

/-!
# A purge that changes a class makes it shorter

What the flags take from a class is laid down here without reference to a pass: the attributes that they
name, wherever they stand, and the bodies that are shortened for it. A part of a class loses bytes when a
point of it is rejected or the flags take something from it, and otherwise it stays as it was. This goes
from one annotation up to the class file, so a purge writes a class again exactly when there was
something to take away, and what it writes is shorter than what it read.
-/
set_option autoImplicit false

namespace Unannotate

open Reader

/-! ## What the flags take -/

namespace ClassContext

variable (context : ClassContext) (flags : StripFlags)

/-- Some attribute of the list is taken or shortened, given when one of a certain name is. -/
def TakesOfList (ofBody : String → Bytes → Prop) (attributes : List Attribute) : Prop :=
  ∃ item ∈ attributes, ∃ name, context.pool.text item.nameIndex = .ok name ∧ ofBody name item.info

/-- A code body is shortened by the tables that the flags name. -/
def TakesOfCode (info : Bytes) : Prop :=
  ∃ code, Code.parse info = .ok code ∧
    context.TakesOfList (fun name _ => flags.stripsFromCode name = true) code.attributes

def TakesOfBody (site : Site) (name : String) (info : Bytes) : Prop :=
  match AttributeView.of site name with
  | .code => flags.skipCode = true ∨ context.TakesOfCode flags info
  | .debugInfo => flags.skipDebug = true
  | .annotations _ _ | .parameters _ | .record | .other => False

/-- The flags take something of what has a name, a type and a list of attributes. -/
def TakesOfNamed (place : String → String → Site) (nameIndex descriptorIndex : UInt16)
    (attributes : List Attribute) : Prop :=
  ∃ name descriptor, context.pool.text nameIndex = .ok name ∧
    context.pool.text descriptorIndex = .ok descriptor ∧
    context.TakesOfList (context.TakesOfBody flags (place name descriptor)) attributes

def TakesOfComponent (component : RecordComponent) : Prop :=
  context.TakesOfNamed flags .component component.nameIndex component.descriptorIndex
    component.attributes

def TakesOfMember (place : String → String → Site) (member : Member) : Prop :=
  context.TakesOfNamed flags place member.nameIndex member.descriptorIndex member.attributes

def TakesOfRecord (info : Bytes) : Prop :=
  ∃ components, RecordComponent.parseList info = .ok components ∧
    ∃ component ∈ components, context.TakesOfComponent flags component

def TakesOfClassBody (name : String) (info : Bytes) : Prop :=
  match AttributeView.of .classBody name with
  | .record => context.TakesOfRecord flags info
  | _ => context.TakesOfBody flags .classBody name info

def TakesOfFile (file : ClassFile) : Prop :=
  context.TakesOfList (context.TakesOfClassBody flags) file.attributes ∨
    (∃ field ∈ file.fields, context.TakesOfMember flags .field field) ∨
    (∃ method ∈ file.methods, context.TakesOfMember flags .method method)

end ClassContext

/-- Some attribute of the class, of a member, of a record component or of a code body is dropped or
shortened because of a flag. -/
def StripFlags.TakesFrom (flags : StripFlags) (file : ClassFile) : Prop :=
  ∃ context, file.context = .ok context ∧ context.TakesOfFile flags file

/-! ## Parts that lose bytes -/

/-- Some point is rejected, the first offered as number `first`. -/
def Decision.Rejects (decision : Decision) (first : Nat) (points : List AttachmentPoint) : Prop :=
  ∃ offer ∈ Offer.judged decision first points, offer.rejected = true

theorem Decision.rejects_append {decision : Decision} {first : Nat}
    {front back : List AttachmentPoint} :
    decision.Rejects first (front ++ back) ↔
      decision.Rejects first front ∨ decision.Rejects (first + front.length) back := by
  simp only [Rejects, Offer.judged_append, List.mem_append, or_and_right, exists_or]

theorem Decision.not_rejects_nil {decision : Decision} {first : Nat} : ¬decision.Rejects first [] := by
  rintro ⟨offer, offered, -⟩
  cases offered

/-- The bytes of what may have gone away. -/
def sizeLeft {α : Type} (size : α → Nat) (left : Option α) : Nat := left.elim 0 size

namespace Purgeable

variable {α β γ : Type}

/-- The part is as it was, or it has lost bytes to a rejection or to the flags. -/
structure Dwindles (size : α → Nat) (whole : α) (taken : Prop) (part : Purgeable α) : Prop where
  same : ∀ decision first, ¬decision.Rejects first part.points → ¬taken →
    part.left decision first = whole
  smaller : ∀ decision first, decision.Rejects first part.points ∨ taken →
    size (part.left decision first) < size whole

variable {size : α → Nat} {size' : β → Nat} {whole : α} {whole' : β} {taken taken' : Prop}

/-- What stays is never larger. -/
theorem Dwindles.size_le {part : Purgeable α} (dwindles : part.Dwindles size whole taken)
    (decision : Decision) (first : Nat) : size (part.left decision first) ≤ size whole := by
  by_cases loses : decision.Rejects first part.points ∨ taken
  · exact Nat.le_of_lt (dwindles.smaller decision first loses)
  · obtain ⟨spared, untaken⟩ := not_or.mp loses
    exact Nat.le_of_eq (congrArg size (dwindles.same decision first spared untaken))

theorem dwindles_fixed (size : α → Nat) (whole : α) : (fixed whole).Dwindles size whole False where
  same _ _ _ _ := rfl
  smaller _ _ loses := (loses.elim Decision.not_rejects_nil id).elim

/-- What the flags drop whole. -/
theorem dwindles_fixed_of_lt {left : α} (smaller : size left < size whole) :
    (fixed left).Dwindles size whole True where
  same _ _ _ untaken := absurd trivial untaken
  smaller _ _ _ := smaller

/-- Only what stays comes around a part. -/
theorem Dwindles.map {part : Purgeable α} (change : α → β) (dwindles : part.Dwindles size whole taken)
    (stays : change whole = whole')
    (shrinks : ∀ left, size left < size whole → size' (change left) < size' whole') :
    (part.map change).Dwindles size' whole' taken where
  same decision first spared untaken :=
    (congrArg change (dwindles.same decision first spared untaken)).trans stays
  smaller decision first loses := shrinks _ (dwindles.smaller decision first loses)

/-- The same by another measure. -/
theorem Dwindles.resize {part : Purgeable α} {size' : α → Nat}
    (dwindles : part.Dwindles size whole taken)
    (shrinks : ∀ left, size left < size whole → size' left < size' whole) :
    part.Dwindles size' whole taken where
  same := dwindles.same
  smaller decision first loses := shrinks _ (dwindles.smaller decision first loses)

theorem Dwindles.map₂ {front : Purgeable α} {back : Purgeable β} (join : α → β → γ)
    (total : γ → Nat) (around : Nat) (frontDwindles : front.Dwindles size whole taken)
    (backDwindles : back.Dwindles size' whole' taken')
    (sum : ∀ left left', total (join left left') = around + (size left + size' left')) :
    (front.map₂ join back).Dwindles total (join whole whole') (taken ∨ taken') where
  same decision first spared untaken := by
    obtain ⟨frontSpared, backSpared⟩ := not_or.mp (mt Decision.rejects_append.mpr spared)
    obtain ⟨frontUntaken, backUntaken⟩ := not_or.mp untaken
    exact congrArg₂ join (frontDwindles.same decision first frontSpared frontUntaken)
      (backDwindles.same decision _ backSpared backUntaken)
  smaller decision first loses := by
    show total (join (front.left decision first)
      (back.left decision (first + front.points.length))) < total (join whole whole')
    have frontAtMost := frontDwindles.size_le decision first
    have backAtMost := backDwindles.size_le decision (first + front.points.length)
    have either : (decision.Rejects first front.points ∨ taken) ∨
        (decision.Rejects (first + front.points.length) back.points ∨ taken') := by
      obtain rejects | taken := loses
      · obtain rejects | rejects := Decision.rejects_append.mp rejects
        · exact .inl (.inl rejects)
        · exact .inr (.inl rejects)
      · obtain taken | taken := taken
        · exact .inl (.inr taken)
        · exact .inr (.inr taken)
    rw [sum, sum]
    obtain loses | loses := either
    · have lost := frontDwindles.smaller decision first loses
      omega
    · have lost := backDwindles.smaller decision _ loses
      omega

theorem Dwindles.congr {part : Purgeable α} (dwindles : part.Dwindles size whole taken)
    (same : taken ↔ taken') : part.Dwindles size whole taken' := by
  rw [← propext same]
  exact dwindles

end Purgeable

namespace Survey

variable {α β γ : Type}

theorem collect_dwindles {join : β → List γ → List γ} {find : α → Except Malformation (Purgeable β)}
    {size : β → Nat} {sizeOf : γ → Nat} {whole : α → β} {taken : α → Prop}
    (sum : ∀ left others, ((join left others).map sizeOf).sum = size left + (others.map sizeOf).sum)
    (each : ∀ item part, find item = .ok part → part.Dwindles size (whole item) (taken item))
    (list : List α) (part : Purgeable (List γ)) (found : collect join find list = .ok part) :
    part.Dwindles (fun left => (left.map sizeOf).sum)
      (list.foldr (fun item => join (whole item)) []) (∃ item ∈ list, taken item) := by
  induction list generalizing part with
  | nil =>
    cases found
    exact (Purgeable.dwindles_fixed _ []).congr (by simp)
  | cons item rest ih =>
    obtain ⟨head, tail, headFound, tailFound, rfl⟩ := map₂_eq_ok_iff.mp found
    refine (Purgeable.Dwindles.map₂ join (fun left => (left.map sizeOf).sum) 0
      (each item head headFound) (ih tail tailFound) ?_).congr ?_
    · intro left others
      rw [sum, Nat.zero_add]
    · rw [List.exists_mem_cons_iff]

/-- All items stay, each as it was or with fewer bytes. -/
theorem traverse_dwindles {find : α → Except Malformation (Purgeable β)} {size : β → Nat}
    {whole : α → β} {taken : α → Prop}
    (each : ∀ item part, find item = .ok part → part.Dwindles size (whole item) (taken item))
    (list : List α) (part : Purgeable (List β)) (found : traverse find list = .ok part) :
    part.Dwindles (fun left => (left.map size).sum) (list.map whole) (∃ item ∈ list, taken item) := by
  have sum (left : β) (others : List β) :
      ((left :: others).map size).sum = size left + (others.map size).sum := by
    rw [List.map_cons, List.sum_cons]
  have dwindles := collect_dwindles sum each list part found
  rw [← List.map_eq_foldr] at dwindles
  exact dwindles

/-- Items go away, or stay as they were or with fewer bytes. -/
theorem filterMap_dwindles {find : α → Except Malformation (Purgeable (Option α))} {size : α → Nat}
    {taken : α → Prop}
    (each : ∀ item part, find item = .ok part →
      part.Dwindles (sizeLeft size) (some item) (taken item))
    (list : List α) (part : Purgeable (List α)) (found : filterMap find list = .ok part) :
    part.Dwindles (fun left => (left.map size).sum) list (∃ item ∈ list, taken item) := by
  have sum (left : Option α) (others : List α) :
      ((left.toList ++ others).map size).sum = sizeLeft size left + (others.map size).sum := by
    cases left <;> simp [sizeLeft]
  have dwindles := collect_dwindles sum each list part found
  have whole : list.foldr (fun item others => (some item).toList ++ others) [] = list := by
    induction list <;> simp_all
  rw [whole] at dwindles
  exact dwindles

end Survey

/-! ## Lengths of layouts -/

theorem Reader.length_countedLayout {α : Type} (layout : α → Bytes) (list : List α) :
    (countedLayout layout list).length = 2 + (list.map fun item => (layout item).length).sum := by
  rw [countedLayout, List.length_append, Bytes.length_bigEndian, List.length_flatMap]

namespace AnnotationTree

theorem length_encode_pos (tree : AnnotationTree) : 0 < tree.encode.length := by
  simp only [encode, List.length_append, Bytes.length_ofUInt16]
  omega

theorem length_encodeList (trees : List AnnotationTree) :
    (encodeList trees).length = 2 + (trees.map fun tree => tree.encode.length).sum := by
  rw [encodeList, List.length_append, Bytes.length_bigEndian, List.length_flatMap]

theorem length_encodeParameters (lists : List (List AnnotationTree)) :
    (encodeParameters lists).length = 1 + (lists.map fun trees => (encodeList trees).length).sum := by
  rw [encodeParameters, List.length_append, Bytes.length_bigEndian, List.length_flatMap]

end AnnotationTree

/-- The bytes of an attribute with this body. -/
def attributeSize (info : Bytes) : Nat := 6 + info.length

theorem Attribute.length_layout (item : Attribute) : item.layout.length = attributeSize item.info := by
  simp only [layout, attributeSize, List.length_append, Bytes.length_ofUInt16, Bytes.length_bigEndian]

namespace ClassContext

variable {context : ClassContext} {flags : StripFlags} {site : Site} {kind : ElementKind}
  {parameter : Option UInt8} {visible : Bool} {info : Bytes}

/-! ## Annotations -/

theorem surveyTree_dwindles {tree : AnnotationTree} {part : Purgeable (Option AnnotationTree)}
    (found : context.surveyTree site kind parameter visible tree = .ok part) :
    part.Dwindles (sizeLeft fun tree => tree.encode.length) (some tree) False := by
  obtain ⟨point, -, rfl⟩ := surveyTree_eq_ok found
  constructor
  · intro decision first spared _
    have kept : decision first point = false := by
      by_contra rejected
      exact spared ⟨⟨point, decision first point⟩, List.mem_singleton.mpr rfl, by simpa using rejected⟩
    show (if decision first point then none else some tree) = some tree
    rw [kept]
    rfl
  · intro decision first loses
    have rejected : decision first point = true := by
      obtain ⟨offer, offered, rejected⟩ | taken := loses
      · rw [List.mem_singleton.mp offered] at rejected
        exact rejected
      · exact taken.elim
    show sizeLeft _ (if decision first point then none else some tree) < tree.encode.length
    rw [rejected]
    exact tree.length_encode_pos

theorem surveyTrees_dwindles {trees : List AnnotationTree} {part : Purgeable (List AnnotationTree)}
    (found : context.surveyTrees site kind parameter visible trees = .ok part) :
    part.Dwindles (fun left => (left.map fun tree => tree.encode.length).sum) trees False := by
  have each (tree : AnnotationTree) (part : Purgeable (Option AnnotationTree))
      (treeFound : context.surveyTree site kind parameter visible tree = .ok part) :
      part.Dwindles (sizeLeft fun tree => tree.encode.length) (some tree) False :=
    surveyTree_dwindles treeFound
  exact (Survey.filterMap_dwindles each trees part found).congr (by simp)

/-- A body written for what is left of its trees, as many as were counted. -/
theorem dwindles_remainingBody {α : Type} {size : α → Nat} {whole : α} {kept : Purgeable α}
    (count : α → Nat) {written : α → Bytes} (dwindles : kept.Dwindles size whole False)
    (length : ∃ around, ∀ left, (written left).length = around + size left) :
    (kept.map fun left => remainingBody (count whole) (count left) (written left)).Dwindles
      (sizeLeft attributeSize) (some (written whole)) False := by
  have whole_stays : remainingBody (count whole) (count whole) (written whole)
      = some (written whole) := if_neg fun emptied => emptied.2 emptied.1
  refine dwindles.map _ whole_stays ?_
  intro left smaller
  obtain ⟨around, length⟩ := length
  unfold remainingBody
  split
  · exact Nat.lt_of_lt_of_le (by decide) (Nat.le_add_right 6 _)
  · show 6 + (written left).length < 6 + (written whole).length
    rw [length, length]
    omega

theorem surveyAnnotations_dwindles {part : Purgeable (Option Bytes)}
    (found : context.surveyAnnotations site kind visible info = .ok part) :
    part.Dwindles (sizeLeft attributeSize) (some info) False := by
  obtain ⟨trees, kept, -, rfl, keptFound, rfl⟩ := surveyAnnotations_eq_ok found
  exact dwindles_remainingBody List.length (surveyTrees_dwindles keptFound)
    ⟨2, AnnotationTree.length_encodeList⟩

theorem surveyParameters_dwindles {part : Purgeable (Option Bytes)}
    (found : context.surveyParameters site visible info = .ok part) :
    part.Dwindles (sizeLeft attributeSize) (some info) False := by
  obtain ⟨lists, kept, -, rfl, keptFound, rfl⟩ := surveyParameters_eq_ok found
  have each (item : List AnnotationTree × Nat) (part : Purgeable (List AnnotationTree))
      (treesFound : context.surveyTrees site .parameter (some (UInt8.ofNat item.2)) visible item.1
        = .ok part) :
      part.Dwindles (fun trees => (AnnotationTree.encodeList trees).length) item.1 False := by
    refine (surveyTrees_dwindles treesFound).resize ?_
    intro left smaller
    rw [AnnotationTree.length_encodeList, AnnotationTree.length_encodeList]
    omega
  have dwindles := Survey.traverse_dwindles each _ kept keptFound
  rw [List.zipIdx_map_fst] at dwindles
  exact dwindles_remainingBody (fun lists => lists.flatten.length)
    (dwindles.congr (by simp)) ⟨1, AnnotationTree.length_encodeParameters⟩

/-! ## Attribute lists -/

theorem surveyList_dwindles
    {ofBody : String → Bytes → Except Malformation (Purgeable (Option Bytes))}
    {takes : String → Bytes → Prop}
    (each : ∀ name info part, ofBody name info = .ok part →
      part.Dwindles (sizeLeft attributeSize) (some info) (takes name info))
    {attributes : List Attribute} {part : Purgeable (List Attribute)}
    (found : context.surveyList ofBody attributes = .ok part) :
    part.Dwindles (fun left => (Attribute.listLayout left).length) attributes
      (context.TakesOfList takes attributes) := by
  have items : part.Dwindles (fun left => (left.map fun item => item.layout.length).sum) attributes
      (context.TakesOfList takes attributes) := by
    refine Survey.filterMap_dwindles ?_ attributes part found
    intro item part itemFound
    obtain ⟨name, body, named, bodyFound, rfl⟩ := surveyAttribute_eq_ok itemFound
    have sized (left : Option Bytes) :
        sizeLeft (fun item : Attribute => item.layout.length)
          (left.map fun info => { item with info }) = sizeLeft attributeSize left := by
      cases left with
      | none => rfl
      | some info => exact Attribute.length_layout _
    refine ((each name item.info body bodyFound).map (Option.map fun info => { item with info })
      rfl ?_).congr ?_
    · intro left smaller
      rw [sized]
      exact Nat.lt_of_lt_of_eq smaller item.length_layout.symm
    · constructor
      · intro taken
        exact ⟨name, named, taken⟩
      · rintro ⟨other, otherNamed, taken⟩
        rw [named] at otherNamed
        cases otherNamed
        exact taken
  refine items.resize ?_
  intro left smaller
  rw [length_countedLayout, length_countedLayout]
  exact Nat.add_lt_add_left smaller 2

/-- A body that goes away as a whole when a flag says so. -/
theorem dwindles_dropped (flag : Bool) (info : Bytes) :
    (Purgeable.fixed (if flag then none else some info)).Dwindles (sizeLeft attributeSize) (some info)
      (flag = true) := by
  cases flag with
  | false => exact (Purgeable.dwindles_fixed _ _).congr (by simp)
  | true =>
    have smaller : sizeLeft attributeSize none < sizeLeft attributeSize (some info) :=
      Nat.lt_of_lt_of_le (by decide) (Nat.le_add_right 6 _)
    exact (Purgeable.dwindles_fixed_of_lt smaller).congr (by simp)

theorem surveyNested_dwindles {attributes : List Attribute} {part : Purgeable (List Attribute)}
    (found : context.surveyNested flags attributes = .ok part) :
    part.Dwindles (fun left => (Attribute.listLayout left).length) attributes
      (context.TakesOfList (fun name _ => flags.stripsFromCode name = true) attributes) := by
  refine surveyList_dwindles ?_ found
  intro name info part fixed
  cases fixed
  exact dwindles_dropped (flags.stripsFromCode name) info

theorem surveyCode_dwindles {part : Purgeable (Option Bytes)}
    (found : context.surveyCode flags info = .ok part) :
    part.Dwindles (sizeLeft attributeSize) (some info) (context.TakesOfCode flags info) := by
  obtain ⟨code, kept, fits, rfl, keptFound, rfl⟩ := surveyCode_eq_ok found
  have parsed := (Code.parse_eq_ok_iff code.layout code).mpr ⟨fits, rfl⟩
  refine ((surveyNested_dwindles keptFound).map
    (fun attributes => some ({ code with attributes } : Code).layout) rfl ?_).congr ?_
  · intro left smaller
    show 6 + ({ code with attributes := left } : Code).layout.length < 6 + code.layout.length
    simp only [Code.layout, Code.encodeFront, List.length_append] at smaller ⊢
    omega
  · constructor
    · intro taken
      exact ⟨code, parsed, taken⟩
    · rintro ⟨other, otherParsed, taken⟩
      rw [parsed] at otherParsed
      cases otherParsed
      exact taken

/-- Without flags that name its attributes, a code body loses nothing. -/
theorem not_takesOfCode (closed : ¬(flags.skipDebug || flags.skipFrames) = true) :
    ¬context.TakesOfCode flags info := by
  rintro ⟨code, -, item, -, name, -, strips⟩
  rw [Bool.or_eq_true, not_or, Bool.not_eq_true, Bool.not_eq_true] at closed
  simp [StripFlags.stripsFromCode, closed.1, closed.2] at strips

theorem surveyBody_dwindles {name : String} {part : Purgeable (Option Bytes)}
    (found : context.surveyBody flags site name info = .ok part) :
    part.Dwindles (sizeLeft attributeSize) (some info) (context.TakesOfBody flags site name info) := by
  unfold surveyBody at found
  unfold TakesOfBody
  cases view : AttributeView.of site name with
  | annotations kind visible =>
    rw [view] at found
    exact surveyAnnotations_dwindles found
  | parameters visible =>
    rw [view] at found
    exact surveyParameters_dwindles found
  | code =>
    simp only [view] at found ⊢
    split at found
    · next skipped =>
      cases found
      exact (dwindles_dropped true info).congr (by simp [skipped])
    · next kept =>
      split at found
      · exact (surveyCode_dwindles found).congr (by simp [kept])
      · next closed =>
        cases found
        exact (Purgeable.dwindles_fixed _ _).congr (by simp [kept, not_takesOfCode closed])
  | debugInfo =>
    rw [view] at found
    cases found
    exact dwindles_dropped flags.skipDebug info
  | record | other =>
    rw [view] at found
    cases found
    exact Purgeable.dwindles_fixed _ _

/-! ## Classes and what has attribute lists in them -/

theorem surveyNamed_dwindles {α : Type} {size : α → Nat} {place : String → String → Site}
    {nameIndex descriptorIndex : UInt16} {attributes : List Attribute} {around : List Attribute → α}
    {part : Purgeable α}
    (sized : ∀ left left', (Attribute.listLayout left).length < (Attribute.listLayout left').length →
      size (around left) < size (around left'))
    (found : context.surveyNamed flags place nameIndex descriptorIndex attributes around = .ok part) :
    part.Dwindles size (around attributes)
      (context.TakesOfNamed flags place nameIndex descriptorIndex attributes) := by
  obtain ⟨name, descriptor, kept, named, described, keptFound, rfl⟩ := surveyNamed_eq_ok found
  have dwindles := surveyList_dwindles (fun _ _ _ bodyFound => surveyBody_dwindles bodyFound) keptFound
  refine (dwindles.map around rfl fun left smaller => sized left attributes smaller).congr ?_
  constructor
  · intro taken
    exact ⟨name, descriptor, named, described, taken⟩
  · rintro ⟨otherName, otherDescriptor, otherNamed, otherDescribed, taken⟩
    rw [named] at otherNamed
    rw [described] at otherDescribed
    cases otherNamed
    cases otherDescribed
    exact taken

theorem surveyComponent_dwindles {component : RecordComponent} {part : Purgeable RecordComponent}
    (found : context.surveyComponent flags component = .ok part) :
    part.Dwindles (fun left => left.layout.length) component
      (context.TakesOfComponent flags component) := by
  refine surveyNamed_dwindles ?_ found
  intro left left' smaller
  simp only [RecordComponent.layout, List.length_append]
  omega

theorem surveyMember_dwindles {place : String → String → Site} {member : Member}
    {part : Purgeable Member} (found : context.surveyMember flags place member = .ok part) :
    part.Dwindles (fun left => left.layout.length) member
      (context.TakesOfMember flags place member) := by
  refine surveyNamed_dwindles ?_ found
  intro left left' smaller
  simp only [Member.layout, List.length_append]
  omega

theorem surveyRecord_dwindles {part : Purgeable (Option Bytes)}
    (found : context.surveyRecord flags info = .ok part) :
    part.Dwindles (sizeLeft attributeSize) (some info) (context.TakesOfRecord flags info) := by
  obtain ⟨components, kept, fits, rfl, keptFound, rfl⟩ := surveyRecord_eq_ok found
  have parsed := (RecordComponent.parseList_eq_ok_iff _ components).mpr ⟨fits, rfl⟩
  have dwindles := Survey.traverse_dwindles
    (fun _ _ componentFound => surveyComponent_dwindles componentFound) components kept keptFound
  rw [List.map_id'] at dwindles
  refine (dwindles.map (fun kept => some (RecordComponent.listLayout kept)) rfl ?_).congr ?_
  · intro left smaller
    show 6 + _ < 6 + _
    rw [length_countedLayout, length_countedLayout]
    omega
  · constructor
    · intro taken
      exact ⟨components, parsed, taken⟩
    · rintro ⟨others, othersParsed, taken⟩
      rw [parsed] at othersParsed
      cases othersParsed
      exact taken

theorem surveyClassBody_dwindles {name : String} {part : Purgeable (Option Bytes)}
    (found : context.surveyClassBody flags name info = .ok part) :
    part.Dwindles (sizeLeft attributeSize) (some info)
      (context.TakesOfClassBody flags name info) := by
  unfold surveyClassBody at found
  unfold TakesOfClassBody
  cases view : AttributeView.of .classBody name with
  | record =>
    rw [view] at found
    exact surveyRecord_dwindles found
  | _ =>
    rw [view] at found
    exact surveyBody_dwindles found

theorem surveyMembers_dwindles {place : String → String → Site} {members : List Member}
    {part : Purgeable (List Member)}
    (found : Survey.traverse (context.surveyMember flags place) members = .ok part) :
    part.Dwindles (fun left => (countedLayout Member.layout left).length) members
      (∃ member ∈ members, context.TakesOfMember flags place member) := by
  have dwindles := Survey.traverse_dwindles
    (fun _ _ memberFound => surveyMember_dwindles memberFound) members part found
  rw [List.map_id'] at dwindles
  refine dwindles.resize ?_
  intro left smaller
  rw [length_countedLayout, length_countedLayout]
  omega

theorem surveyFile_dwindles {file : ClassFile} {part : Purgeable ClassFile}
    (found : context.surveyFile flags file = .ok part) :
    part.Dwindles (fun left => left.layout.length) file (context.TakesOfFile flags file) := by
  obtain ⟨attributes, fields, methods, attributesFound, fieldsFound, methodsFound, rfl⟩ :=
    surveyFile_eq_ok found
  have own := surveyList_dwindles (fun _ _ _ bodyFound => surveyClassBody_dwindles bodyFound)
    attributesFound
  have members := Purgeable.Dwindles.map₂ Prod.mk
    (fun left => (countedLayout Member.layout left.1).length
      + (countedLayout Member.layout left.2).length)
    0 (surveyMembers_dwindles fieldsFound) (surveyMembers_dwindles methodsFound)
    fun _ _ => (Nat.zero_add _).symm
  let bare : ClassFile := { file with attributes := [], fields := [], methods := [] }
  -- Three empty lists have two bytes each for their counts.
  refine Purgeable.Dwindles.map₂ (fun attributes members =>
      { file with attributes, fields := members.1, methods := members.2 })
    (fun left => left.layout.length) (bare.layout.length - 6) own members ?_
  intro left left'
  simp only [bare, ClassFile.layout, List.length_append, countedLayout, Bytes.length_bigEndian,
    List.flatMap_nil, List.length_nil]
  omega

end ClassContext

theorem ClassFile.survey_dwindles {flags : StripFlags} {file : ClassFile} {part : Purgeable ClassFile}
    (found : file.survey flags = .ok part) :
    part.Dwindles (fun left => left.layout.length) file (flags.TakesFrom file) := by
  obtain ⟨context, read, fileFound⟩ := outcome_bind_ok_iff.mp found
  refine (ClassContext.surveyFile_dwindles fileFound).congr ?_
  constructor
  · intro taken
    exact ⟨context, read, taken⟩
  · rintro ⟨other, otherRead, taken⟩
    rw [read] at otherRead
    cases otherRead
    exact taken

namespace PurgedClass

/-- A point is removed exactly when one is rejected. -/
theorem removed_eq_nil_iff {purged : PurgedClass} {decision : Decision} {first : Nat}
    {points : List AttachmentPoint} (offers : purged.offers = Offer.judged decision first points) :
    purged.removed = [] ↔ ¬decision.Rejects first points := by
  rw [removed, List.map_eq_nil_iff, List.filter_eq_nil_iff, offers, Decision.Rejects, not_exists]
  constructor
  · rintro spared offer ⟨offered, rejected⟩
    exact spared offer offered rejected
  · intro spared offer offered rejected
    exact spared offer ⟨offered, rejected⟩

/-- A class is written again exactly when a point is removed or the flags take something from it, and
then it is shorter than what was read. -/
theorem bytes_shorter (data : Bytes) (flags : StripFlags) (decision : Decision) (purged : PurgedClass)
    (succeeds : ofBytes data flags decision = .ok purged) :
    ∃ file, ClassFile.parse data = .ok file ∧
      (purged.bytes = none ↔ purged.removed = [] ∧ ¬flags.TakesFrom file) ∧
      (∀ out, purged.bytes = some out → out.length < data.length) ∧
      (purged.removed ≠ [] → purged.bytes.isSome = true) := by
  obtain ⟨file, name, part, parsed, -, found, made⟩ := ofBytes_eq_ok succeeds
  obtain ⟨-, -, written⟩ := (ClassFile.parse_eq_ok_iff data file).mp parsed
  have dwindles := ClassFile.survey_dwindles found
  have bytes : purged.bytes = if part.left decision 0 = file then none
      else some (part.left decision 0).layout := by rw [made]
  have offers : purged.offers = Offer.judged decision 0 part.points := by rw [made]
  have unchanged : part.left decision 0 = file ↔ purged.removed = [] ∧ ¬flags.TakesFrom file := by
    rw [removed_eq_nil_iff offers, ← not_or]
    constructor
    · intro same loses
      have smaller := dwindles.smaller decision 0 loses
      rw [same] at smaller
      exact Nat.lt_irrefl _ smaller
    · intro stays
      obtain ⟨spared, untaken⟩ := not_or.mp stays
      exact dwindles.same decision 0 spared untaken
  refine ⟨file, parsed, ?_, ?_, ?_⟩
  · rw [bytes, ← unchanged]
    simp
  · intro out writes
    have changed : part.left decision 0 ≠ file := by
      intro same
      rw [bytes, if_pos same] at writes
      cases writes
    rw [bytes, if_neg changed] at writes
    cases writes
    rw [written]
    apply dwindles.smaller decision 0
    by_contra stays
    obtain ⟨spared, untaken⟩ := not_or.mp stays
    exact changed (dwindles.same decision 0 spared untaken)
  · intro removes
    have changed : part.left decision 0 ≠ file := fun same => removes (unchanged.mp same).1
    rw [bytes, if_neg changed]
    rfl

/-- With every other point rejected and its source file taken, the class loses 16 bytes. -/
theorem bytes_shorter_annotatedFile :
    ∃ purged, ofBytes annotatedFile.layout { skipDebug := true } (fun ordinal _ => ordinal % 2 = 0)
        = .ok purged ∧ purged.bytes = some halvedFile.layout ∧
      ∃ file, ClassFile.parse annotatedFile.layout = .ok file ∧
        (purged.bytes = none ↔
          purged.removed = [] ∧ ¬StripFlags.TakesFrom { skipDebug := true } file) ∧
        (∀ out, purged.bytes = some out → out.length < annotatedFile.layout.length) ∧
        (purged.removed ≠ [] → purged.bytes.isSome = true) := by
  let purged : PurgedClass :=
    { className := "A", bytes := some halvedFile.layout
      offers := Offer.judged (fun ordinal _ => ordinal % 2 = 0) 0 annotatedPoints }
  have succeeds : ofBytes annotatedFile.layout { skipDebug := true }
      (fun ordinal _ => ordinal % 2 = 0) = .ok purged := by decide +kernel
  exact ⟨purged, succeeds, rfl, bytes_shorter _ _ _ purged succeeds⟩

end PurgedClass

end Unannotate
