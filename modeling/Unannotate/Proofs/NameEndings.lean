import Mathlib.Data.List.Forall2
import Unannotate.Proofs.Text
import Unannotate.Text.Ending

/-!
# Ends of names are found without cutting a character

A byte of UTF-8 begins a character or continues one, and the two kinds of bytes differ, so that a place in
front of a beginning byte lies between characters. Names are therefore only cut there, whatever stands where
the bytes of a suffix would begin, and since the suffixes are ASCII what is found is what the last characters
of the name say.
-/
set_option autoImplicit false

namespace Unannotate

namespace Utf8

/-! ## Places between characters -/

/-- The bytes of characters. -/
def encodeAll (chars : List Char) : Bytes := chars.flatMap String.utf8EncodeChar

theorem encode_eq_encodeAll (text : String) : encode text = encodeAll text.toList := encode_eq text

theorem encodeAll_cons (char : Char) (rest : List Char) :
    encodeAll (char :: rest) = String.utf8EncodeChar char ++ encodeAll rest := List.flatMap_cons

theorem encodeAll_append (front back : List Char) :
    encodeAll (front ++ back) = encodeAll front ++ encodeAll back := List.flatMap_append

/-- A character of ASCII is one byte; any other begins with a byte of its own kind, which bytes of another
kind continue. -/
theorem encodeChar_cases (char : Char) :
    (char.toNat < 0x80 ∧ String.utf8EncodeChar char = [UInt8.ofNat char.toNat]) ∨
    (0x80 ≤ char.toNat ∧ ∃ lead rest, String.utf8EncodeChar char = lead :: rest ∧
      0xC0 ≤ lead.toNat ∧ ∀ byte ∈ rest, 0x80 ≤ byte.toNat ∧ byte.toNat < 0xC0) := by
  have valid : char.val.toNat < 0xD800 ∨ 0xDFFF < char.val.toNat ∧ char.val.toNat < 0x110000 :=
    char.valid
  rw [show char.toNat = char.val.toNat from rfl]
  -- One case for each number of bytes.
  unfold String.utf8EncodeChar
  generalize char.val.toNat = code at valid ⊢
  have byte {value : Nat} (small : value < 256) : (UInt8.ofNat value).toNat = value :=
    UInt8.toNat_ofNat_of_lt small
  have continues (value : Nat) : 0x80 ≤ (UInt8.ofNat (value % 64 + 128)).toNat ∧
      (UInt8.ofNat (value % 64 + 128)).toNat < 0xC0 := by
    rw [byte (by omega)]
    omega
  dsimp only
  split
  · exact .inl ⟨by omega, rfl⟩
  split
  · refine .inr ⟨by omega, _, _, rfl, by rw [byte (by omega)]; omega, ?_⟩
    simpa using continues code
  split
  · refine .inr ⟨by omega, _, _, rfl, by rw [byte (by omega)]; omega, ?_⟩
    simpa using ⟨continues (code / 64), continues code⟩
  · refine .inr ⟨by omega, _, _, rfl, by rw [byte (by omega)]; omega, ?_⟩
    simpa using ⟨continues (code / 4096), continues (code / 64), continues code⟩

theorem length_encodeAll_cons (char : Char) (rest : List Char) :
    (encodeAll (char :: rest)).length = char.utf8Size + (encodeAll rest).length := by
  rw [encodeAll_cons, List.length_append, String.length_utf8EncodeChar]

theorem isBoundary_zero (bytes : Bytes) : isBoundary bytes 0 = true := if_pos rfl

/-- What stands in front of a character does not decide whether places behind its first byte are between
characters. -/
theorem isBoundary_append {front back : Bytes} {place : Nat} (nonempty : front ≠ [])
    (behind : 0 < place) : isBoundary (front ++ back) (front.length + place) = isBoundary back place := by
  have inFront : front.length ≠ 0 := fun empty => nonempty (List.eq_nil_of_length_eq_zero empty)
  rw [isBoundary, isBoundary, if_neg (by omega), if_neg (by omega), List.getElem?_append_right (by omega),
    Nat.add_sub_cancel_left]
  cases back[place]? with
  | some byte => rfl
  | none => simp

theorem not_isBoundary_of_continues {bytes : Bytes} {place : Nat} {byte : UInt8} (behind : place ≠ 0)
    (found : bytes[place]? = some byte) (least : 0x80 ≤ byte.toNat) (most : byte.toNat < 0xC0) :
    isBoundary bytes place = false := by
  have continues : 0x80 ≤ byte ∧ byte < 0xC0 :=
    ⟨UInt8.le_iff_toNat_le.mpr least, UInt8.lt_iff_toNat_lt.mpr most⟩
  rw [isBoundary, if_neg behind, found]
  simp [continues]

theorem cut?_append (front back : List Char) :
    cut? (front ++ back) (encodeAll front).length = some back := by
  induction front with
  | nil => cases back <;> rfl
  | cons char rest ih =>
    have wide := char.utf8Size_pos
    rw [length_encodeAll_cons, List.cons_append, cut?, if_pos (Nat.le_add_right ..), Nat.add_sub_cancel_left,
      ih]
    omega

theorem exists_front_of_cut? {chars back : List Char} {place : Nat} (cut : cut? chars place = some back) :
    ∃ front, chars = front ++ back ∧ place = (encodeAll front).length := by
  fun_induction cut? chars place with
  | case1 chars =>
    obtain rfl := Option.some.inj cut
    exact ⟨[], rfl, rfl⟩
  | case2 => exact nomatch cut
  | case3 char rest place _ inside ih =>
    obtain ⟨front, rfl, rest_eq⟩ := ih cut
    refine ⟨char :: front, rfl, ?_⟩
    rw [length_encodeAll_cons]
    omega
  | case4 => exact nomatch cut

/-- A place inside of a character is in front of a byte that continues it. -/
theorem utf8Size_le_of_isBoundary {char : Char} {bytes : Bytes} {place : Nat} (behind : 0 < place)
    (boundary : isBoundary (String.utf8EncodeChar char ++ bytes) place = true) : char.utf8Size ≤ place := by
  have width := String.length_utf8EncodeChar char
  refine Nat.le_of_not_lt fun inside => ?_
  rcases encodeChar_cases char with ⟨-, single⟩ | ⟨-, lead, others, spelled, -, continues⟩
  · rw [single, List.length_singleton] at width
    omega
  · obtain ⟨before, rfl⟩ := Nat.exists_eq_succ_of_ne_zero (Nat.ne_of_gt behind)
    have present : before < others.length := by
      rw [spelled, List.length_cons] at width
      omega
    have found : (String.utf8EncodeChar char ++ bytes)[before + 1]? = some others[before] := by
      rw [spelled, List.cons_append, List.getElem?_cons_succ, List.getElem?_append_left present,
        List.getElem?_eq_getElem present]
    obtain ⟨least, most⟩ := continues _ (List.getElem_mem present)
    rw [not_isBoundary_of_continues (Nat.succ_ne_zero before) found least most] at boundary
    exact nomatch boundary

/-- At a place that the bytes show to be between characters, a name can be cut. -/
theorem exists_cut?_of_isBoundary {chars : List Char} {place : Nat}
    (boundary : isBoundary (encodeAll chars) place = true) : ∃ back, cut? chars place = some back := by
  induction chars generalizing place with
  | nil =>
    cases place with
    | zero => exact ⟨[], rfl⟩
    | succ place => simp [isBoundary, encodeAll] at boundary
  | cons char rest ih =>
    rcases Nat.eq_zero_or_pos place with rfl | behind
    · exact ⟨char :: rest, rfl⟩
    rw [encodeAll_cons] at boundary
    have passed := utf8Size_le_of_isBoundary behind boundary
    have further : isBoundary (encodeAll rest) (place - char.utf8Size) = true := by
      rcases Nat.eq_zero_or_pos (place - char.utf8Size) with zero | later
      · rw [zero, isBoundary_zero]
      · rw [← isBoundary_append String.utf8EncodeChar_ne_nil later, String.length_utf8EncodeChar,
          Nat.add_sub_cancel' passed]
        exact boundary
    obtain ⟨back, cut⟩ := ih further
    refine ⟨back, ?_⟩
    rw [cut?, if_pos passed, cut]
    omega

theorem isBoundary_encodeAll (front back : List Char) :
    isBoundary (encodeAll (front ++ back)) (encodeAll front).length = true := by
  rw [isBoundary]
  split
  · rfl
  rw [encodeAll_append, List.getElem?_append_right (Nat.le_refl _), Nat.sub_self]
  cases back with
  | nil => simp [encodeAll]
  | cons char rest =>
    have begins : ∃ lead others, String.utf8EncodeChar char = lead :: others ∧
        (lead.toNat < 0x80 ∨ 0xC0 ≤ lead.toNat) := by
      rcases encodeChar_cases char with ⟨small, single⟩ | ⟨-, lead, others, spelled, least, -⟩
      · have byte : (UInt8.ofNat char.toNat).toNat = char.toNat :=
          UInt8.toNat_ofNat_of_lt (Nat.lt_trans small (by decide))
        exact ⟨_, [], single, .inl (by rwa [byte])⟩
      · exact ⟨lead, others, spelled, .inr least⟩
    obtain ⟨lead, others, spelled, kind⟩ := begins
    have starts : ¬ (0x80 ≤ lead ∧ lead < 0xC0) := by
      simp only [UInt8.le_iff_toNat_le, UInt8.lt_iff_toNat_lt, UInt8.reduceToNat]
      omega
    rw [encodeAll_cons, spelled]
    simp [starts]

/-! ## Endings in ASCII -/

theorem lowerByte_of_high {byte : UInt8} (high : 0x80 ≤ byte.toNat) : lowerByte byte = byte := by
  have noCapital : ¬ (0x41 ≤ byte ∧ byte ≤ 0x5A) := by
    simp only [UInt8.le_iff_toNat_le, UInt8.reduceToNat]
    omega
  rw [lowerByte, if_neg noCapital]

/-- A capital is made small in its byte as in itself. -/
theorem lowerByte_ofNat {char : Char} (ascii : char.toNat < 0x80) :
    lowerByte (UInt8.ofNat char.toNat) = UInt8.ofNat char.toLower.toNat ∧ char.toLower.toNat < 0x80 := by
  have all : ∀ code < 0x80, lowerByte (UInt8.ofNat code) = UInt8.ofNat (Char.ofNat code).toLower.toNat ∧
      (Char.ofNat code).toLower.toNat < 0x80 := by
    decide +kernel
  have held := all char.toNat ascii
  rwa [Char.ofNat_toNat] at held

/-- Bytes of ASCII determine their character. -/
theorem char_eq_of_byte_eq {char other : Char} (ascii : char.toNat < 0x80) (ascii' : other.toNat < 0x80)
    (same : UInt8.ofNat char.toNat = UInt8.ofNat other.toNat) : char = other := by
  have numbers := congrArg UInt8.toNat same
  rw [UInt8.toNat_ofNat', UInt8.toNat_ofNat', Nat.mod_eq_of_lt (by omega), Nat.mod_eq_of_lt (by omega)]
    at numbers
  rw [← Char.ofNat_toNat char, numbers, Char.ofNat_toNat]

/-- Bytes compare with an ASCII text, up to case, as their characters do. -/
theorem map_lowerByte_encodeAll_iff {back wanted : List Char} (ascii : ∀ char ∈ wanted, char.toNat < 0x80) :
    (encodeAll back).map lowerByte = wanted.map (fun char => UInt8.ofNat char.toNat) ↔
      back.map Char.toLower = wanted := by
  induction back generalizing wanted with
  | nil => cases wanted <;> simp [encodeAll]
  | cons char rest ih =>
    cases wanted with
    | nil => simp [encodeAll, String.utf8EncodeChar_ne_nil]
    | cons first others =>
      obtain ⟨asciiFirst, asciiOthers⟩ := List.forall_mem_cons.mp ascii
      rcases encodeChar_cases char with ⟨small, single⟩ | ⟨large, lead, more, spelled, least, -⟩
      · obtain ⟨lowered, asciiLowered⟩ := lowerByte_ofNat small
        rw [encodeAll_cons, single, List.singleton_append, List.map_cons, List.map_cons, lowered,
          List.map_cons, List.cons.injEq, List.cons.injEq, ih asciiOthers]
        exact and_congr_left fun _ =>
          ⟨char_eq_of_byte_eq asciiLowered asciiFirst, fun same => by rw [same]⟩
      · -- The first byte is no ASCII, and neither is the character.
        constructor
        · intro same
          rw [encodeAll_cons, spelled, List.cons_append, List.map_cons, List.map_cons,
            lowerByte_of_high (by omega)] at same
          have leads := congrArg UInt8.toNat (List.cons.inj same).1
          rw [UInt8.toNat_ofNat', Nat.mod_eq_of_lt (by omega)] at leads
          omega
        · intro same
          have begins := (List.cons.inj same).1
          rw [toLower_eq_self (.inr (by omega))] at begins
          rw [begins] at large
          omega

end Utf8

/-! ## Suffixes up to case -/

/-- A character stands for itself, and a capital of ASCII for its small letter. -/
def StandsFor (found wanted : Char) : Prop :=
  found = wanted ∨ 'A' ≤ found ∧ found ≤ 'Z' ∧ wanted.toNat = found.toNat + 0x20

/-- The last characters of a name spell a suffix, up to capitals of ASCII. -/
def SpellsSuffix (name suffix : String) : Prop :=
  ∃ front back, name = front ++ back ∧ List.Forall₂ StandsFor back.toList suffix.toList

/-- A suffix in ASCII without capitals. -/
def IsSmall (suffix : List Char) : Prop := ∀ char ∈ suffix, char.toNat < 0x80 ∧ char.toLower = char

instance (suffix : List Char) : Decidable (IsSmall suffix) :=
  List.decidableBAll (fun char : Char => char.toNat < 0x80 ∧ char.toLower = char) suffix

theorem toNat_toLower_of_capital {char : Char} (least : 'A' ≤ char) (most : char ≤ 'Z') :
    char.toLower.toNat = char.toNat + 0x20 := by
  have all : ∀ code ≤ 0x5A, 0x41 ≤ code → (Char.ofNat code).toLower.toNat = code + 0x20 := by
    decide +kernel
  have held := all char.toNat (UInt32.le_iff_toNat_le.mp most) (UInt32.le_iff_toNat_le.mp least)
  rwa [Char.ofNat_toNat] at held

theorem toLower_eq_iff {found wanted : Char} (small : wanted.toLower = wanted) :
    found.toLower = wanted ↔ StandsFor found wanted := by
  constructor
  · rintro rfl
    by_cases capital : 'A' ≤ found ∧ found ≤ 'Z'
    · exact .inr ⟨capital.1, capital.2, toNat_toLower_of_capital capital.1 capital.2⟩
    · exact .inl (show found.toLower = found from dif_neg capital).symm
  · rintro (rfl | ⟨least, most, number⟩)
    · exact small
    · rw [← Char.ofNat_toNat found.toLower, toNat_toLower_of_capital least most, ← number,
        Char.ofNat_toNat]

theorem map_toLower_eq_iff {back wanted : List Char} (small : IsSmall wanted) :
    back.map Char.toLower = wanted ↔ List.Forall₂ StandsFor back wanted := by
  induction back generalizing wanted with
  | nil => simp [eq_comm]
  | cons char rest ih =>
    cases wanted with
    | nil => simp
    | cons first others =>
      obtain ⟨smallFirst, smallOthers⟩ := List.forall_mem_cons.mp small
      rw [List.map_cons, List.cons.injEq, List.forall₂_cons, toLower_eq_iff smallFirst.2, ih smallOthers]

theorem endsWith_iff_spellsSuffix {suffix : String} (small : IsSmall suffix.toList) (name : String) :
    endsWith suffix.toList name.toList = true ↔ SpellsSuffix name suffix := by
  rw [endsWith_iff]
  constructor
  · rintro ⟨front, back, split, spelled⟩
    refine ⟨String.ofList front, String.ofList back, ?_, ?_⟩
    · rw [← String.ofList_append, ← split, String.ofList_toList]
    · rw [String.toList_ofList]
      exact (map_toLower_eq_iff small).mp spelled
  · rintro ⟨front, back, rfl, spelled⟩
    exact ⟨front.toList, back.toList, String.toList_append, (map_toLower_eq_iff small).mpr spelled⟩

theorem endsWith_append {suffix back : List Char} (front : List Char)
    (long : suffix.length ≤ back.length) : endsWith suffix (front ++ back) = endsWith suffix back := by
  rw [Bool.eq_iff_iff, endsWith, endsWith, List.isPrefixOf_iff_prefix, List.isPrefixOf_iff_prefix,
    List.reverse_append, List.map_append]
  constructor
  · intro begins
    exact List.prefix_of_prefix_length_le begins (List.prefix_append ..) (by simpa using long)
  · intro begins
    exact begins.trans (List.prefix_append ..)

/-- Of two suffixes of one name one ends in the other. -/
theorem suffix_or_suffix_of_endsWith {first second name : List Char} (endsFirst : endsWith first name = true)
    (endsSecond : endsWith second name = true) : first <:+ second ∨ second <:+ first := by
  rw [endsWith, List.isPrefixOf_iff_prefix] at endsFirst endsSecond
  simpa only [List.reverse_prefix] using List.prefix_or_prefix_of_prefix endsFirst endsSecond

/-! ## Suffixes in memory -/

/-- No name is cut inside of a character, whatever the suffix. -/
theorem exists_hasEnding? (suffix name : String) : ∃ result, hasEnding? suffix name = some result := by
  simp only [hasEnding?, Utf8.encode_eq_encodeAll name]
  split
  · next found =>
    obtain ⟨back, cut⟩ := Utf8.exists_cut?_of_isBoundary found.2
    rw [cut]
    exact ⟨_, rfl⟩
  · exact ⟨false, rfl⟩

/-- What is found at the end of a name is the bytes of its last characters. -/
theorem hasEnding?_eq_true_iff (suffix name : String) :
    hasEnding? suffix name = some true ↔
      ∃ front back, name.toList = front ++ back ∧
        (Utf8.encodeAll back).map Utf8.lowerByte
          = (Utf8.encodeAll suffix.toList).map Utf8.lowerByte := by
  simp only [hasEnding?, Utf8.encode_eq_encodeAll, String.toList_ofList]
  constructor
  · intro found
    split at found
    · obtain ⟨back, cut, compared⟩ := Option.bind_eq_some_iff.mp found
      obtain ⟨front, split, -⟩ := Utf8.exists_front_of_cut? cut
      exact ⟨front, back, split, beq_iff_eq.mp (Option.some.inj compared)⟩
    · exact nomatch found
  · rintro ⟨front, back, split, same⟩
    have width : (Utf8.encodeAll back).length = (Utf8.encodeAll suffix.toList).length := by
      simpa using congrArg List.length same
    have place : (Utf8.encodeAll (front ++ back)).length - (Utf8.encodeAll suffix.toList).length
        = (Utf8.encodeAll front).length := by
      rw [Utf8.encodeAll_append, List.length_append, width, Nat.add_sub_cancel]
    have enough : (Utf8.encodeAll suffix.toList).length ≤ (Utf8.encodeAll (front ++ back)).length := by
      rw [Utf8.encodeAll_append, List.length_append, width]
      exact Nat.le_add_left ..
    rw [split, place, if_pos ⟨enough, Utf8.isBoundary_encodeAll front back⟩, Utf8.cut?_append]
    exact congrArg some (beq_iff_eq.mpr same)

/-- The bytes at the end of a name are found to be a suffix exactly when its last characters spell it. -/
theorem hasEnding?_eq {suffix : String} (small : IsSmall suffix.toList) (name : String) :
    hasEnding? suffix name = some (endsWith suffix.toList name.toList) := by
  have ascii : ∀ char ∈ suffix.toList, char.toNat < 0x80 := fun char member => (small char member).1
  have unchanged : suffix.toList.map Char.toLower = suffix.toList :=
    (List.map_congr_left fun char member => (small char member).2).trans (List.map_id _)
  have alike : hasEnding? suffix name = some true ↔ endsWith suffix.toList name.toList = true := by
    rw [hasEnding?_eq_true_iff, (Utf8.map_lowerByte_encodeAll_iff ascii).mpr unchanged, endsWith_iff]
    simp only [Utf8.map_lowerByte_encodeAll_iff ascii]
  obtain ⟨result, found⟩ := exists_hasEnding? suffix name
  rw [found, Option.some.injEq] at alike ⊢
  exact Bool.eq_iff_iff.mpr alike

theorem anyM_eq_some {α : Type} {test : α → Option Bool} {result : α → Bool} {items : List α}
    (found : ∀ item ∈ items, test item = some (result item)) : items.anyM test = some (items.any result) := by
  induction items with
  | nil => rfl
  | cons first others ih =>
    obtain ⟨foundFirst, foundOthers⟩ := List.forall_mem_cons.mp found
    rw [List.anyM, foundFirst, List.any_cons]
    cases result first with
    | true => rfl
    | false => exact ih foundOthers

/-! ## Artifacts -/

theorem isSmall_classSuffix : IsSmall classSuffix := by decide

theorem isArchive_eq (name : String) :
    isArchive name = [".jar", ".war", ".ear", ".zip"].any fun suffix => endsWith suffix.toList name.toList :=
  rfl

theorem isClass_append (front : String) {back : String} (long : 6 ≤ back.length) :
    isClass (front ++ back) = isClass back := by
  rw [isClass, isClass, String.toList_append]
  exact endsWith_append front.toList (show 6 ≤ back.toList.length by rwa [String.length_toList])

theorem isArchive_append (front : String) {back : String} (long : 4 ≤ back.length) :
    isArchive (front ++ back) = isArchive back := by
  have width : ∀ suffix ∈ archiveSuffixes, suffix.length = 4 := by decide
  rw [Bool.eq_iff_iff, isArchive, isArchive, List.any_eq_true, List.any_eq_true, String.toList_append]
  refine exists_congr fun suffix => and_congr_right fun listed => ?_
  rw [endsWith_append front.toList (by rw [width suffix listed, String.length_toList]; exact long)]

/-- Artifacts are told apart by the last characters of their names, up to capitals of ASCII. Looking at the
bytes of a name in memory, whatever characters it holds, never ends the program, and finds just these. No
name is that of a class file and of an archive, and what stands in front of the suffix does not matter. -/
theorem artifact_suffixes_exact :
    (∀ name : String,
      hasClassEnding? name = some (isClass name) ∧ hasArchiveEnding? name = some (isArchive name) ∧
      (isClass name = true ↔ SpellsSuffix name ".class") ∧
      (isArchive name = true ↔ ∃ suffix ∈ [".jar", ".war", ".ear", ".zip"], SpellsSuffix name suffix) ∧
      ¬ (isClass name = true ∧ isArchive name = true)) ∧
    ∀ front other back : String,
      (6 ≤ back.length → isClass (front ++ back) = isClass (other ++ back)) ∧
      (4 ≤ back.length → isArchive (front ++ back) = isArchive (other ++ back)) := by
  have smallArchive : ∀ suffix ∈ [".jar", ".war", ".ear", ".zip"], IsSmall suffix.toList := by decide
  refine ⟨fun name => ⟨hasEnding?_eq isSmall_classSuffix name, ?_, ?_, ?_, ?_⟩,
    fun front other back => ⟨fun long => ?_, fun long => ?_⟩⟩
  · exact anyM_eq_some fun suffix listed => hasEnding?_eq (smallArchive suffix listed) name
  · exact endsWith_iff_spellsSuffix isSmall_classSuffix name
  · rw [isArchive_eq, List.any_eq_true]
    exact exists_congr fun suffix => and_congr_right fun listed =>
      endsWith_iff_spellsSuffix (smallArchive suffix listed) name
  · rintro ⟨ofClass, ofArchive⟩
    obtain ⟨suffix, listed, ends⟩ := List.any_eq_true.mp ofArchive
    have apart : ∀ suffix ∈ archiveSuffixes, ¬ (classSuffix <:+ suffix ∨ suffix <:+ classSuffix) := by
      decide
    exact apart suffix listed (suffix_or_suffix_of_endsWith ofClass ends)
  · rw [isClass_append front long, isClass_append other long]
  · rw [isArchive_append front long, isArchive_append other long]

/-- What stands in front of a suffix may be a character of several bytes. -/
theorem artifact_suffixes_exact_accented :
    6 ≤ "A.Class".length ∧ isClass ("é" ++ "A.Class") = isClass ("" ++ "A.Class") ∧
      4 ≤ ".JAR".length ∧ isArchive ("é" ++ ".JAR") = isArchive ("" ++ ".JAR") ∧
      hasClassEnding? "é" = some (isClass "é") := by
  have byClass : 6 ≤ "A.Class".length := by decide
  have byArchive : 4 ≤ ".JAR".length := by decide
  exact ⟨byClass, (artifact_suffixes_exact.2 "é" "" "A.Class").1 byClass, byArchive,
    (artifact_suffixes_exact.2 "é" "" ".JAR").2 byArchive, (artifact_suffixes_exact.1 "é").1⟩

end Unannotate
