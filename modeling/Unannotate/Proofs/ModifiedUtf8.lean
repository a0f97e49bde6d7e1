import Unannotate.ModifiedUtf8

/-!
# Modified UTF-8 is read exactly

Bytes can be read exactly when they are a sequence of spelled 16-bit units, and the text is what the units
stand for in UTF-16, with a replacement character for each surrogate that has no partner. Plain bytes are
read alike with units and without. Text is read back from its encoding.
-/
set_option autoImplicit false

namespace Unannotate.ModifiedUtf8

/-! ## Units -/

/-- A byte behind the first one of a spelling. -/
def Follows (byte : UInt8) : Prop := 0x80 ≤ byte.toNat ∧ byte.toNat ≤ 0xBF

instance (byte : UInt8) : Decidable (Follows byte) := inferInstanceAs (Decidable (_ ∧ _))

/-- The spellings of one unit. The first byte says how many there are, and a unit may be spelled longer
than it has to be. -/
inductive SpellsUnit : Nat → Bytes → Prop
  | one {first : UInt8} (least : 0x01 ≤ first.toNat) (most : first.toNat ≤ 0x7F) :
      SpellsUnit first.toNat [first]
  | two {first second : UInt8} (least : 0xC0 ≤ first.toNat) (most : first.toNat ≤ 0xDF)
      (next : Follows second) :
      SpellsUnit ((first.toNat - 0xC0) * 64 + (second.toNat - 0x80)) [first, second]
  | three {first second third : UInt8} (least : 0xE0 ≤ first.toNat) (most : first.toNat ≤ 0xEF)
      (next : Follows second) (last : Follows third) :
      SpellsUnit
        ((first.toNat - 0xE0) * 4096 + (second.toNat - 0x80) * 64 + (third.toNat - 0x80))
        [first, second, third]

inductive Spells : List Nat → Bytes → Prop
  | nil : Spells [] []
  | cons {unit : Nat} {spelling : Bytes} {units : List Nat} {bytes : Bytes}
      (first : SpellsUnit unit spelling) (rest : Spells units bytes) :
      Spells (unit :: units) (spelling ++ bytes)

theorem SpellsUnit.lt {unit : Nat} {spelling : Bytes} (spells : SpellsUnit unit spelling) :
    unit < 0x10000 := by
  cases spells with
  | one => omega
  | two least most next =>
    obtain ⟨-, high⟩ := next
    omega
  | three least most next last =>
    obtain ⟨-, high⟩ := next
    obtain ⟨-, top⟩ := last
    omega

theorem Spells.lt {units : List Nat} {bytes : Bytes} (spells : Spells units bytes) :
    ∀ unit ∈ units, unit < 0x10000 := by
  induction spells with
  | nil => simp
  | cons first _ ih => exact List.forall_mem_cons.mpr ⟨first.lt, ih⟩

theorem isContinuation_iff (byte : UInt8) : isContinuation byte = true ↔ Follows byte := by
  have all : ∀ value < 256, isContinuation (UInt8.ofNat value) = true ↔ 0x80 ≤ value ∧ value ≤ 0xBF := by
    decide +kernel
  simpa [Follows] using all byte.toNat byte.toNat_lt

theorem payload_eq {byte : UInt8} (next : Follows byte) : payload byte = byte.toNat - 0x80 := by
  obtain ⟨low, high⟩ := next
  have masked : byte.toNat &&& 0x3F = byte.toNat % 64 := Nat.and_two_pow_sub_one_eq_mod _ 6
  rw [payload, UInt8.toNat_and]
  simp only [UInt8.reduceToNat, masked]
  omega

theorem toNat_lead_two {first : UInt8} (least : 0xC0 ≤ first.toNat) (most : first.toNat ≤ 0xDF) :
    (first &&& 0x1F).toNat = first.toNat - 0xC0 := by
  have masked : first.toNat &&& 0x1F = first.toNat % 32 := Nat.and_two_pow_sub_one_eq_mod _ 5
  rw [UInt8.toNat_and]
  simp only [UInt8.reduceToNat, masked]
  omega

theorem toNat_lead_three {first : UInt8} (least : 0xE0 ≤ first.toNat) (most : first.toNat ≤ 0xEF) :
    (first &&& 0x0F).toNat = first.toNat - 0xE0 := by
  have masked : first.toNat &&& 0x0F = first.toNat % 16 := Nat.and_two_pow_sub_one_eq_mod _ 4
  rw [UInt8.toNat_and]
  simp only [UInt8.reduceToNat, masked]
  omega

/-- A spelled unit in front is read, whatever stands behind it. -/
theorem units_append {unit : Nat} {spelling : Bytes} (spells : SpellsUnit unit spelling) (bytes : Bytes) :
    units (spelling ++ bytes) = (units bytes).map (unit :: ·) := by
  cases spells with
  | @one first least most =>
    have range : 0x01 ≤ first ∧ first ≤ 0x7F := by
      simp only [UInt8.le_iff_toNat_le, UInt8.reduceToNat]
      omega
    rw [List.cons_append, List.nil_append, units.eq_def]
    simp only [if_pos range]
  | @two first second least most next =>
    have short : ¬ (0x01 ≤ first ∧ first ≤ 0x7F) := by
      simp only [UInt8.le_iff_toNat_le, UInt8.reduceToNat]
      omega
    have range : 0xC0 ≤ first ∧ first ≤ 0xDF := by
      simp only [UInt8.le_iff_toNat_le, UInt8.reduceToNat]
      omega
    rw [List.cons_append, List.cons_append, List.nil_append, units.eq_def]
    simp only [if_neg short, if_pos range, if_pos ((isContinuation_iff second).mpr next),
      toNat_lead_two least most, payload_eq next]
  | @three first second third least most next last =>
    have short : ¬ (0x01 ≤ first ∧ first ≤ 0x7F) := by
      simp only [UInt8.le_iff_toNat_le, UInt8.reduceToNat]
      omega
    have medium : ¬ (0xC0 ≤ first ∧ first ≤ 0xDF) := by
      simp only [UInt8.le_iff_toNat_le, UInt8.reduceToNat]
      omega
    have range : 0xE0 ≤ first ∧ first ≤ 0xEF := by
      simp only [UInt8.le_iff_toNat_le, UInt8.reduceToNat]
      omega
    have both : isContinuation second = true ∧ isContinuation third = true :=
      ⟨(isContinuation_iff second).mpr next, (isContinuation_iff third).mpr last⟩
    rw [List.cons_append, List.cons_append, List.cons_append, List.nil_append, units.eq_def]
    simp only [if_neg short, if_neg medium, if_pos range, if_pos both, toNat_lead_three least most,
      payload_eq next, payload_eq last]

theorem map_eq_ok_iff {α β : Type} {result : Except Malformation α} {change : α → β} {value : β} :
    result.map change = .ok value ↔ ∃ part, result = .ok part ∧ change part = value := by
  cases result with
  | error fault => simp [Except.map]
  | ok part => simp [Except.map]

theorem units_eq_ok_iff {bytes : Bytes} {list : List Nat} :
    units bytes = .ok list ↔ Spells list bytes := by
  constructor
  · intro read
    fun_induction units bytes generalizing list with
    | case1 =>
      cases read
      exact .nil
    | case2 first rest range ih =>
      obtain ⟨others, later, rfl⟩ := map_eq_ok_iff.mp read
      simp only [UInt8.le_iff_toNat_le, UInt8.reduceToNat] at range
      exact .cons (.one range.1 range.2) (ih later)
    | case3 first short range second rest next ih =>
      obtain ⟨others, later, rfl⟩ := map_eq_ok_iff.mp read
      simp only [UInt8.le_iff_toNat_le, UInt8.reduceToNat] at range
      have following := (isContinuation_iff second).mp next
      rw [toNat_lead_two range.1 range.2, payload_eq following]
      exact .cons (.two range.1 range.2 following) (ih later)
    | case6 first short medium range second third rest next ih =>
      obtain ⟨others, later, rfl⟩ := map_eq_ok_iff.mp read
      simp only [UInt8.le_iff_toNat_le, UInt8.reduceToNat] at range
      have following := (isContinuation_iff second).mp next.1
      have last := (isContinuation_iff third).mp next.2
      rw [toNat_lead_three range.1 range.2, payload_eq following, payload_eq last]
      exact .cons (.three range.1 range.2 following last) (ih later)
    | case4 | case5 | case7 | case8 | case9 => cases read
  · intro spells
    induction spells with
    | nil => rfl
    | cons first _ ih =>
      rw [units_append first, ih]
      rfl

/-! ## Characters -/

/-- The text that units stand for. A surrogate has no partner when it is a low one, or a high one with no
low one behind it; each low one behind a high one has been taken with it. -/
inductive Shows : List Nat → List Char → Prop
  | nil : Shows [] []
  | character {units : List Nat} {chars : List Char} (char : Char) (rest : Shows units chars) :
      Shows (unitsOfChar char ++ units) (char :: chars)
  | unpaired {unit : Nat} {units : List Nat} {chars : List Char}
      (surrogate : 0xD800 ≤ unit ∧ unit ≤ 0xDFFF)
      (alone : unit ≤ 0xDBFF → ∀ next ∈ units.head?, ¬ (0xDC00 ≤ next ∧ next ≤ 0xDFFF))
      (rest : Shows units chars) :
      Shows (unit :: units) ('\ufffd' :: chars)

theorem isHighSurrogate_iff (unit : Nat) :
    isHighSurrogate unit = true ↔ 0xD800 ≤ unit ∧ unit ≤ 0xDBFF := decide_eq_true_iff

theorem isLowSurrogate_iff (unit : Nat) :
    isLowSurrogate unit = true ↔ 0xDC00 ≤ unit ∧ unit ≤ 0xDFFF := decide_eq_true_iff

theorem isSurrogate_iff (unit : Nat) :
    isHighSurrogate unit = true ∨ isLowSurrogate unit = true ↔ 0xD800 ≤ unit ∧ unit ≤ 0xDFFF := by
  rw [isHighSurrogate_iff, isLowSurrogate_iff]
  omega

theorem characters_plain {unit : Nat} (plain : ¬ (0xD800 ≤ unit ∧ unit ≤ 0xDFFF)) (units : List Nat) :
    characters (unit :: units) = Char.ofNat unit :: characters units := by
  have apart : ¬ (isHighSurrogate unit = true ∨ isLowSurrogate unit = true) :=
    fun surrogate => plain ((isSurrogate_iff unit).mp surrogate)
  cases units with
  | nil => simp only [characters, if_neg apart]
  | cons next rest => rw [characters, if_neg fun pair => apart (.inl pair.1), if_neg apart]

theorem characters_unpaired {unit : Nat} {units : List Nat}
    (surrogate : 0xD800 ≤ unit ∧ unit ≤ 0xDFFF)
    (alone : unit ≤ 0xDBFF → ∀ next ∈ units.head?, ¬ (0xDC00 ≤ next ∧ next ≤ 0xDFFF)) :
    characters (unit :: units) = replacement :: characters units := by
  have known := (isSurrogate_iff unit).mpr surrogate
  cases units with
  | nil => simp only [characters, if_pos known]
  | cons next rest =>
    have apart : ¬ (isHighSurrogate unit = true ∧ isLowSurrogate next = true) := by
      rw [isHighSurrogate_iff, isLowSurrogate_iff]
      exact fun pair => alone pair.1.2 next rfl pair.2
    rw [characters, if_neg apart, if_pos known]

theorem characters_pair {high low : Nat} (first : 0xD800 ≤ high ∧ high ≤ 0xDBFF)
    (second : 0xDC00 ≤ low ∧ low ≤ 0xDFFF) (units : List Nat) :
    characters (high :: low :: units)
      = Char.ofNat (0x10000 + (high - 0xD800) * 0x400 + (low - 0xDC00)) :: characters units := by
  rw [characters, if_pos ⟨(isHighSurrogate_iff high).mpr first, (isLowSurrogate_iff low).mpr second⟩]

theorem characters_unitsOfChar (char : Char) (units : List Nat) :
    characters (unitsOfChar char ++ units) = char :: characters units := by
  have valid : char.toNat < 0xD800 ∨ 0xDFFF < char.toNat ∧ char.toNat < 0x110000 := char.valid
  rw [unitsOfChar]
  split
  · rw [List.cons_append, List.nil_append, characters_plain (by omega), Char.ofNat_toNat]
  · have whole : 0x10000 + (0xD800 + (char.toNat - 0x10000) / 0x400 - 0xD800) * 0x400
        + (0xDC00 + (char.toNat - 0x10000) % 0x400 - 0xDC00) = char.toNat := by omega
    rw [List.cons_append, List.cons_append, List.nil_append, characters_pair (by omega) (by omega),
      whole, Char.ofNat_toNat]

theorem unitsOfChar_ofNat {point : Nat} (valid : point < 0xD800 ∨ 0xDFFF < point ∧ point < 0x110000) :
    unitsOfChar (Char.ofNat point) =
      if point < 0x10000 then [point]
      else [0xD800 + (point - 0x10000) / 0x400, 0xDC00 + (point - 0x10000) % 0x400] := by
  have number : (Char.ofNat point).toNat = point := by
    rw [Char.ofNat, dif_pos valid]
    rfl
  rw [unitsOfChar, number]

theorem Shows.plain {unit : Nat} {units : List Nat} {chars : List Char} (small : unit < 0x10000)
    (plain : ¬ (0xD800 ≤ unit ∧ unit ≤ 0xDFFF)) (rest : Shows units chars) :
    Shows (unit :: units) (Char.ofNat unit :: chars) := by
  have spelled := @unitsOfChar_ofNat unit (by omega)
  rw [if_pos small] at spelled
  have shows := Shows.character (Char.ofNat unit) rest
  rwa [spelled] at shows

theorem Shows.pair {high low : Nat} {units : List Nat} {chars : List Char}
    (first : 0xD800 ≤ high ∧ high ≤ 0xDBFF) (second : 0xDC00 ≤ low ∧ low ≤ 0xDFFF)
    (rest : Shows units chars) :
    Shows (high :: low :: units)
      (Char.ofNat (0x10000 + (high - 0xD800) * 0x400 + (low - 0xDC00)) :: chars) := by
  have spelled := @unitsOfChar_ofNat (0x10000 + (high - 0xD800) * 0x400 + (low - 0xDC00)) (by omega)
  have upper : 0xD800 + (0x10000 + (high - 0xD800) * 0x400 + (low - 0xDC00) - 0x10000) / 0x400
      = high := by omega
  have lower : 0xDC00 + (0x10000 + (high - 0xD800) * 0x400 + (low - 0xDC00) - 0x10000) % 0x400
      = low := by omega
  rw [if_neg (by omega), upper, lower] at spelled
  have shows := Shows.character
    (Char.ofNat (0x10000 + (high - 0xD800) * 0x400 + (low - 0xDC00))) rest
  rwa [spelled] at shows

theorem shows_characters {units : List Nat} (bounds : ∀ unit ∈ units, unit < 0x10000) :
    Shows units (characters units) := by
  fun_induction characters units with
  | case1 => exact .nil
  | case2 unit surrogate =>
    exact .unpaired ((isSurrogate_iff unit).mp surrogate) (by simp) .nil
  | case3 unit plain =>
    rw [isSurrogate_iff] at plain
    exact .plain (bounds unit List.mem_cons_self) plain .nil
  | case4 unit next rest pair ih =>
    rw [isHighSurrogate_iff, isLowSurrogate_iff] at pair
    exact .pair pair.1 pair.2 (ih fun other member => bounds other (by simp [member]))
  | case5 unit next rest apart surrogate ih =>
    rw [isHighSurrogate_iff, isLowSurrogate_iff] at apart
    have known := (isSurrogate_iff unit).mp surrogate
    refine .unpaired known ?_ (ih fun other member => bounds other (List.mem_cons_of_mem _ member))
    rintro high _ ⟨⟩ low
    exact apart ⟨⟨known.1, high⟩, low⟩
  | case6 unit next rest apart plain ih =>
    rw [isSurrogate_iff] at plain
    have later := ih fun other member => bounds other (List.mem_cons_of_mem _ member)
    exact .plain (bounds unit List.mem_cons_self) plain later

theorem characters_eq_of_shows {units : List Nat} {chars : List Char} (shows : Shows units chars) :
    characters units = chars := by
  induction shows with
  | nil => rfl
  | character char _ ih => rw [characters_unitsOfChar, ih]
  | unpaired surrogate alone _ ih =>
    rw [characters_unpaired surrogate alone, ih]
    rfl

/-! ## Whole texts -/

theorem decodeUnits_eq_ok_iff {bytes : Bytes} {text : String} :
    decodeUnits bytes = .ok text ↔ ∃ units, Spells units bytes ∧ Shows units text.toList := by
  rw [decodeUnits, map_eq_ok_iff]
  refine exists_congr fun list => ?_
  rw [units_eq_ok_iff]
  refine and_congr_right fun spells => ?_
  constructor
  · rintro rfl
    rw [String.toList_ofList]
    exact shows_characters spells.lt
  · intro shows
    rw [characters_eq_of_shows shows, String.ofList_toList]

theorem plain_iff (byte : UInt8) : isPlain byte = true ↔ 0x01 ≤ byte.toNat ∧ byte.toNat ≤ 0x7F := by
  simp only [isPlain, decide_eq_true_eq, UInt8.le_iff_toNat_le, UInt8.lt_iff_toNat_lt,
    UInt8.reduceToNat]
  omega

/-- Plain bytes are units of one byte each, and none of these is a surrogate. -/
theorem decodeUnits_of_plain {bytes : Bytes} (plain : bytes.all isPlain = true) :
    decodeUnits bytes = .ok (decodePlain bytes) := by
  have read : units bytes = .ok (bytes.map UInt8.toNat)
      ∧ characters (bytes.map UInt8.toNat) = bytes.map fun byte => Char.ofNat byte.toNat := by
    induction bytes with
    | nil => exact ⟨rfl, rfl⟩
    | cons byte rest ih =>
      rw [List.all_cons, Bool.and_eq_true, plain_iff] at plain
      obtain ⟨⟨least, most⟩, others⟩ := plain
      obtain ⟨spelled, shown⟩ := ih others
      constructor
      · have first := units_append (.one least most) rest
        rw [List.cons_append, List.nil_append, spelled] at first
        exact first
      · rw [List.map_cons, List.map_cons, characters_plain (by omega), shown]
  rw [decodeUnits, read.1]
  exact congrArg (fun chars => Except.ok (String.ofList chars)) read.2

theorem decode_eq_decodeUnits (bytes : Bytes) : decode bytes = decodeUnits bytes := by
  unfold decode
  split
  · next plain => exact (decodeUnits_of_plain plain).symm
  · rfl

/-! ## Encoding -/

theorem spellsUnit_encodeUnit {unit : Nat} (small : unit < 0x10000) :
    SpellsUnit unit (encodeUnit unit) := by
  have byte {value : Nat} (fits : value < 256) : (UInt8.ofNat value).toNat = value :=
    UInt8.toNat_ofNat_of_lt fits
  have last : (UInt8.ofNat (0x80 + unit % 64)).toNat = 0x80 + unit % 64 := byte (by omega)
  have lastFollows : Follows (UInt8.ofNat (0x80 + unit % 64)) := by
    rw [Follows, last]
    omega
  unfold encodeUnit
  split
  · next one =>
    have first : (UInt8.ofNat unit).toNat = unit := byte (by omega)
    have spells := @SpellsUnit.one (UInt8.ofNat unit) (by omega) (by omega)
    rwa [first] at spells
  split
  · next two =>
    have first : (UInt8.ofNat (0xC0 + unit / 64)).toNat = 0xC0 + unit / 64 := byte (by omega)
    have spells := @SpellsUnit.two (UInt8.ofNat (0xC0 + unit / 64)) _ (by omega) (by omega)
      lastFollows
    have number : (0xC0 + unit / 64 - 0xC0) * 64 + (0x80 + unit % 64 - 0x80) = unit := by omega
    rwa [first, last, number] at spells
  · have first : (UInt8.ofNat (0xE0 + unit / 4096)).toNat = 0xE0 + unit / 4096 := byte (by omega)
    have middle : (UInt8.ofNat (0x80 + unit / 64 % 64)).toNat = 0x80 + unit / 64 % 64 :=
      byte (by omega)
    have middleFollows : Follows (UInt8.ofNat (0x80 + unit / 64 % 64)) := by
      rw [Follows, middle]
      omega
    have spells := @SpellsUnit.three (UInt8.ofNat (0xE0 + unit / 4096)) _ _ (by omega)
      (by omega) middleFollows lastFollows
    have number : (0xE0 + unit / 4096 - 0xE0) * 4096 + (0x80 + unit / 64 % 64 - 0x80) * 64
        + (0x80 + unit % 64 - 0x80) = unit := by omega
    rwa [first, middle, last, number] at spells

theorem spells_flatMap_encodeUnit {units : List Nat} (small : ∀ unit ∈ units, unit < 0x10000) :
    Spells units (units.flatMap encodeUnit) := by
  induction units with
  | nil => exact .nil
  | cons unit rest ih =>
    rw [List.forall_mem_cons] at small
    exact .cons (spellsUnit_encodeUnit small.1) (ih small.2)

theorem lt_of_mem_unitsOfChar {char : Char} {unit : Nat} (member : unit ∈ unitsOfChar char) :
    unit < 0x10000 := by
  have valid : char.toNat < 0xD800 ∨ 0xDFFF < char.toNat ∧ char.toNat < 0x110000 := char.valid
  unfold unitsOfChar at member
  dsimp only at member
  split at member
  · rw [List.mem_singleton] at member
    omega
  · simp only [List.mem_cons, List.not_mem_nil, or_false] at member
    omega

theorem shows_unitsOfChar (chars : List Char) : Shows (chars.flatMap unitsOfChar) chars := by
  induction chars with
  | nil => exact .nil
  | cons char rest ih => exact .character char ih

/-- Reading succeeds exactly on sequences of spelled units, and gives the text that the units stand for.
Plain bytes give the same text either way, and what encodes a text gives it back. -/
theorem decode_exact :
    (∀ bytes, (∃ text, decode bytes = .ok text) ↔ ∃ units, Spells units bytes) ∧
    (∀ bytes text, decode bytes = .ok text ↔
      ∃ units, Spells units bytes ∧ Shows units text.toList) ∧
    (∀ bytes, bytes.all isPlain = true → decodeUnits bytes = .ok (decodePlain bytes)) ∧
    ∀ text, decode (encode text) = .ok text := by
  have exact (bytes : Bytes) (text : String) :
      decode bytes = .ok text ↔ ∃ units, Spells units bytes ∧ Shows units text.toList := by
    rw [decode_eq_decodeUnits, decodeUnits_eq_ok_iff]
  refine ⟨fun bytes => ?_, exact, fun _ => decodeUnits_of_plain, fun text => ?_⟩
  · constructor
    · rintro ⟨text, read⟩
      obtain ⟨units, spells, -⟩ := (exact bytes text).mp read
      exact ⟨units, spells⟩
    · rintro ⟨units, spells⟩
      refine ⟨String.ofList (characters units), (exact _ _).mpr ⟨units, spells, ?_⟩⟩
      rw [String.toList_ofList]
      exact shows_characters spells.lt
  · have small (unit : Nat) (member : unit ∈ text.toList.flatMap unitsOfChar) : unit < 0x10000 := by
      obtain ⟨char, -, inside⟩ := List.mem_flatMap.mp member
      exact lt_of_mem_unitsOfChar inside
    exact (exact _ _).mpr ⟨_, spells_flatMap_encodeUnit small, shows_unitsOfChar _⟩

/-- A letter, the character zero, a pair of surrogates and a low surrogate without its partner. -/
def mixedBytes : Bytes :=
  [0x4C, 0xC0, 0x80, 0xED, 0xA0, 0xBD, 0xED, 0xB8, 0x80, 0xED, 0xB8, 0x80]

theorem decode_exact_mixedBytes :
    decode mixedBytes = .ok "L\x00😀\ufffd" ∧
      decodeUnits [0x4C, 0x3B] = .ok (decodePlain [0x4C, 0x3B]) := by
  obtain ⟨-, exact, plain, -⟩ := decode_exact
  have spells : Spells [0x4C, 0, 0xD83D, 0xDE00, 0xDE00] mixedBytes := units_eq_ok_iff.mp rfl
  have shows : Shows [0x4C, 0, 0xD83D, 0xDE00, 0xDE00] ['L', '\x00', '😀', '\ufffd'] :=
    shows_characters (by decide)
  exact ⟨(exact mixedBytes _).mpr ⟨_, spells, shows⟩, plain _ (by decide)⟩

end Unannotate.ModifiedUtf8
