import Unannotate.Proofs.Endpoint.Encoding
import Unannotate.Proofs.Endpoint.Names
import Unannotate.Proofs.Endpoint.Pieces

/-!
# Hosts are read back as they were written

Reading a host gives a name in ASCII form that is no address, an address of 32 bits or one of eight pieces.
What such a host is written as holds no sign that ends a host, and it is read as the same host.
-/
set_option autoImplicit false

namespace Unannotate

theorem Utf8.decode?_encode (text : String) : decode? (encode text) = some text := by
  have same : ByteArray.mk (encode text).toArray = text.toUTF8 := by simp [encode]
  have valid : text.toUTF8.IsValidUTF8 := text.isValidUTF8
  rw [decode?, same, String.fromUTF8?, dif_pos valid]
  rfl

/-- A text without percent signs stands for its own bytes. -/
theorem Percent.decode_eq_encode {text : List Char} (noPercent : '%' ∉ text) :
    decode text = Utf8.encode (String.ofList text) := by
  induction text with
  | nil => rfl
  | cons first rest ih =>
    rw [List.mem_cons, not_or] at noPercent
    rw [decode, ih noPercent.2]
    · simp [Utf8.encode_eq]
    · intro high low others isPercent
      exact absurd isPercent.symm noPercent.1

namespace Host

variable {host : Host} {text name : List Char}

/-- The hosts that reading gives. -/
inductive IsNormal : Host → Prop
  | domain {name : List Char} (nonempty : name ≠ []) (form : Domain.ascii? name = some name)
      (plain : ∀ character ∈ name, Domain.IsPlain character)
      (noAddress : Ipv4.endsInNumber name = false) : IsNormal (.domain name)
  | ipv4 {address : Nat} (bound : address < Bytes.capacity 4) : IsNormal (.ipv4 address)
  | ipv6 {pieces : List Nat} (address : Ipv6.IsAddress pieces) : IsNormal (.ipv6 pieces)

theorem isNormal_of_ofBracketed (read : ofBracketed text = .ok host) : host.IsNormal := by
  unfold ofBracketed at read
  split at read
  · split at read
    · next found =>
      cases read
      exact .ipv6 (Ipv6.isAddress_of_ofText? found)
    · cases read
  · cases read

theorem isNormal_of_parse (read : parse text = .ok host) : host.IsNormal := by
  unfold parse at read
  split at read
  · exact isNormal_of_ofBracketed read
  split at read
  · cases read
  · cases read
  · next name nonempty found =>
    obtain ⟨given, -, made⟩ := Option.bind_eq_some_iff.mp found
    obtain ⟨form, plain⟩ := Domain.ascii?_form made
    split at read
    · next isAddress =>
      split at read
      · next address number =>
        cases read
        obtain ⟨numbers, -, filled⟩ := Option.bind_eq_some_iff.mp number
        exact .ipv4 (Ipv4.lt_of_ofNumbers? filled)
      · cases read
    · next noAddress =>
      cases read
      exact .domain nonempty form plain (by simpa using noAddress)

/-! ## Writing -/

theorem parse_name (nonempty : name ≠ []) (form : Domain.ascii? name = some name)
    (plain : ∀ character ∈ name, Domain.IsPlain character) :
    parse name =
      if Ipv4.endsInNumber name then
        match Ipv4.ofName? name with
        | some address => .ok (.ipv4 address)
        | none => .error .ipv4
      else .ok (.domain name) := by
  have noPercent : '%' ∉ name := fun member => absurd (plain '%' member).allowed (by decide)
  have noBracket : '[' ∉ name := fun member => absurd (plain '[' member).allowed (by decide)
  have found : (Utf8.decode? (Percent.decode name)).bind (Domain.ascii? ·.toList) = some name := by
    rw [Percent.decode_eq_encode noPercent, Utf8.decode?_encode]
    simpa using form
  unfold parse
  split
  · simp at noBracket
  · rw [found]
    cases name with
    | nil => exact absurd rfl nonempty
    | cons first rest => rfl

theorem ascii?_bytes (address : Nat) :
    Domain.ascii? (Ipv4.render address) = some (Ipv4.render address) ∧
      ∀ character ∈ Ipv4.render address, Domain.IsPlain character := by
  have label : ∀ byte ∈ List.range 256,
      Domain.asciiLabel? (Nat.toDigits 10 byte) = some (Nat.toDigits 10 byte) := by
    decide +kernel
  have letter : ∀ digit ∈ List.range 10, Text.Punycode.isBasic (Nat.digitChar digit)
      ∧ Domain.mapChar (Nat.digitChar digit) = [Nat.digitChar digit]
      ∧ Domain.isForbidden (Nat.digitChar digit) = false ∧ Nat.digitChar digit ≠ '.' := by
    decide
  rw [Ipv4.render_eq]
  apply Domain.ascii?_intercalate (by simp [Ipv4.bytesOf])
  intro digits written
  obtain ⟨byte, held, rfl⟩ := List.mem_map.mp written
  refine ⟨label byte (List.mem_range.mpr (Ipv4.bytesOf_lt address byte held)), ?_⟩
  intro character member
  obtain ⟨digit, small, rfl⟩ := Ipv4.mem_toDigits (by decide) member
  obtain ⟨basic, mapped, allowed, noDot⟩ := letter digit (List.mem_range.mpr small)
  exact ⟨⟨basic, mapped, allowed⟩, noDot⟩

theorem parse_render (normal : host.IsNormal) : parse host.render = .ok host := by
  cases normal with
  | domain nonempty form plain noAddress =>
    rw [render, parse_name nonempty form plain, noAddress]
    rfl
  | @ipv4 address bound =>
    obtain ⟨form, plain⟩ := ascii?_bytes address
    have nonempty : Ipv4.render address ≠ [] := by
      simp [Ipv4.render_eq, Ipv4.bytesOf]
    rw [render, parse_name nonempty form plain, Ipv4.endsInNumber_render, if_pos rfl,
      Ipv4.ofName?_render bound]
  | ipv6 address =>
    rw [render, List.cons_append, parse, ofBracketed, List.getLast?_concat, if_pos rfl,
      List.dropLast_concat, Ipv6.ofText?_render address]

theorem inAuthority_of_isPlain {character : Char} (plain : Domain.IsPlain character) :
    InAuthority character ∧ character ∉ "@:[".toList := by
  have allowed {mark : Char} (forbidden : Domain.isForbidden mark = true) : character ≠ mark := by
    rintro rfl
    rw [plain.allowed] at forbidden
    cases forbidden
  have all : "/\\?#@:[".toList.all Domain.isForbidden = true := by
    decide
  have marks : ∀ mark ∈ "/\\?#@:[".toList, Domain.isForbidden mark = true :=
    List.all_eq_true.mp all
  have visible : ' ' < character := by
    apply not_le.mp
    intro control
    exact allowed (by simp [Domain.isForbidden, control]) rfl
  exact ⟨⟨visible, fun member => allowed (marks character (List.mem_append_left "@:[".toList member)) rfl⟩,
    fun member => allowed (marks character (List.mem_append_right "/\\?#".toList member)) rfl⟩

theorem inAuthority_digitChar {digit : Nat} (small : digit < 16) :
    InAuthority (Nat.digitChar digit) ∧ Nat.digitChar digit ∉ "@:[]".toList := by
  have all : ∀ value ∈ List.range 16,
      InAuthority (Nat.digitChar value) ∧ Nat.digitChar value ∉ "@:[]".toList := by
    decide
  exact all digit (List.mem_range.mpr small)

/-- A host is a text without colons and brackets, or stands in brackets. -/
theorem IsNormal.shape (normal : host.IsNormal) :
    (∀ character ∈ host.render, InAuthority character ∧ character ∉ "@:[".toList) ∨
      ∃ inner, host.render = '[' :: inner ++ [']'] ∧
        ∀ character ∈ inner, InAuthority character ∧ character ∉ "@[]".toList := by
  cases normal with
  | domain nonempty form plain noAddress =>
    exact .inl fun character member => inAuthority_of_isPlain (plain character member)
  | @ipv4 address bound =>
    exact .inl fun character member =>
      inAuthority_of_isPlain ((ascii?_bytes address).2 character member)
  | @ipv6 pieces address =>
    refine .inr ⟨Ipv6.render pieces, rfl, ?_⟩
    intro character member
    obtain rfl | ⟨digit, small, rfl⟩ := Ipv6.mem_render member
    · decide
    · obtain ⟨inside, noMark⟩ := inAuthority_digitChar small
      have fewer : "@[]".toList ⊆ "@:[]".toList := by
        decide
      exact ⟨inside, fun mark => noMark (fewer mark)⟩

theorem IsNormal.inAuthority (normal : host.IsNormal) :
    ∀ character ∈ host.render, InAuthority character ∧ character ≠ '@' := by
  intro character member
  obtain name | ⟨inner, shape, inside⟩ := normal.shape
  · obtain ⟨stands, noMark⟩ := name character member
    exact ⟨stands, fun same => noMark (by simp [same])⟩
  · rw [shape, List.mem_append, List.mem_cons, List.mem_singleton] at member
    obtain (rfl | member) | rfl := member
    · decide
    · obtain ⟨stands, noMark⟩ := inside character member
      exact ⟨stands, fun same => noMark (by simp [same])⟩
    · decide

theorem IsNormal.render_ne_nil (normal : host.IsNormal) : host.render ≠ [] := by
  cases normal with
  | domain nonempty form plain noAddress => exact nonempty
  | ipv4 bound => simp [render, Ipv4.render_eq, Ipv4.bytesOf]
  | ipv6 address => simp [render]

end Host

end Unannotate
