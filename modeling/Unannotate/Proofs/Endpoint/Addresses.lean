import Unannotate.Proofs.Endpoint.Authorities
import Unannotate.Proofs.Endpoint.Paths

/-!
# Addresses are read back as they were written

The parts of an address that was read are normal, each in its own way. Written one behind the other, each part
ends where the mark of a later one is found first, so reading them gives the same address again.
-/
set_option autoImplicit false

namespace Unannotate.Endpoint

variable {endpoint : Endpoint} {text : List Char}

/-- The port that the scheme has anyway. -/
def defaultPort (secure : Bool) : Nat := if secure then 443 else 80

/-- The addresses that reading gives. -/
structure IsNormal (endpoint : Endpoint) : Prop where
  authority : Authority.IsNormal (defaultPort endpoint.secure) endpoint.user endpoint.host endpoint.port
  path : IsPath endpoint.path
  query : ∀ part ∈ endpoint.query, Percent.IsEncoded Percent.query part
  fragment : ∀ part ∈ endpoint.fragment, Percent.IsEncoded Percent.fragment part

/-! ## Parts behind marks -/

theorem splitAt_renderPart {mark : Char} (absent : mark ∉ text) (part : Option (List Char)) :
    splitAt mark (text ++ renderPart mark part) = (text, part) := by
  cases part with
  | none =>
    rw [splitAt, renderPart, List.append_nil]
    simp only [takeWhile_ne_eq_self absent, List.drop_length, List.tail?_nil]
  | some part =>
    rw [splitAt, renderPart]
    simp only [takeWhile_ne_append absent, List.drop_left, List.tail?_cons]

theorem mem_renderPart {mark character : Char} {part : Option (List Char)}
    (member : character ∈ renderPart mark part) :
    character = mark ∨ ∃ inner ∈ part, character ∈ inner := by
  cases part with
  | none => cases member
  | some inner => exact (List.mem_cons.mp member).imp id fun inside => ⟨inner, rfl, inside⟩

/-! ## Behind the scheme -/

/-- What is written behind the scheme and its slashes. -/
def renderRest (endpoint : Endpoint) : List Char :=
  Authority.render endpoint.user endpoint.host endpoint.port
    ++ (renderPath endpoint.path ++ renderPart '?' endpoint.query ++ renderPart '#' endpoint.fragment)

theorem isNormal_of_parse {secure : Bool} (read : parse secure text = .ok endpoint) :
    endpoint.IsNormal := by
  unfold parse at read
  dsimp only at read
  obtain ⟨⟨user, host, port⟩, parsed, read⟩ := outcome_bind_ok_iff.mp read
  cases read
  refine ⟨Authority.isNormal_of_parse parsed, isPath_parsePath _, ?_, ?_⟩
  · intro part member
    obtain ⟨given, -, rfl⟩ := Option.map_eq_some_iff.mp member
    exact Percent.isEncoded_query given
  · intro part member
    obtain ⟨given, -, rfl⟩ := Option.map_eq_some_iff.mp member
    exact Percent.isEncoded_fragment given

theorem endsAuthority_of_inAuthority {number : Nat} {character : Char}
    (inside : InAuthority character) : (SchemeKind.web number).endsAuthority character = false := by
  obtain ⟨-, noMark⟩ := inside
  simp only [String.reduceToList, List.mem_cons, List.not_mem_nil, or_false, not_or] at noMark
  simp [SchemeKind.endsAuthority, SchemeKind.isSlash, noMark]

theorem IsNormal.parse_renderRest (normal : endpoint.IsNormal) :
    parse endpoint.secure endpoint.renderRest = .ok endpoint := by
  have slash : ∃ behind, renderPath endpoint.path ++ renderPart '?' endpoint.query
      ++ renderPart '#' endpoint.fragment = '/' :: behind := by
    rw [renderPath_eq normal.path.nonempty]
    exact ⟨_, rfl⟩
  have authority : endpoint.renderRest.takeWhile
        (!(SchemeKind.web (defaultPort endpoint.secure)).endsAuthority ·)
      = Authority.render endpoint.user endpoint.host endpoint.port := by
    obtain ⟨behind, shape⟩ := slash
    rw [renderRest, shape]
    refine takeWhile_stopped ?_ (by rfl) behind
    intro character member
    rw [endsAuthority_of_inAuthority (normal.authority.inAuthority character member)]
    rfl
  have noQuestion : '?' ∉ renderPath endpoint.path :=
    fun member => (normal.path.visible '?' member).2.2 rfl
  have noHash : '#' ∉ renderPath endpoint.path ++ renderPart '?' endpoint.query := by
    rw [List.mem_append, not_or]
    refine ⟨fun member => (normal.path.visible '#' member).2.1 rfl, fun member => ?_⟩
    obtain isMark | ⟨part, given, inside⟩ := mem_renderPart member
    · cases isMark
    · exact (Percent.plain_of_query (normal.query part given '#' inside)).2 rfl
  have query : endpoint.query.map (Percent.encode Percent.query) = endpoint.query := by
    refine (Option.map_congr ?_).trans Option.map_id'
    intro part given
    exact Percent.encode_eq_self (normal.query part given)
  have fragment : endpoint.fragment.map (Percent.encode Percent.fragment) = endpoint.fragment := by
    refine (Option.map_congr ?_).trans Option.map_id'
    intro part given
    exact Percent.encode_eq_self (normal.fragment part given)
  unfold parse
  dsimp only
  rw [show (if endpoint.secure then 443 else 80) = defaultPort endpoint.secure from rfl, authority,
    normal.authority.parse_render, renderRest, List.drop_left, splitAt_renderPart noHash]
  dsimp only
  rw [splitAt_renderPart noQuestion]
  dsimp only
  rw [normal.path.parsePath_renderPath, query, fragment]
  rfl

/-! ## The scheme -/

/-- The address that a text gives, before it is made one for traces. -/
def address (text : String) : Except EndpointFault Endpoint :=
  match splitScheme? (clean text.toList) with
  | none => .error (.url .relative)
  | some (scheme, rest) =>
    let kind := SchemeKind.ofName scheme
    if scheme = "http" ∨ scheme = "https" then
      (parse (scheme = "https") (rest.dropWhile kind.isSlash)).mapError .url
    else
      match foreignFault? kind rest with
      | some fault => .error (.url fault)
      | none => .error (.scheme scheme)

theorem ofText_eq (text : String) : ofText text = (address text).map forTraces := by
  unfold ofText address
  cases splitScheme? (clean text.toList) with
  | none => rfl
  | some found =>
    obtain ⟨scheme, rest⟩ := found
    dsimp only
    split
    · cases parse (scheme = "https") (rest.dropWhile (SchemeKind.ofName scheme).isSlash) with
      | ok endpoint => rfl
      | error fault => rfl
    · cases foreignFault? (SchemeKind.ofName scheme) rest with
      | none => rfl
      | some fault => rfl

theorem isNormal_of_address {text : String} (read : address text = .ok endpoint) :
    endpoint.IsNormal := by
  unfold address at read
  split at read
  · cases read
  dsimp only at read
  split at read
  · next scheme rest _ _ =>
    cases parsed : parse (scheme = "https") (rest.dropWhile (SchemeKind.ofName scheme).isSlash) with
    | ok found =>
      rw [parsed] at read
      cases read
      exact isNormal_of_parse parsed
    | error fault =>
      rw [parsed] at read
      cases read
  · split at read
    · cases read
    · cases read

theorem clean_eq_self (visible : ∀ character ∈ text, ' ' < character) : clean text = text := by
  have outside {part : List Char} (within : ∀ character ∈ part, ' ' < character) :
      part.dropWhile (fun character : Char => decide (character ≤ ' ')) = part := by
    cases part with
    | nil => rfl
    | cons first rest =>
      have shown := within first List.mem_cons_self
      exact List.dropWhile_cons_of_neg (by simpa using shown)
  have back : ∀ character ∈ text.reverse, ' ' < character := fun character member =>
    visible character (List.mem_reverse.mp member)
  rw [clean, outside visible, outside back, List.reverse_reverse, List.filter_eq_self]
  intro character member
  have shown := visible character member
  have hidden {mark : Char} (isMark : ¬ ' ' < mark) : character ≠ mark := by
    intro same
    exact isMark (same ▸ shown)
  simp only [decide_eq_true_eq]
  exact ⟨hidden (by decide), hidden (by decide), hidden (by decide)⟩

def schemeName (secure : Bool) : String := if secure then "https" else "http"

theorem render_eq (endpoint : Endpoint) : endpoint.render
    = (schemeName endpoint.secure).toList ++ "://".toList ++ endpoint.renderRest := by
  have scheme : (if endpoint.secure then "https://" else "http://").toList
      = (schemeName endpoint.secure).toList ++ "://".toList := by
    cases endpoint.secure <;> rfl
  have port : renderPart ':' (endpoint.port.map fun port => (toString port).toList)
      = Authority.renderPort endpoint.port := by
    cases endpoint.port with
    | none => rfl
    | some number => exact congrArg _ Nat.toList_repr
  rw [render, scheme, port, renderRest, Authority.render]
  simp only [List.append_assoc]

theorem IsNormal.visible (normal : endpoint.IsNormal) :
    ∀ character ∈ endpoint.render, ' ' < character := by
  have scheme : ∀ secure, ((schemeName secure).toList ++ "://".toList).all (' ' < ·) = true := by
    decide
  intro character member
  rw [render_eq, renderRest, List.mem_append, List.mem_append (s := Authority.render _ _ _),
    List.mem_append (t := renderPart '#' _), List.mem_append (t := renderPart '?' _)] at member
  obtain inScheme | inAuthority | (inPath | inQuery) | inFragment := member
  · simpa using List.all_eq_true.mp (scheme endpoint.secure) character inScheme
  · exact (normal.authority.inAuthority character inAuthority).1
  · exact (normal.path.visible character inPath).1
  · obtain rfl | ⟨part, given, inside⟩ := mem_renderPart inQuery
    · decide
    · exact (Percent.plain_of_query (normal.query part given character inside)).1
  · obtain rfl | ⟨part, given, inside⟩ := mem_renderPart inFragment
    · decide
    · exact Percent.visible_of_fragment (normal.fragment part given character inside)

/-- All slashes behind the scheme are passed, and no others. -/
theorem IsNormal.dropWhile_isSlash (normal : endpoint.IsNormal) (number : Nat) :
    ('/' :: '/' :: endpoint.renderRest).dropWhile (SchemeKind.web number).isSlash
      = endpoint.renderRest := by
  obtain ⟨first, rest, shape⟩ := List.exists_cons_of_ne_nil normal.authority.render_ne_nil
  have held : first ∈ Authority.render endpoint.user endpoint.host endpoint.port := by
    rw [shape]
    exact List.mem_cons_self
  have noSlash : (SchemeKind.web number).isSlash first = false := by
    have inside : (SchemeKind.web number).endsAuthority first = false :=
      endsAuthority_of_inAuthority (normal.authority.inAuthority first held)
    simp only [SchemeKind.endsAuthority, Bool.or_eq_false_iff] at inside
    exact inside.1.1
  have slash : (SchemeKind.web number).isSlash '/' = true := rfl
  rw [List.dropWhile_cons_of_pos slash, List.dropWhile_cons_of_pos slash, renderRest, shape,
    List.cons_append]
  exact List.dropWhile_cons_of_neg (by simp [noSlash])

theorem splitScheme?_render (endpoint : Endpoint) : splitScheme? endpoint.render
    = some (schemeName endpoint.secure, '/' :: '/' :: endpoint.renderRest) := by
  have shape : endpoint.render
      = (schemeName endpoint.secure).toList ++ ':' :: '/' :: '/' :: endpoint.renderRest := by
    rw [render_eq, List.append_assoc]
    rfl
  have letters : ∀ secure, (schemeName secure).toList.all isSchemeChar = true := by
    decide
  have lower : ∀ secure, (schemeName secure).toList.map Char.toLower = (schemeName secure).toList := by
    decide
  have head : endpoint.render.head?.map Char.isAlpha = some true := by
    rw [shape]
    cases endpoint.secure <;> rfl
  have scheme : endpoint.render.takeWhile isSchemeChar = (schemeName endpoint.secure).toList := by
    rw [shape]
    exact takeWhile_stopped (List.all_eq_true.mp (letters endpoint.secure)) (by decide) _
  have behind : endpoint.render.drop (schemeName endpoint.secure).toList.length
      = ':' :: '/' :: '/' :: endpoint.renderRest := by
    rw [shape, List.drop_left]
  rw [splitScheme?]
  simp only [head, scheme, behind, lower, String.ofList_toList]

theorem IsNormal.address_render (normal : endpoint.IsNormal) :
    address (String.ofList endpoint.render) = .ok endpoint := by
  have web : schemeName endpoint.secure = "http" ∨ schemeName endpoint.secure = "https" := by
    cases endpoint.secure <;> decide
  have kind : SchemeKind.ofName (schemeName endpoint.secure)
      = .web (defaultPort endpoint.secure) := by
    cases endpoint.secure <;> rfl
  have secure : decide (schemeName endpoint.secure = "https") = endpoint.secure := by
    cases endpoint.secure <;> decide
  rw [address, String.toList_ofList, clean_eq_self normal.visible, splitScheme?_render]
  dsimp only
  rw [if_pos web, secure, kind, normal.dropWhile_isSlash, normal.parse_renderRest]
  rfl

end Unannotate.Endpoint
