import Unannotate.Endpoint.Authority
import Unannotate.Proofs.Endpoint.Hosts
import Unannotate.Proofs.Outcomes

/-!
# Authorities are read back as they were written

Reading encodes who asks, and leaves out a port that the scheme has anyway. In what such parts are written as,
an `@` stands only behind who asks and a colon outside brackets only in front of the port, so each part is
found where it was put.
-/
set_option autoImplicit false

namespace Unannotate

variable {text : List Char}

namespace UserInfo

variable {user : UserInfo}

/-- Both parts are encoded. -/
structure IsNormal (user : UserInfo) : Prop where
  name : Percent.IsEncoded Percent.userInfo user.name
  password : Percent.IsEncoded Percent.userInfo user.password

theorem isNormal_ofText (text : List Char) : (ofText text).IsNormal :=
  ⟨Percent.isEncoded_userInfo _, Percent.isEncoded_userInfo _⟩

/-- What stands in front of the `@`. -/
def signature (user : UserInfo) : List Char :=
  user.name ++ (if user.password.isEmpty then [] else ':' :: user.password)

theorem render_eq (user : UserInfo) :
    user.render = if user.isEmpty then [] else user.signature ++ ['@'] :=
  rfl

theorem IsNormal.ofText_signature (normal : user.IsNormal) : ofText user.signature = user := by
  have noColon : ':' ∉ user.name := by
    intro member
    exact (Percent.plain_of_userInfo (normal.name ':' member)).2.2 rfl
  have before : user.signature.takeWhile (· ≠ ':') = user.name := by
    unfold signature
    split
    · rw [List.append_nil, takeWhile_ne_eq_self noColon]
    · exact takeWhile_ne_append noColon user.password
  have behind : user.signature.drop (user.name.length + 1) = user.password := by
    unfold signature
    split
    · next empty =>
      rw [List.isEmpty_iff.mp empty]
      simp
    · simp
  rw [ofText]
  simp only [before, behind]
  rw [Percent.encode_eq_self normal.name, Percent.encode_eq_self normal.password]

theorem IsNormal.inAuthority (normal : user.IsNormal) :
    ∀ character ∈ user.render, InAuthority character := by
  intro character member
  rw [render_eq] at member
  split at member
  · cases member
  rw [List.mem_append, signature, List.mem_append, List.mem_singleton] at member
  obtain (inName | inPassword) | rfl := member
  · exact (Percent.plain_of_userInfo (normal.name character inName)).1
  · split at inPassword
    · cases inPassword
    obtain rfl | inPassword := List.mem_cons.mp inPassword
    · decide
    · exact (Percent.plain_of_userInfo (normal.password character inPassword)).1
  · decide

end UserInfo

namespace Authority

variable {user : UserInfo} {host : Host} {port : Option Nat} {defaultPort : Nat}

/-! ## Who asks -/

theorem splitUser_of_absent (absent : '@' ∉ text) : splitUser text = (none, text) := by
  rw [splitUser, if_neg (by simpa using absent)]

theorem splitUser_append (front : List Char) (absent : '@' ∉ text) :
    splitUser (front ++ '@' :: text) = (some front, text) := by
  have behind : ((front ++ '@' :: text).reverse.takeWhile (· ≠ '@')).reverse = text := by
    rw [List.reverse_append, List.reverse_cons, List.append_assoc, List.singleton_append,
      takeWhile_ne_append (by simpa using absent), List.reverse_reverse]
  have before : (front ++ '@' :: text).length - text.length - 1 = front.length := by
    rw [List.length_append, List.length_cons]
    omega
  rw [splitUser, if_pos (by simp)]
  simp only [behind, before, List.take_left]

theorem splitUser_render (normal : user.IsNormal) (absent : '@' ∉ text) :
    ∃ given, splitUser (user.render ++ text) = (given, text) ∧ UserInfo.ofText (given.getD []) = user := by
  rw [UserInfo.render_eq]
  split
  · next empty =>
    refine ⟨none, splitUser_of_absent absent, ?_⟩
    have signature : user.signature = [] := by
      simp only [UserInfo.isEmpty, Bool.and_eq_true, List.isEmpty_iff] at empty
      simp [UserInfo.signature, empty.1, empty.2]
    rw [Option.getD_none, ← signature]
    exact normal.ofText_signature
  · refine ⟨some user.signature, ?_, normal.ofText_signature⟩
    rw [List.append_assoc]
    exact splitUser_append user.signature absent

/-! ## Where the host ends -/

/-- Characters that neither end the host nor open or close brackets are passed. -/
theorem splitHost_append {inBrackets : Bool} {front : List Char} (behind : List Char)
    (inside : ∀ character ∈ front, (character = ':' && !inBrackets) = false ∧
      (character == '[' || (inBrackets && character != ']')) = inBrackets) :
    splitHost inBrackets (front ++ behind)
      = (front ++ (splitHost inBrackets behind).1, (splitHost inBrackets behind).2) := by
  induction front with
  | nil => rfl
  | cons first rest ih =>
    rw [List.forall_mem_cons] at inside
    obtain ⟨⟨passes, stays⟩, later⟩ := inside
    rw [List.cons_append, splitHost, stays, ih later]
    simp [passes]

/-- A colon or the end of the text ends the host. -/
theorem splitHost_ends {behind : List Char} (ends : behind = [] ∨ behind.head? = some ':') :
    splitHost false behind = ([], behind) := by
  cases behind with
  | nil => rfl
  | cons first rest =>
    obtain empty | colon := ends
    · cases empty
    · rw [splitHost]
      simp_all

theorem splitHost_render {behind : List Char} (normal : host.IsNormal)
    (ends : behind = [] ∨ behind.head? = some ':') :
    splitHost false (host.render ++ behind) = (host.render, behind) := by
  obtain name | ⟨inner, shape, inside⟩ := normal.shape
  · rw [splitHost_append behind, splitHost_ends ends, List.append_nil]
    intro character member
    obtain ⟨-, noMark⟩ := name character member
    simp only [String.reduceToList, List.mem_cons, List.not_mem_nil, or_false, not_or] at noMark
    simp [noMark]
  · have closed : splitHost true (inner ++ ']' :: behind) = (inner ++ [']'], behind) := by
      rw [splitHost_append (']' :: behind)]
      · rw [splitHost]
        simp [splitHost_ends ends]
      · intro character member
        obtain ⟨-, noMark⟩ := inside character member
        simp only [String.reduceToList, List.mem_cons, List.not_mem_nil, or_false, not_or] at noMark
        simp [noMark]
    rw [shape, List.append_assoc, List.cons_append, List.singleton_append, splitHost]
    simp [closed]

/-! ## The port -/

/-- A port that is not left out. -/
def IsPort (defaultPort : Nat) (port : Option Nat) : Prop :=
  ∀ number ∈ port, number < 65536 ∧ number ≠ defaultPort

/-- A port behind its colon. -/
def renderPort : Option Nat → List Char
  | none => []
  | some number => ':' :: Nat.toDigits 10 number

theorem isPort_of_portBehind (read : portBehind text = .ok port) :
    IsPort defaultPort (port.filter (· ≠ defaultPort)) := by
  intro number member
  obtain ⟨rfl, differs⟩ := Option.filter_eq_some_iff.mp member
  refine ⟨?_, by simpa using differs⟩
  unfold portBehind port? at read
  split at read
  · split at read
    · cases read
    split at read
    · next given _ valid =>
      cases read
      exact valid.2
    · cases read
  · cases read

theorem portBehind_renderPort (normal : IsPort defaultPort port) :
    portBehind (renderPort port) = .ok port ∧ port.filter (· ≠ defaultPort) = port := by
  cases port with
  | none => exact ⟨rfl, rfl⟩
  | some number =>
    obtain ⟨small, differs⟩ := normal number rfl
    have digits : (Nat.toDigits 10 number).all Char.isDigit = true := by
      rw [List.all_eq_true]
      intro digit member
      exact Nat.isDigit_of_mem_toDigits (by decide) (by decide) member
    have value : Ipv4.valueIn 10 (Nat.toDigits 10 number) = number :=
      Ipv4.valueIn_toDigits (by decide) (by decide) number
    have nonempty : (Nat.toDigits 10 number).isEmpty = false := by
      rw [List.isEmpty_eq_false_iff]
      exact Nat.toDigits_ne_nil
    constructor
    · rw [renderPort, portBehind, port?, nonempty, value, digits]
      simp [small]
    · simp [Option.filter, differs]

theorem inAuthority_renderPort (port : Option Nat) :
    ∀ character ∈ renderPort port, InAuthority character ∧ character ≠ '@' := by
  intro character member
  cases port with
  | none => cases member
  | some number =>
    obtain rfl | member := List.mem_cons.mp member
    · decide
    · obtain ⟨digit, small, rfl⟩ := Ipv4.mem_toDigits (by decide) member
      obtain ⟨stands, noMark⟩ := Host.inAuthority_digitChar (Nat.lt_trans small (by decide))
      exact ⟨stands, fun same => noMark (by simp [same])⟩

/-! ## The whole -/

/-- What reading an authority gives. -/
structure IsNormal (defaultPort : Nat) (user : UserInfo) (host : Host) (port : Option Nat) : Prop where
  user : user.IsNormal
  host : host.IsNormal
  port : IsPort defaultPort port

def render (user : UserInfo) (host : Host) (port : Option Nat) : List Char :=
  user.render ++ (host.render ++ renderPort port)

theorem isNormal_of_parse (read : parse defaultPort text = .ok (user, host, port)) :
    IsNormal defaultPort user host port := by
  unfold parse at read
  dsimp only at read
  split at read
  · cases read
  obtain ⟨given, parsed, read⟩ := outcome_bind_ok_iff.mp read
  obtain ⟨number, found, read⟩ := outcome_bind_ok_iff.mp read
  cases read
  exact ⟨UserInfo.isNormal_ofText _, Host.isNormal_of_parse parsed, isPort_of_portBehind found⟩

theorem IsNormal.parse_render (normal : IsNormal defaultPort user host port) :
    parse defaultPort (render user host port) = .ok (user, host, port) := by
  have absent : '@' ∉ host.render ++ renderPort port := by
    rw [List.mem_append, not_or]
    exact ⟨fun member => (normal.host.inAuthority '@' member).2 rfl,
      fun member => (inAuthority_renderPort port '@' member).2 rfl⟩
  have ends : renderPort port = [] ∨ (renderPort port).head? = some ':' := by
    cases port with
    | none => exact .inl rfl
    | some number => exact .inr rfl
  obtain ⟨given, split, asked⟩ := splitUser_render normal.user absent
  obtain ⟨found, kept⟩ := portBehind_renderPort normal.port
  have nonempty : host.render.isEmpty = false := by
    rw [List.isEmpty_eq_false_iff]
    exact normal.host.render_ne_nil
  unfold parse render
  rw [split]
  dsimp only
  rw [splitHost_render normal.host ends]
  dsimp only
  rw [nonempty, Host.parse_render normal.host, found]
  change Except.ok (UserInfo.ofText (given.getD []), host, port.filter (· ≠ defaultPort)) = _
  rw [asked, kept]

theorem IsNormal.render_ne_nil (normal : IsNormal defaultPort user host port) :
    render user host port ≠ [] := by
  simp [render, normal.host.render_ne_nil]

theorem IsNormal.inAuthority (normal : IsNormal defaultPort user host port) :
    ∀ character ∈ render user host port, InAuthority character := by
  intro character member
  rw [render, List.mem_append, List.mem_append] at member
  obtain inUser | inHost | inPort := member
  · exact normal.user.inAuthority character inUser
  · exact (normal.host.inAuthority character inHost).1
  · exact (inAuthority_renderPort port character inPort).1

end Authority

end Unannotate
