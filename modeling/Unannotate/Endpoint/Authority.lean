import Unannotate.Endpoint.Host

/-!
The part of a URL between the slashes in front and the path: who asks, the host and its port.
-/
set_option autoImplicit false

namespace Unannotate

/-- A name and a password, both encoded; empty ones are not written. -/
structure UserInfo where
  name : List Char := []
  password : List Char := []
  deriving DecidableEq, Repr

namespace UserInfo

/-- The name stands before the first colon. -/
def ofText (text : List Char) : UserInfo :=
  let name := text.takeWhile (· ≠ ':')
  { name := Percent.encode Percent.userInfo name
    password := Percent.encode Percent.userInfo (text.drop (name.length + 1)) }

def isEmpty (user : UserInfo) : Bool := user.name.isEmpty && user.password.isEmpty

def render (user : UserInfo) : List Char :=
  if user.isEmpty then []
  else user.name ++ (if user.password.isEmpty then [] else ':' :: user.password) ++ ['@']

end UserInfo

/-- What the scheme of a URL says about its authority. -/
inductive SchemeKind
  /-- Hosts are domain names or addresses, and a backslash is read as a slash. -/
  | web (defaultPort : Nat)
  | file
  /-- Hosts have no structure. -/
  | plain
  deriving DecidableEq, Repr

namespace SchemeKind

def ofName : String → SchemeKind
  | "http" | "ws" => web 80
  | "https" | "wss" => web 443
  | "ftp" => web 21
  | "file" => file
  | _ => plain

def isSlash (kind : SchemeKind) (character : Char) : Bool :=
  character = '/' || (character = '\\' && kind != plain)

/-- Whether a character ends the authority. -/
def endsAuthority (kind : SchemeKind) (character : Char) : Bool :=
  kind.isSlash character || character = '?' || character = '#'

end SchemeKind

namespace Authority

/-- What stands before the last `@`, when there is one, and the rest. -/
def splitUser (text : List Char) : Option (List Char) × List Char :=
  if text.contains '@' then
    let rest := (text.reverse.takeWhile (· ≠ '@')).reverse
    (some (text.take (text.length - rest.length - 1)), rest)
  else (none, text)

/-- The host ends at the first colon that is not in brackets. -/
def splitHost (inBrackets : Bool) : List Char → List Char × List Char
  | [] => ([], [])
  | first :: rest =>
    if first = ':' && !inBrackets then ([], first :: rest)
    else
      let (host, port) := splitHost (first == '[' || (inBrackets && first != ']')) rest
      (first :: host, port)

/-- The number of a port, with any number of zeros in front; none when there are no digits. -/
def port? (digits : List Char) : Except UrlFault (Option Nat) :=
  if digits.isEmpty then .ok none
  else if digits.all Char.isDigit ∧ Ipv4.valueIn 10 digits < 65536 then
    .ok (some (Ipv4.valueIn 10 digits))
  else .error .port

/-- The port behind a colon. -/
def portBehind (text : List Char) : Except UrlFault (Option Nat) :=
  match text with
  | ':' :: digits => port? digits
  | _ => .ok none

/-- The parts of an authority whose host is a name or an address, given the scheme's own port. -/
def parse (defaultPort : Nat) (text : List Char) :
    Except UrlFault (UserInfo × Host × Option Nat) := do
  let (user, rest) := splitUser text
  let (host, behind) := splitHost false rest
  if host.isEmpty then throw .emptyHost
  let host ← Host.parse host
  let port ← portBehind behind
  return (.ofText (user.getD []), host, port.filter (· ≠ defaultPort))

/-- What is wrong with an authority whose host has no structure, and with what stands behind it. -/
def plainFault? (text behind : List Char) : Option UrlFault :=
  let (user, rest) := splitUser text
  let (host, port) := splitHost false rest
  if user = some [] ∧ rest.isEmpty ∧ !behind.isEmpty then some .emptyHost
  else
    match Host.plainFault? host with
    | some fault => some fault
    | none =>
      if host.isEmpty && (!port.isEmpty || !(UserInfo.ofText (user.getD [])).isEmpty) then
        some .emptyHost
      else
        match portBehind (port.takeWhile (· ≠ '\\')) with
        | .ok _ => none
        | .error fault => some fault

/-- Whether a text is a letter with a colon or a bar, the name of a drive. -/
def isDriveLetter : List Char → Bool
  | [letter, mark] => letter.isAlpha && (mark == ':' || mark == '|')
  | _ => false

/-- What is wrong with the host of a file. -/
def fileFault? (host : List Char) : Option UrlFault :=
  if host.isEmpty || isDriveLetter host then none
  else
    match Host.parse host with
    | .ok _ => none
    | .error fault => some fault

end Authority

end Unannotate
