import Unannotate.Endpoint.Authority

/-!
Addresses of trace collectors.

An endpoint is a web address in normal form: the parts of a URL, encoded, with dotted path segments resolved
and the port left out where the scheme has it anyway. Spans go to the path `/v1/traces`; an address without
a path, or with the path for logs, is given this path instead.
-/
set_option autoImplicit false

namespace Unannotate

structure Endpoint where
  /-- Whether the scheme is `https`. -/
  secure : Bool
  user : UserInfo
  host : Host
  port : Option Nat
  /-- What stands behind each slash of the path. -/
  path : List (List Char)
  query : Option (List Char)
  fragment : Option (List Char)
  deriving DecidableEq, Repr

namespace Endpoint

/-! ## Paths -/

/-- A dot may be written with a percent sign. -/
def readDots (segment : List Char) : List Char :=
  match segment with
  | '%' :: '2' :: 'e' :: rest | '%' :: '2' :: 'E' :: rest => '.' :: readDots rest
  | first :: rest => first :: readDots rest
  | [] => []

def isHere (segment : List Char) : Bool := readDots segment == ['.']

def isAbove (segment : List Char) : Bool := readDots segment == ['.', '.']

/-- One step up, which never leaves a drive. -/
def dropSegment (above : List (List Char)) : List (List Char) :=
  match above.getLast? with
  | some last => if Authority.isDriveLetter last then above else above.dropLast
  | none => above

/-- Follows the segments from left to right; one that only points ends in an empty segment. -/
def resolve (above : List (List Char)) : List (List Char) → List (List Char)
  | [] => above
  | segment :: rest =>
    let isLast := rest.isEmpty
    if isAbove segment then
      resolve (dropSegment above ++ if isLast then [[]] else []) rest
    else if isHere segment then resolve (above ++ if isLast then [[]] else []) rest
    else resolve (above ++ [segment]) rest

def parsePath (text : List Char) : List (List Char) :=
  let slashed := text.map fun character => if character = '\\' then '/' else character
  let behind := if slashed.head? = some '/' then slashed.drop 1 else slashed
  resolve [] ((behind.splitOn '/').map (Percent.encode Percent.path))

/-! ## Reading and writing -/

/-- What stands before a mark, and what stands behind it when it is there. -/
def splitAt (mark : Char) (text : List Char) : List Char × Option (List Char) :=
  let before := text.takeWhile (· ≠ mark)
  (before, (text.drop before.length).tail?)

/-- The address behind the scheme and all slashes. -/
def parse (secure : Bool) (text : List Char) : Except UrlFault Endpoint := do
  let kind := SchemeKind.web (if secure then 443 else 80)
  let authority := text.takeWhile (!kind.endsAuthority ·)
  let (user, host, port) ← Authority.parse (if secure then 443 else 80) authority
  let (rest, fragment) := splitAt '#' (text.drop authority.length)
  let (path, query) := splitAt '?' rest
  return {
    secure, user, host, port
    path := parsePath path
    query := query.map (Percent.encode Percent.query)
    fragment := fragment.map (Percent.encode Percent.fragment) }

def renderPath (path : List (List Char)) : List Char := path.flatMap ('/' :: ·)

/-- A part behind its mark. -/
def renderPart (mark : Char) : Option (List Char) → List Char
  | none => []
  | some text => mark :: text

def render (endpoint : Endpoint) : List Char :=
  (if endpoint.secure then "https://" else "http://").toList ++ endpoint.user.render
    ++ endpoint.host.render ++ renderPart ':' (endpoint.port.map fun port => (toString port).toList)
    ++ renderPath endpoint.path ++ renderPart '?' endpoint.query ++ renderPart '#' endpoint.fragment

/-! ## Traces -/

def tracesPath : List (List Char) := ["v1".toList, "traces".toList]

def logsPath : List (List Char) := ["v1".toList, "logs".toList]

/-- The path that spans are sent to. -/
def pathForTraces (path : List (List Char)) : List (List Char) :=
  if path = [[]] then tracesPath
  else if logsPath.isSuffixOf path then path.take (path.length - logsPath.length) ++ tracesPath
  else path

def forTraces (endpoint : Endpoint) : Endpoint :=
  { endpoint with path := pathForTraces endpoint.path }

/-! ## Schemes -/

/-- A text without what is ignored: controls and spaces around it, tabs and line ends in it. -/
def clean (text : List Char) : List Char :=
  let isOuter (character : Char) : Bool := character ≤ ' '
  let trimmed := ((text.dropWhile isOuter).reverse.dropWhile isOuter).reverse
  trimmed.filter fun character => character ≠ '\t' ∧ character ≠ '\n' ∧ character ≠ '\r'

def isSchemeChar (character : Char) : Bool :=
  character.isAlphanum || character = '+' || character = '-' || character = '.'

/-- A scheme starts with a letter; it is followed by a colon. -/
def splitScheme? (text : List Char) : Option (String × List Char) :=
  let scheme := text.takeWhile isSchemeChar
  match text.head?.map Char.isAlpha, text.drop scheme.length with
  | some true, ':' :: rest => some (String.ofList (scheme.map Char.toLower), rest)
  | _, _ => none

/-- What is wrong with a URL that is no address of the web, apart from its scheme. -/
def foreignFault? (kind : SchemeKind) (rest : List Char) : Option UrlFault :=
  let isOutside := fun character => !kind.endsAuthority character
  match kind with
  | .web defaultPort =>
    match Authority.parse defaultPort ((rest.dropWhile kind.isSlash).takeWhile isOutside) with
    | .ok _ => none
    | .error fault => some fault
  | .file =>
    match rest with
    | first :: second :: behind =>
      if kind.isSlash first && kind.isSlash second then
        Authority.fileFault? (behind.takeWhile isOutside)
      else none
    | _ => none
  | .plain =>
    match rest with
    | '/' :: '/' :: behind =>
      let authority := behind.takeWhile isOutside
      Authority.plainFault? authority (behind.drop authority.length)
    | _ => none

/-- The endpoint that a text gives. -/
def ofText (text : String) : Except EndpointFault Endpoint :=
  match splitScheme? (clean text.toList) with
  | none => .error (.url .relative)
  | some (scheme, rest) =>
    let kind := SchemeKind.ofName scheme
    if scheme = "http" ∨ scheme = "https" then
      match parse (scheme = "https") (rest.dropWhile kind.isSlash) with
      | .ok endpoint => .ok endpoint.forTraces
      | .error fault => .error (.url fault)
    else
      match foreignFault? kind rest with
      | some fault => .error (.url fault)
      | none => .error (.scheme scheme)

/-- The normal form of an endpoint. -/
def normalize (text : String) : Except EndpointFault String :=
  (ofText text).map fun endpoint => String.ofList endpoint.render

end Endpoint

end Unannotate
