import TypedQuery.Number.Integer
import TypedQuery.Text.Small
import TypedQuery.Url.Address
import TypedQuery.Url.Domain
import TypedQuery.Url.Percent

/-!
# URLs

* `Url.parse` splits a text into the parts of a URL and gives each part its normal form: scheme and
  host in small letters, the host in ASCII, no number behind the host that the scheme implies, no
  dots in the path, and percent-encoding where a character needs it.
* `Url.text` puts the parts together again.
* `Url.target` is the URL to which a request goes.
-/

namespace TypedQuery

/-- Why a text is no URL. -/
inductive UrlFault where
  | tooLong
  | partTooLong (part : String)
  | unprintable (c : Char) (offset : Nat)
  | fourNumbers (host : String)
  | eightGroups (host : String)
  | domain (host : String)
  | portNumber (text : String)
  /-- A path must not follow a host without a slash. -/
  | pathStart
  | doubleSlash
  | colon
  deriving DecidableEq

namespace UrlFault

/-- The fault in words. -/
def message : UrlFault → String
  | .tooLong => "URL too long"
  | .partTooLong part => "URL component '" ++ part ++ "' too long"
  | .unprintable c offset =>
    "Invalid non-printable ASCII character in URL, " ++ Text.quote c.toString ++ " at position " ++
      toString offset ++ "."
  | .fourNumbers host => "Invalid IPv4 address: " ++ Text.quote host
  | .eightGroups host => "Invalid IPv6 address: " ++ Text.quote host
  | .domain host => "Invalid IDNA hostname: " ++ Text.quote host
  | .portNumber text => "Invalid port: " ++ Text.quote text
  | .pathStart => "For absolute URLs, path must be empty or begin with '/'"
  | .doubleSlash => "Relative URLs cannot have a path starting with '//'"
  | .colon => "Relative URLs cannot have a path starting with ':'"

end UrlFault

/-- A URL by its parts. A part that is missing is empty, but an empty query or fragment is one. -/
structure Url where
  scheme : String := ""
  user : String := ""
  host : String := ""
  /-- The number behind the host. -/
  portNumber : Option Int := none
  path : String := ""
  query : Option String := none
  fragment : Option String := none
  deriving DecidableEq

namespace Url

/-! ## Splitting -/

/-- The parts of a text, before they are given their normal form. -/
structure Parts where
  scheme : List Char
  authority : List Char
  path : List Char
  query : Option (List Char)
  fragment : Option (List Char)

/-- Splits a text at the first character `mark`, which belongs to neither part. -/
def splitAt? (mark : Char) (cs : List Char) : List Char × Option (List Char) :=
  let front := cs.takeWhile (· != mark)
  match cs.drop front.length with
  | [] => (front, none)
  | _ :: rest => (front, some rest)

/-- Whether a character may stand in a scheme. -/
def isSchemeChar (c : Char) : Bool :=
  c.toNat < 0x80 && (c.isAlphanum || c == '+' || c == '.' || c == '-')

/-- The scheme in front of a colon, which may be empty, and the rest. -/
def splitScheme (cs : List Char) : List Char × List Char :=
  let scheme := cs.takeWhile isSchemeChar
  match cs.drop scheme.length with
  | ':' :: rest =>
    if scheme.isEmpty || scheme.head?.any Char.isAlpha then (scheme, rest) else ([], cs)
  | _ => ([], cs)

/-- The authority behind two slashes, and the rest. -/
def splitAuthority (cs : List Char) : List Char × List Char :=
  match cs with
  | '/' :: '/' :: rest => rest.span fun c => c != '/' && c != '?' && c != '#'
  | cs => ([], cs)

/-- Splits a text into parts. -/
def split (cs : List Char) : Parts :=
  let (scheme, rest) := splitScheme cs
  let (authority, rest) := splitAuthority rest
  let (rest, fragment) := splitAt? '#' rest
  let (path, query) := splitAt? '?' rest
  ⟨scheme, authority, path, query, fragment⟩

/-- The user in front of the last at sign, and the rest. -/
def splitUser (cs : List Char) : List Char × List Char :=
  let rest := (cs.reverse.takeWhile (· != '@')).reverse
  (cs.take (cs.length - rest.length - 1), rest)

/-- The host and the number behind it. A host in brackets ends at the last bracket. -/
def splitHost (cs : List Char) : List Char × List Char :=
  let behind := (cs.reverse.takeWhile (· != ']')).reverse
  let (host, rest) :=
    if cs.head? = some '[' && behind.length < cs.length then
      (cs.take (cs.length - behind.length), behind)
    else cs.span (· != ':')
  match rest with
  | ':' :: number => (host, number)
  | number => (host, number)

/-! ## Normal forms -/

/-- The normal form of a host. Brackets around an address are left out. -/
def hostOf (cs : List Char) : Except UrlFault String :=
  let isBracketed := cs.head? = some '[' && 1 < cs.length && cs.getLast? = some ']'
  if cs.isEmpty then .ok ""
  else if Address.looksLikeFour cs then
    if Address.isFour cs then .ok (.ofList cs) else .error (.fourNumbers (.ofList cs))
  else if isBracketed then
    let address := (cs.drop 1).dropLast
    if Address.isSix address then .ok (.ofList address) else .error (.eightGroups (.ofList cs))
  else if cs.all (·.toNat < 0x80) then
    .ok (.ofList (Percent.encode Percent.isHostChar (cs.map Char.toLower)))
  else
    match Domain.toAscii (Text.small cs) with
    | .ok name => .ok (.ofList name)
    | .error _ => .error (.domain (.ofList cs))

/-- The number behind the host that a scheme implies. -/
def impliedNumber? (scheme : String) : Option Int :=
  [("ftp", 21), ("http", 80), ("https", 443), ("ws", 80), ("wss", 443)].lookup scheme

/-- The normal form of the number behind the host. -/
def portNumberOf (scheme : String) (cs : List Char) : Except UrlFault (Option Int) :=
  if cs.isEmpty then .ok none
  else
    match Integer.ofDecimal? (.ofList cs) with
    | none => .error (.portNumber (.ofList cs))
    | some n => .ok (if impliedNumber? scheme = some n then none else some n)

/-- Goes along a path; two dots leave the last segment, if there is one besides the root. -/
def walk (taken : List (List Char)) : List (List Char) → List (List Char)
  | [] => taken.reverse
  | segment :: segments =>
    if segment = ['.'] then walk taken segments
    else if segment = ['.', '.'] then
      walk (if taken = [[]] then taken else taken.drop 1) segments
    else walk (segment :: taken) segments

/-- A path without segments of dots. -/
def withoutDots (path : List Char) : List Char :=
  ['/'].intercalate (walk [] (Text.splitWhere (· == '/') path))

/-- Checks how a path starts. -/
def checkPath (hasScheme hasAuthority : Bool) (path : List Char) : Except UrlFault Unit :=
  if hasAuthority then
    if path.head?.any (· != '/') then .error .pathStart else .ok ()
  else if hasScheme then .ok ()
  else
    match path with
    | '/' :: '/' :: _ => .error .doubleSlash
    | ':' :: _ => .error .colon
    | _ => .ok ()

/-- A text with percent-encoding. -/
def encoded (keep : Char → Bool) (cs : List Char) : String := .ofList (Percent.encode keep cs)

/-- Gives the parts their normal form. -/
def ofParts (p : Parts) : Except UrlFault Url := do
  let (user, rest) := splitUser p.authority
  let (host, number) := splitHost rest
  let scheme := String.ofList (p.scheme.map Char.toLower)
  let user := encoded Percent.isUserChar user
  let host ← hostOf host
  let portNumber ← portNumberOf (.ofList p.scheme) number
  let hasAuthority := user ≠ "" || host ≠ "" || portNumber.isSome
  let hasScheme := scheme ≠ ""
  checkPath hasScheme hasAuthority p.path
  let path := if hasScheme || hasAuthority then withoutDots p.path else p.path
  return { scheme, user, host, portNumber
           path := encoded Percent.isPathChar path
           query := p.query.map (encoded Percent.isQueryChar)
           fragment := p.fragment.map (encoded Percent.isFragmentChar) }

/-- How long a URL or a part of it may be. -/
def longest : Nat := 65536

/-- The first character of ASCII that is not printable, with its offset. -/
def unprintable? (cs : List Char) : Option (Char × Nat) :=
  (cs.zipIdx).find? fun (c, _) => c.toNat < 0x20 || c.toNat = 0x7F

/-- Reads a URL. -/
def parse (s : String) : Except UrlFault Url :=
  let cs := s.toList
  if longest < cs.length then .error .tooLong
  else
    match unprintable? cs with
    | some (c, offset) => .error (.unprintable c offset)
    | none => ofParts (split cs)

/-! ## Text -/

/-- The host and the number behind it as they are written. -/
def place (u : Url) : String :=
  (if u.host.toList.contains ':' then "[" ++ u.host ++ "]" else u.host) ++
    (u.portNumber.map fun n => ":" ++ toString n).getD ""

/-- User and host as they are written. -/
def authority (u : Url) : String := (if u.user = "" then "" else u.user ++ "@") ++ u.place

/-- Path and query as they are written. -/
def pathText (u : Url) : String := u.path ++ (u.query.map ("?" ++ ·)).getD ""

/-- A URL as it is written. -/
def text (u : Url) : String :=
  (if u.scheme = "" then "" else u.scheme ++ ":") ++
    (if u.authority = "" then "" else "//" ++ u.authority) ++
    u.pathText ++ (u.fragment.map ("#" ++ ·)).getD ""

/-! ## Requests -/

/-- Whether a URL says by itself where to go. -/
def isAbsolute (u : Url) : Bool := u.scheme ≠ "" && u.host ≠ ""

/-- A relative URL as seen from the root. -/
def fromRoot (u : Url) : Except UrlFault Url :=
  let path := '/' :: u.path.toList.dropWhile (· == '/')
  if longest < path.length then .error (.partTooLong "path")
  else if u.query.any (longest < ·.length) then .error (.partTooLong "query")
  else .ok { path := .ofList path, query := u.query }

/-- The URL to which a request goes. -/
def target (s : String) : Except UrlFault Url := do
  let u ← parse s
  if u.isAbsolute then return u else u.fromRoot

/-- Name and password in a URL, if one of them is not empty. -/
def credentials? (u : Url) : Option (String × String) :=
  let (name, password) := splitAt? ':' u.user.toList
  let pair := (Percent.decode name, Percent.decode (password.getD []))
  if pair = ("", "") then none else some pair

/-- What is wrong with a host whose name was given in ASCII, if it was encoded. -/
def hostFault? (u : Url) : Option DomainFault :=
  let host := u.host.toList
  if Label.mark.isPrefixOf host then
    match Domain.ofAscii host with
    | .ok _ => none
    | .error f => some f
  else none

end Url

end TypedQuery
