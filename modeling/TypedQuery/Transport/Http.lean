import TypedQuery.Json.Compact
import TypedQuery.Json.Reader
import TypedQuery.Text.Encoding
import TypedQuery.Transport.Auth
import TypedQuery.Transport.Envelope
import TypedQuery.Transport.Status
import TypedQuery.Url

/-!
# Queries over HTTP

A query is one POST of a JSON object, and its answer is one reply. `Transport.post` makes the
message, `Transport.receive` reads the reply, and `Transport.execute` puts both together: at most
one message is sent for a query, whatever becomes of it.
-/

namespace TypedQuery

/-- The end point of a server. -/
structure Transport where
  url : String
  auth : Auth := .none

/-- A message to a server. -/
structure HttpMessage where
  method : String
  url : Url
  headers : Table String
  body : String
  deriving DecidableEq

/-- A reply from a server. -/
structure HttpReply where
  status : Int := 200
  body : List UInt8 := []

/-- Why a query has no data. -/
inductive TransportError where
  /-- The end point has no URL, so nothing was sent. -/
  | url (fault : UrlFault)
  /-- A header is not ASCII, so nothing was sent. -/
  | header
  /-- A number in the body is not finite, so nothing was sent. -/
  | notFinite
  /-- The host was encoded, but no domain name is encoded so. Nothing was sent. -/
  | host (fault : DomainFault)
  /-- The message was sent, but its URL does not say where to. -/
  | relative (url : String)
  | status (code : Int) (url : String)
  | encoding (fault : Encoding.Fault)
  | syntaxFault (fault : Json.Fault) (text : String)
  | envelope (faults : List Envelope.Fault)
  | answered (errors : List (Table Json))

namespace TransportError

/-- The error in words. -/
def message : TransportError → String
  | .url f => f.message
  | .header => ""
  | .notFinite => "Out of range float values are not JSON compliant"
  | .host f => f.message
  | .relative target => "unknown url type: " ++ Text.quote target
  | .status code target => Status.failureText code target
  | .encoding f => f.message
  | .syntaxFault f text => f.message text
  | .envelope _ => ""
  | .answered errors => Envelope.errorsText errors

end TransportError

namespace Transport

/-- How many seconds to wait for a reply, unless another limit is given. -/
def defaultTimeout : Binary64 := .ofDecimal false 30 0

/-- Whether a text is ASCII. -/
def isAscii (s : String) : Bool := s.toList.all fun c => c.toNat < 0x80

/-- The body of a query. Variables and operation name are left out if they are empty. -/
def payload (document : String) (variableValues : Json) (operationName : Option String) : Json :=
  let name := Json.str (operationName.getD "")
  .object ([("query", .str document)] ++
    (if variableValues.isTruthy then [("variables", variableValues)] else []) ++
    (if name.isTruthy then [("operationName", name)] else []))

/-- Whether two header names are the same. -/
def sameName (a b : String) : Bool := a.toLower == b.toLower

/-- Checks that a host can be named in a header of its own, unless the headers name one. -/
def checkHost (url : Url) (headers : Table String) : Except TransportError Unit :=
  if headers.any (sameName "Host" ·.1) then .ok ()
  else
    match url.hostFault? with
    | some f => .error (.host f)
    | none => if isAscii url.host then .ok () else .error .header

/-- The message for a query. Name and password in the URL take the place of another
authentication. -/
def post (t : Transport) (document : String) (variableValues : Json)
    (operationName : Option String) :
    Except TransportError HttpMessage := do
  let url ← (Url.target t.url).mapError .url
  let headers := t.auth.allHeaders
  if !headers.all fun (name, value) => isAscii name && isAscii value then throw .header
  match (payload document variableValues operationName).compact? with
  | none => throw .notFinite
  | some body =>
    checkHost url headers
    let headers := match url.credentials? with
      | none => headers
      | some (name, password) => Auth.authorize name password headers
    return ⟨"POST", url, headers, body⟩

/-- Reads a body as JSON. -/
def readBody (body : List UInt8) : Except TransportError Json :=
  match Encoding.decode body with
  | .error f => .error (.encoding f)
  | .ok text =>
    match Json.parseChars text.toList with
    | .error f => .error (.syntaxFault f text)
    | .ok v => .ok v

/-- The data in a reply to a message to `url`. -/
def receive (url : Url) (reply : HttpReply) : Except TransportError (Table Json) :=
  if !url.isAbsolute then .error (.relative url.text)
  else if Status.isSuccess reply.status then do
    let v ← readBody reply.body
    match Envelope.ofJson v with
    | .error faults => .error (.envelope faults)
    | .ok e =>
      match e.result with
      | .error errors => .error (.answered errors)
      | .ok data => .ok data
  else .error (.status reply.status url.text)

/-- Runs a query that the server answers with `reply`: what is sent, and the data or the error. -/
def execute (t : Transport) (document : String) (variableValues : Json)
    (operationName : Option String)
    (reply : HttpReply) : List HttpMessage × Except TransportError (Table Json) :=
  match t.post document variableValues operationName with
  | .error e => ([], .error e)
  | .ok m => ([m], receive m.url reply)

end Transport

end TypedQuery
