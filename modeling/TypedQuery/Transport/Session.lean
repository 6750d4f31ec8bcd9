import TypedQuery.Query.Request
import TypedQuery.Response.Decoder
import TypedQuery.Transport.Http

/-!
# Sending requests

A `Session` sends requests to one end point, one after the other. `Session.send` sends a request and
puts the data of the reply into its response wrapper, `Session.sendAll` goes on to the next request
whatever became of the one before.
-/

namespace TypedQuery

/-- Why a request has no response. -/
inductive SendError where
  | transport (why : TransportError)
  /-- The data is there, but not the wrapper for it. -/
  | wrapping (why : DecodeError)

/-- A request, the scope in which its response wrapper is made, and the reply of the server. -/
structure Exchange where
  request : Request
  scope : WrapperScope
  reply : HttpReply

/-- Puts the data of the reply into the response wrapper. -/
def Exchange.wrap (x : Exchange) : Except TransportError (Table Json) → Except SendError Response
  | .error e => .error (.transport e)
  | .ok data => (Response.make x.scope x.request.response {} data).mapError .wrapping

/-- The end point that requests go to, and the messages sent so far. -/
structure Session where
  transport : Transport
  sent : List HttpMessage := []

namespace Session

/-- Sends one request. -/
def send (s : Session) (x : Exchange) : Session × Except SendError Response :=
  let (messages, result) :=
    s.transport.execute x.request.document .null x.request.operationName x.reply
  ({ s with sent := s.sent ++ messages }, x.wrap result)

/-- Sends requests one after the other. -/
def sendAll (s : Session) : List Exchange → Session × List (Except SendError Response)
  | [] => (s, [])
  | x :: xs =>
    let (next, response) := s.send x
    let (last, responses) := next.sendAll xs
    (last, response :: responses)

end Session

end TypedQuery
