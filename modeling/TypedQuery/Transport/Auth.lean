import TypedQuery.Table
import TypedQuery.Text.Base64
import TypedQuery.Text.Utf8

/-!
# Authentication

An `Auth` says which headers a request carries besides its content type.
-/

namespace TypedQuery

/-- A way of authentication. -/
inductive Auth where
  | none
  | bearer (token : String)
  /-- A key in a header of its own. -/
  | apiKey (key : String) (header : String)
  | basic (username password : String)
  /-- Headers of the user's own. -/
  | custom (headers : List (String × String))
  deriving DecidableEq

namespace Auth

/-- The header of an API key, unless another is named. -/
def defaultKeyHeader : String := "x-api-key"

/-- The value of the header for a name and a password. -/
def basicValue (username password : String) : String :=
  "Basic " ++ Base64.encode (Utf8.encode (username ++ ":" ++ password))

/-- The headers of the authentication. -/
def headers : Auth → Table String
  | .none => []
  | .bearer token => [("Authorization", "Bearer " ++ token)]
  | .apiKey key header => [(header, key)]
  | .basic username password => [("Authorization", basicValue username password)]
  | .custom headers => .ofList headers

/-- All headers of a request. The authentication may also replace the content type. -/
def allHeaders (a : Auth) : Table String :=
  Table.putAll [("Content-Type", "application/json")] a.headers

/-- Whether a header tells who sends a request. -/
def isAuthorization (name : String) : Bool := name.toLower == "authorization"

/-- Puts name and password into the headers: in place of the first header that tells who sends the
request, and without the other ones, or behind all headers. -/
def authorize (username password : String) (headers : Table String) : Table String :=
  let own := ("Authorization", basicValue username password)
  let isOther := fun (h : String × String) => !isAuthorization h.1
  if headers.all isOther then headers ++ [own]
  else headers.takeWhile isOther ++ own :: (headers.dropWhile isOther).filter isOther

end Auth

end TypedQuery
