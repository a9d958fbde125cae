import LargeFiles.Http.Header
import LargeFiles.Http.Url
import LargeFiles.Json.Value
import LargeFiles.Text.Base64

/-!
# Requests

A request is built step by step; a step that is given something illegal fails.
-/

namespace LargeFiles.Http

/-- What is to be done with the thing at an address. -/
inductive Method
  | get
  | post
  | put
  deriving DecidableEq, Repr

/-- The name of a method in a request. -/
def Method.name : Method → String
  | get => "GET"
  | post => "POST"
  | put => "PUT"

/-- A request.  Its headers are in the order in which they were set. -/
structure Request where
  method : Method
  url : Url
  headers : List Header
  body : Bytes
  deriving DecidableEq

namespace Request

/-- The value of the header that proves who a user is by a password. -/
def basicAuthorization (username password : String) : String :=
  "Basic " ++ Text.Base64.encode (Bytes.ofString (username ++ ":" ++ password))

/-- The user name and the password of a URL, unless they are no text. -/
def userOf? (url : Url) : Option (String × String) :=
  if url.user.isEmpty && url.password.isEmpty then none
  else
    match Bytes.toString? (Text.Percent.decode (Bytes.ofString url.user)) with
    | none => none
    | some user =>
      -- A password that is no text counts as empty.
      let password := Bytes.toString? (Text.Percent.decode (Bytes.ofString url.password))
      some (user, password.getD "")

/-- A request to a URL.  A user that the URL names goes from there into a header. -/
def ofUrl (method : Method) (url : Url) : Request :=
  match userOf? url with
  | none => ⟨method, url, [], []⟩
  | some (user, password) =>
    ⟨method, { url with user := "", password := "" },
      [⟨"authorization", basicAuthorization user password⟩], []⟩

/-- A request to the address that a text names. -/
def to? (method : Method) (address : String) : Option Request :=
  (Url.parse? address).map (ofUrl method)

/-- Sets a further header. -/
def withHeader? (request : Request) (name value : String) : Option Request :=
  (Header.make? name value).map fun header =>
    { request with headers := request.headers ++ [header] }

/-- Sets further headers, in their order. -/
def withHeaders? (request : Request) (pairs : List (String × String)) : Option Request :=
  pairs.foldlM (fun request pair => request.withHeader? pair.1 pair.2) request

/-- Whether a header is set. -/
def hasHeader (request : Request) (name : String) : Bool :=
  request.headers.any (·.name == name)

/-- Sets a header that has not been set. -/
def withDefault (request : Request) (name value : String) : Request :=
  if request.hasHeader name then request
  else { request with headers := request.headers ++ [⟨name, value⟩] }

/-- Puts a JSON value into the body. -/
def withJson (request : Request) (v : Json) : Request := { request with body := v.render }

/-- Adds what every request says: what is accepted, who asks and how long the body is. -/
def complete (request : Request) (userAgent : String) : Request :=
  let request := (request.withDefault "accept" "*/*").withDefault "user-agent" userAgent
  if request.body.isEmpty then request
  else request.withDefault "content-length" (toString request.body.length)

end Request

end LargeFiles.Http
