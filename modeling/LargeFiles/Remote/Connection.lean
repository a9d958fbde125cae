import LargeFiles.Config
import LargeFiles.Http.Network
import LargeFiles.Remote.Client
import LargeFiles.Remote.Endpoint
import LargeFiles.Spill

/-!
# Connections

How one principal talks to an LFS service over HTTP.  Messages of the API go below the address of
the service and show the principal's credentials; transfers go to the links that the service
hands out and show nothing but what a link says.
-/

namespace LargeFiles.Remote

open Http (Network Request Response)

/-- What one principal's requests have in common. -/
structure Connection where
  /-- The address of the service, without slashes at its end. -/
  baseUrl : String
  credentials : Credentials
  userAgent : String
  spillThreshold : UInt64
  deriving DecidableEq

namespace Connection

/-- A connection with some credentials.  The user agent has to be a legal header. -/
def open? (config : Config) (credentials : Credentials) : Except RemoteError Connection :=
  if Http.Header.isLegalValue config.userAgent then
    .ok ⟨Endpoint.withoutSlashes config.url, credentials, config.userAgent, config.spillThreshold⟩
  else .error (.http config.url)

/-- How diagnostics show a connection, without its secrets. -/
def inspect (c : Connection) : String :=
  "HttpLfsClient \x7b base_url: " ++ Text.Quoted.string c.baseUrl ++ ", auth: " ++
    Text.Quoted.string c.credentials.displayName ++ " \x7d"

/-! ### Requests -/

/-- The header that shows some credentials. -/
def authorization : Credentials → List (String × String)
  | .anonymous => []
  | .bearer token => [("authorization", "Bearer " ++ token)]
  | .basic username password =>
    [("authorization", Request.basicAuthorization username password)]

/-- Where a path of the API is. -/
def address (c : Connection) (path : String) : String := Endpoint.join c.baseUrl path

/-- A request of the API. -/
def apiRequest? (c : Connection) (method : Http.Method) (path : String) : Option Request := do
  let request ← Request.to? method (c.address path)
  request.withHeaders? (("accept", Endpoint.mediaType) :: authorization c.credentials)

/-- A request of the API with a message. -/
def apiMessage? (c : Connection) (path : String) (message : Json) : Option Request := do
  let request ← c.apiRequest? .post path
  return (← request.withHeader? "content-type" Endpoint.mediaType).withJson message

/-- A request to a link that the service handed out. -/
def transferRequest? (method : Http.Method) (link : Api.Link) : Option Request := do
  (← Request.to? method link.href).withHeaders? link.header.toList

/-- The request that uploads some content. -/
def uploadRequest? (link : Api.Link) (content : Bytes) (size : UInt64) : Option Request := do
  let request ← transferRequest? .put link
  let request ← request.withHeaders?
    [("content-type", "application/octet-stream"), ("content-length", toString size.toNat)]
  return { request with body := content }

/-- The request that announces a finished upload. -/
def verifyRequest? (link : Api.Link) (object : Api.ObjectMeta) : Option Request := do
  let request ← transferRequest? .post link
  let request ← request.withHeaders?
    [("accept", Endpoint.mediaType), ("content-type", Endpoint.mediaType)]
  return request.withJson object.toJson

/-- Sends a request, if it could be built, and waits for the response. -/
def send (c : Connection) (request? : Option Request) (endpoint : String) :
    Session Network RemoteError Response :=
  match request? with
  | none => throw (.http endpoint)
  | some request =>
    .ofFunction fun network =>
      match network.exchange (request.complete c.userAgent) with
      | (some response, network) => (.ok response, network)
      | (none, network) => (.error (.http endpoint), network)

/-! ### Responses -/

/-- The message that a response carries. -/
def message (read : Json → Option α) (response : Response) (endpoint : String) :
    Except RemoteError α :=
  match response.content? with
  | none => .error (.http endpoint)
  | some content =>
    match (Json.parse? content).bind read with
    | some message => .ok message
    | none => .error (.deserialization endpoint)

/-- The error that an unexpected status makes. -/
def apiError (response : Response) (endpoint : String) : RemoteError :=
  .api endpoint response.status response.text

/-- The message of a response that has to be a success. -/
def successMessage (read : Json → Option α) (response : Response) (endpoint : String) :
    Except RemoteError α :=
  if response.isSuccess then message read response endpoint
  else .error (apiError response endpoint)

/-- The message of a response, which may also say that there is no such thing. -/
def optionalMessage (read : Json → Option α) (response : Response) (endpoint : String) :
    Except RemoteError (Option α) :=
  if response.status = Http.Status.notFound then .ok none
  else (successMessage read response endpoint).map some

/-! ### Objects -/

/-- Describes a stored object. -/
def getMeta (c : Connection) (hash : String) :
    Session Network RemoteError (Option Api.ObjectInfo) := do
  let path := Endpoint.object hash
  let response ← c.send (c.apiRequest? .get path) (c.address path)
  .ofExcept (optionalMessage Api.ObjectInfo.ofJson? response (c.address path))

/-- Negotiates the transfer of some objects. -/
def postBatch (c : Connection) (request : Api.BatchRequest) :
    Session Network RemoteError Api.BatchResponse := do
  let path := Endpoint.batch
  let response ← c.send (c.apiMessage? path request.toJson) (c.address path)
  .ofExcept (successMessage Api.BatchResponse.ofJson? response (c.address path))

/-- Ends an upload unless its step, which has a name, succeeded. -/
def expectAccepted (step : String) (object : Api.ObjectMeta) (response : Response) :
    Except RemoteError Unit :=
  if response.isSuccess then .ok ()
  else
    .error (.uploadRejected object.oid
      (step ++ " returned " ++ Http.Status.text response.status ++ ": " ++ response.text))

/-- Uploads through the links of an object, if there is one to upload through. -/
def putObject (c : Connection) (source : Source) (object : Api.ObjectMeta) (links : Api.Links) :
    Session Network RemoteError Bool :=
  match links.upload? with
  | none => pure false
  | some upload =>
    match source with
    | .error error => throw (.io error)
    | .ok content => do
      -- The content is opened before the request is built, so a bad link is found after it.
      let response ← c.send (uploadRequest? upload content object.size) upload.href
      .ofExcept (expectAccepted "upload" object response)
      match links.verify? with
      | none => pure true
      | some verify => do
        let response ← c.send (verifyRequest? verify object) verify.href
        .ofExcept (expectAccepted "verify" object response)
        return true

/-- Gathers the pieces of a body as they arrive.  One that breaks off is of no use. -/
def gather (endpoint : String) (whole : Bool) (buffer : Spill.Buffer) :
    List Bytes → Except RemoteError Spill.Buffer
  | [] => if whole then .ok buffer else .error (.http endpoint)
  | piece :: rest => gather endpoint whole (buffer.write piece) rest

/-- The content that a response carries. -/
def contentOf (c : Connection) (response : Response) (endpoint : String) :
    Except RemoteError Bytes :=
  if response.isSuccess then do
    let buffer ← gather endpoint response.whole (.empty c.spillThreshold) response.body
    return buffer.finish.drain
  else .error (apiError response endpoint)

/-- Downloads through the links of an object. -/
def getObject (c : Connection) (links : Api.Links) : Session Network RemoteError Bytes :=
  match links.download? with
  | none => throw (.missingLink "download")
  | some download => do
    let response ← c.send (transferRequest? .get download) download.href
    .ofExcept (c.contentOf response download.href)

/-! ### Locks -/

/-- The lock that a response to a request for one carries, or the conflict. -/
def lockOf (response : Response) (endpoint : String) : Except RemoteError Api.Lock :=
  -- A conflict that cannot be read is not reported as a conflict.
  if response.status = Http.Status.conflict then
    match message Api.LockConflict.ofJson? response endpoint with
    | .ok conflict => .error (.lockConflict conflict)
    | .error error => .error error
  else (successMessage Api.LockResponse.ofJson? response endpoint).map (·.lock)

/-- Locks a path. -/
def lock (c : Connection) (path : String) (ref : Option Api.Ref) :
    Session Network RemoteError Api.Lock := do
  let request : Api.CreateLockRequest := ⟨path, ref⟩
  let address := c.address Endpoint.locks
  let response ← c.send (c.apiMessage? Endpoint.locks request.toJson) address
  .ofExcept (lockOf response address)

/-- Removes the lock with an id, if there is one. -/
def unlock (c : Connection) (id : String) (force : Bool) (ref : Option Api.Ref) :
    Session Network RemoteError (Option Api.Lock) := do
  let request : Api.DeleteLockRequest := ⟨force, ref⟩
  let path := Endpoint.unlock id
  let response ← c.send (c.apiMessage? path request.toJson) (c.address path)
  let answer ← .ofExcept (optionalMessage Api.LockResponse.ofJson? response (c.address path))
  return answer.map (·.lock)

/-- The cursor of the page after this one. -/
def following (cursor : Option String) : Option String := cursor.filter (!·.isEmpty)

/-- The request for a page of the listed locks. -/
def listRequest? (c : Connection) (path id : Option String) (ref : Option Api.Ref)
    (cursor : Option String) : Option Request := do
  let request ← c.apiRequest? .get Endpoint.locks
  let named (name : String) (value : Option String) := value.toList.map fun v => (name, v)
  let query := named "path" path ++ named "id" id ++ named "refspec" (ref.map (·.name)) ++
    named "cursor" cursor
  return { request with url := request.url.withQuery query }

/-- The locks from the page at a cursor on, of which there may be at most `fuel` pages. -/
def listFrom (c : Connection) (path id : Option String) (ref : Option Api.Ref) :
    (fuel : Nat) → (cursor : Option String) → Session Network RemoteError (List Api.Lock)
  | 0, _ => throw (.http (c.address Endpoint.locks))
  | fuel + 1, cursor => do
    let address := c.address Endpoint.locks
    let response ← c.send (c.listRequest? path id ref cursor) address
    let page ← .ofExcept (successMessage Api.LockPage.ofJson? response address)
    match following page.nextCursor with
    | some next => return page.locks ++ (← c.listFrom path id ref fuel (some next))
    | none => return page.locks

/-- A bound on the number of pages: one for each reply, and one that ends the listing. -/
def pageLimit : Session Network RemoteError Nat :=
  .ofFunction fun network => (.ok (network.replies.length + 1), network)

/-- Lists the locks with the given path and id, page by page. -/
def listLocks (c : Connection) (path id : Option String) (ref : Option Api.Ref) :
    Session Network RemoteError (List Api.Lock) := do
  c.listFrom path id ref (← pageLimit) none

/-- The caller's locks and those of others from the page at a cursor on. -/
def verifyFrom (c : Connection) (ref : Option Api.Ref) :
    (fuel : Nat) → (cursor : Option String) → Session Network RemoteError Api.VerifyPage
  | 0, _ => throw (.http (c.address Endpoint.locksVerify))
  | fuel + 1, cursor => do
    let request : Api.VerifyRequest := ⟨ref, cursor⟩
    let address := c.address Endpoint.locksVerify
    let response ← c.send (c.apiMessage? Endpoint.locksVerify request.toJson) address
    let page ← .ofExcept (successMessage Api.VerifyPage.ofJson? response address)
    match following page.nextCursor with
    | some next =>
      let rest ← c.verifyFrom ref fuel (some next)
      return ⟨page.ours ++ rest.ours, page.theirs ++ rest.theirs, none⟩
    | none => return ⟨page.ours, page.theirs, none⟩

/-- Tells the caller's locks and those of others apart, page by page. -/
def verifyLocks (c : Connection) (ref : Option Api.Ref) :
    Session Network RemoteError Api.VerifyPage := do
  c.verifyFrom ref (← pageLimit) none

/-- The operations of a connection. -/
def client (c : Connection) : Client Network where
  getMeta := c.getMeta
  postBatch := c.postBatch
  putObject := c.putObject
  getObject := c.getObject
  lock := c.lock
  unlock := c.unlock
  listLocks := c.listLocks
  verifyLocks := c.verifyLocks

end Connection

end LargeFiles.Remote
