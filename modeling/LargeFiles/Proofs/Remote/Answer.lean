import LargeFiles.Proofs.Http.Exchange
import LargeFiles.Proofs.Http.Request
import LargeFiles.Proofs.Remote.Credentials
import LargeFiles.Remote.Pool

/-!
# Requests of a connection and their answers

What a call of the API sends is one request, unless it cannot be built, and what comes of it is
read off the response.  The functions `success?`, `granted?` and `conflict?` say what a response
tells; a request that was dropped tells nothing.

* `Connection.builds_iff`           either all requests of the API can be built or none;
* `Connection.exists_apiMessage?`   what a message of the API asks for;
* `Connection.converses_send`       one request is sent, whatever comes of it;
* `lockOf_eq_ok_iff`, …             what the calls read off a response;
* `Access.outcome_client_bind_of_ok`  what a caller asks for over the connection of a pool.
-/

namespace LargeFiles.Remote

open Http (Exchange Header Network Request Response Url)

variable {α : Type}

/-! ### Responses -/

/-- What a response carries, if its body arrives to the end and can be read. -/
def decoded? (read : Json → Option α) (response : Response) : Option α :=
  response.content?.bind fun content => (Json.parse? content).bind read

/-- What a response carries that arrived and says that the request succeeded. -/
def success? (read : Json → Option α) (response : Option Response) : Option α :=
  response.bind fun response => if response.isSuccess then decoded? read response else none

/-- The lock that a response grants. -/
def granted? (response : Option Response) : Option Api.Lock :=
  (success? Api.LockResponse.ofJson? response).map (·.lock)

/-- The conflict that a response reports, with the lock that is held already. -/
def conflict? (response : Option Response) : Option Api.LockConflict :=
  response.bind fun response =>
    if response.status = Http.Status.conflict then decoded? Api.LockConflict.ofJson? response
    else none

/-- The response arrived and says that the request succeeded. -/
def Succeeded (response : Option Response) : Prop :=
  ∃ arrived, response = some arrived ∧ arrived.isSuccess = true

/-- The response says that there is no such lock, or which lock was removed. -/
def Removed (response : Option Response) : Prop :=
  (∃ arrived, response = some arrived ∧ arrived.status = Http.Status.notFound) ∨
    (granted? response).isSome = true

/-- What a response to a removal tells: which lock was removed, or that there is no such lock. -/
def removal? (response : Option Response) : Option (Option Api.Lock) :=
  response.bind fun arrived =>
    if arrived.status = Http.Status.notFound then some none
    else (granted? (some arrived)).map some

/-- What comes of a request, given what is read off the response. -/
def answer (endpoint : String) (read : Response → Except RemoteError α) :
    Option Response → Except RemoteError α
  | none => .error (.http endpoint)
  | some response => read response

theorem exists_error_iff {ε : Type} {result : Except ε α} :
    (∃ e, result = .error e) ↔ ∀ a, result ≠ .ok a := by
  cases result <;> simp

section

variable {read : Json → Option α} {response : Response} {a : α} (endpoint : String)

/-- A message is given exactly if the response can be decoded. -/
theorem message_eq_ok_iff :
    Connection.message read response endpoint = .ok a ↔ decoded? read response = some a := by
  rw [Connection.message, decoded?]
  cases response.content? with
  | none => simp
  | some content =>
    dsimp only [Option.bind_some]
    cases (Json.parse? content).bind read <;> simp

/-- What cannot be read is no conflict about a lock. -/
theorem message_ne_conflict (read : Json → Option α) (response : Response) (endpoint : String)
    (conflict : Api.LockConflict) :
    Connection.message read response endpoint ≠ .error (.lockConflict conflict) := by
  rw [Connection.message]
  split
  · simp
  · split <;> simp

/-- A message is given exactly if the response has a status of success and can be decoded. -/
theorem answer_successMessage_eq_ok_iff {response : Option Response} :
    answer endpoint (Connection.successMessage read · endpoint) response = .ok a ↔
      success? read response = some a := by
  cases response with
  | none => simp [answer, success?]
  | some response =>
    simp only [answer, Connection.successMessage, success?, Option.bind_some]
    split
    · exact message_eq_ok_iff endpoint
    · simp

/-- A call fails unless its response is a success that can be read. -/
theorem answer_successMessage_eq_error_iff {response : Option Response} :
    (∃ e, answer endpoint (Connection.successMessage read · endpoint) response = .error e) ↔
      success? read response = none := by
  rw [exists_error_iff, Option.eq_none_iff_forall_ne_some]
  simp only [ne_eq, answer_successMessage_eq_ok_iff]

end

section

variable {response : Option Response} (endpoint : String)

/-- A conflict is no success. -/
theorem isSuccess_conflict : Http.Status.isSuccess Http.Status.conflict = false := by decide

/-- A lock is given exactly if the response grants it. -/
theorem lockOf_eq_ok_iff {lock : Api.Lock} :
    answer endpoint (Connection.lockOf · endpoint) response = .ok lock ↔
      granted? response = some lock := by
  cases response with
  | none => simp [answer, granted?, success?]
  | some response =>
    simp only [answer, Connection.lockOf, granted?]
    split
    · next status =>
      -- Whatever a conflict carries, it grants nothing.
      have refused : success? Api.LockResponse.ofJson? (some response) = none := by
        simp [success?, Response.isSuccess, status, isSuccess_conflict]
      rw [refused]
      split <;> simp
    · rw [Option.map_eq_some_iff]
      simp only [← answer_successMessage_eq_ok_iff endpoint, answer]
      cases Connection.successMessage Api.LockResponse.ofJson? response endpoint <;>
        simp [Except.map]

/-- A conflict is given exactly if the response tells of it. -/
theorem lockOf_eq_conflict_iff {conflict : Api.LockConflict} :
    answer endpoint (Connection.lockOf · endpoint) response = .error (.lockConflict conflict) ↔
      conflict? response = some conflict := by
  cases response with
  | none => simp [answer, conflict?]
  | some response =>
    simp only [answer, Connection.lockOf, conflict?, Option.bind_some]
    split
    · rw [← message_eq_ok_iff endpoint]
      split
      · next found => simp [found]
      · next failed =>
        rw [failed]
        -- A body that cannot be decoded gives an error, but never this one.
        have other := message_ne_conflict Api.LockConflict.ofJson? response endpoint conflict
        rw [failed] at other
        simpa using other
    · -- Any other status is no conflict, whatever the body may say.
      simp only [reduceCtorEq, iff_false]
      rw [Connection.successMessage]
      split
      · have other := message_ne_conflict Api.LockResponse.ofJson? response endpoint conflict
        cases found : Connection.message Api.LockResponse.ofJson? response endpoint with
        | ok lock => simp [Except.map]
        | error error =>
          rw [found] at other
          simpa [Except.map] using other
      · simp [Except.map, Connection.apiError]

/-- What a removal gives is what the response tells. -/
theorem optionalMessage_eq_ok_iff {removed : Option Api.Lock} :
    (answer endpoint (Connection.optionalMessage Api.LockResponse.ofJson? · endpoint)
      response).map (·.map (·.lock)) = .ok removed ↔ removal? response = some removed := by
  cases response with
  | none => simp [answer, removal?, Except.map]
  | some response =>
    simp only [answer, Connection.optionalMessage, removal?, Option.bind_some]
    split
    · simp [Except.map]
    · -- Without an absence it is read as any other message.
      have read := @answer_successMessage_eq_ok_iff _ Api.LockResponse.ofJson?
      simp only [granted?, Option.map_map, Option.map_eq_some_iff, ← read endpoint, answer]
      cases Connection.successMessage Api.LockResponse.ofJson? response endpoint <;>
        simp [Except.map]

/-- A removal tells something if the lock is gone. -/
theorem isSome_removal?_iff : (removal? response).isSome = true ↔ Removed response := by
  cases response with
  | none => simp [removal?, Removed, granted?, success?]
  | some response =>
    simp only [removal?, Removed, Option.bind_some, Option.some.injEq, exists_eq_left']
    split
    · next status => simp [status]
    · next status => simp [status]

end

/-! ### Requests -/

namespace Connection

/-- All requests of the API can be built.  As `Url.parse?` knows only hosts in ASCII, a connection
    to any other is not among those for which this holds. -/
def Builds (c : Connection) : Prop :=
  ∀ method path, IsApiPath path → (c.apiRequest? method path).isSome = true

/-- A request sends a message to a path of the API. -/
def Posts (c : Connection) (path : String) (message : Json) (request : Request) : Prop :=
  ∃ url, Url.parse? (c.address path) = some url ∧ request.Asks .post url message.render

/-- A request of the API can be built if its address can be read and the credentials can be
    shown. -/
theorem isSome_apiRequest?_iff (c : Connection) (method : Http.Method) (path : String) :
    (c.apiRequest? method path).isSome = true ↔
      (Url.parse? (c.address path)).isSome = true ∧
        ((("accept", Endpoint.mediaType) :: authorization c.credentials).mapM fun pair =>
          Header.make? pair.1 pair.2).isSome = true := by
  rw [apiRequest?, Request.to?]
  cases Url.parse? (c.address path) with
  | none => simp
  | some url =>
    simp only [Option.map_some, Option.isSome_some, Option.bind_eq_bind, Option.bind_some,
      true_and, Request.withHeaders?_eq, Option.isSome_map]

/-- An address below the service can be read whatever its path is. -/
theorem isSome_parse?_address (c : Connection) {path other : String} (api : IsApiPath other)
    (read : (Url.parse? (c.address path)).isSome = true) :
    (Url.parse? (c.address other)).isSome = true := by
  rw [Url.isSome_parse?_iff] at read ⊢
  rcases Url.authority?_join_cases c.baseUrl with ⟨authority, same⟩ | ⟨secure, first⟩
  · rw [address, same] at read ⊢
    exact read
  · -- The first segment of the path is read as the host.
    have hosts : ∀ secure, (Url.server? secure "objects".toList).isSome = true ∧
        (Url.server? secure "locks".toList).isSome = true := by decide
    refine ⟨_, first other, ?_⟩
    rcases api.firstPart_cases with segment | segment
    · rw [segment]
      exact (hosts secure).1
    · rw [segment]
      exact (hosts secure).2

/-- If one request of the API can be built, all of them can. -/
theorem builds_iff (c : Connection) (method : Http.Method) {path : String}
    (api : IsApiPath path) : c.Builds ↔ (c.apiRequest? method path).isSome = true := by
  refine ⟨fun builds => builds method path api, fun built method' path' api' => ?_⟩
  rw [isSome_apiRequest?_iff] at built ⊢
  exact ⟨c.isSome_parse?_address api' built.1, built.2⟩

instance (c : Connection) : Decidable c.Builds :=
  decidable_of_iff ((c.apiRequest? .get Endpoint.locks).isSome = true)
    (c.builds_iff .get .locks).symm

/-- What a request of the API asks for. -/
theorem exists_apiRequest? {c : Connection} (builds : c.Builds) (method : Http.Method)
    {path : String} (api : IsApiPath path) :
    ∃ request url, c.apiRequest? method path = some request ∧
      Url.parse? (c.address path) = some url ∧ request.Asks method url [] := by
  obtain ⟨request, built⟩ := Option.isSome_iff_exists.1 (builds method path api)
  have steps := built
  rw [apiRequest?, Request.to?, Option.bind_eq_bind, Option.bind_eq_some_iff] at steps
  obtain ⟨start, addressed, set⟩ := steps
  obtain ⟨url, read, rfl⟩ := Option.map_eq_some_iff.1 addressed
  exact ⟨request, url, built, read, (Request.asks_ofUrl method url).of_withHeaders? set⟩

/-- What a message of the API asks for. -/
theorem exists_apiMessage? {c : Connection} (builds : c.Builds) {path : String}
    (api : IsApiPath path) (message : Json) :
    ∃ request, c.apiMessage? path message = some request ∧
      c.Posts path message (request.complete c.userAgent) := by
  obtain ⟨start, url, built, read, asks⟩ := exists_apiRequest? builds .post api
  have typed : start.withHeader? "content-type" Endpoint.mediaType =
      some { start with headers := start.headers ++ [contentType] } := rfl
  have body : ({ start with headers := start.headers ++ [contentType] } : Request).withJson
      message |>.Asks .post url message.render := ⟨asks.method, asks.url, rfl⟩
  refine ⟨_, ?_, url, read, body.complete c.userAgent⟩
  rw [apiMessage?, built, Option.bind_eq_bind, Option.bind_some, typed]
  rfl

/-- No message can be built if no request can. -/
theorem apiMessage?_eq_none {c : Connection} (fails : ¬ c.Builds) {path : String}
    (api : IsApiPath path) (message : Json) : c.apiMessage? path message = none := by
  rw [c.builds_iff .post api, Bool.not_eq_true, Option.isSome_eq_false_iff,
    Option.isNone_iff_eq_none] at fails
  rw [apiMessage?, fails]
  rfl

/-! ### Sending -/

/-- A request is completed and sent, and what comes back is the answer. -/
theorem outcome_send (c : Connection) (request : Request) (endpoint : String)
    (network : Network) :
    (c.send (some request) endpoint).outcome network =
      (answer endpoint .ok (network.exchange (request.complete c.userAgent)).1,
        (network.exchange (request.complete c.userAgent)).2) := by
  rw [send, Session.outcome_ofFunction]
  rcases network.exchange (request.complete c.userAgent) with ⟨_ | response, after⟩ <;> rfl

/-- A request that was built is sent, and nothing else; what comes of it is the response, if it
    arrives. -/
theorem converses_send (c : Connection) {request? : Option Request} {request : Request}
    (built : request? = some request) (endpoint : String) :
    (c.send request? endpoint).Converses id fun log result =>
      ∃ response, log = [⟨request.complete c.userAgent, response⟩] ∧
        result = answer endpoint .ok response := by
  intro network reachable
  rw [built, outcome_send]
  exact ⟨_, Network.exchanges_exchange reachable _, _, rfl, rfl⟩

/-- A request is sent, and what comes of it is read off the response. -/
theorem converses_ask (c : Connection) {request? : Option Request} {request : Request}
    (built : request? = some request) (endpoint : String)
    (read : Response → Except RemoteError α) :
    (c.send request? endpoint >>= fun response => .ofExcept (read response)).Converses id
      fun log result => ∃ response, log = [⟨request.complete c.userAgent, response⟩] ∧
        result = answer endpoint read response := by
  apply (c.converses_send built endpoint).bind
  · rintro _ error ⟨response, rfl, lost⟩
    -- No response is an error of its own, and nothing is read from it.
    cases response with
    | none =>
      cases lost
      exact ⟨none, rfl, rfl⟩
    | some response => cases lost
  · rintro _ arrived ⟨response, rfl, came⟩
    cases response with
    | none => cases came
    | some response =>
      cases came
      exact .ofExcept ⟨some arrived, rfl, rfl⟩

/-! ### Batches -/

/-- A batch takes one request, and gives what the response carries. -/
theorem converses_postBatch {c : Connection} (builds : c.Builds) (request : Api.BatchRequest) :
    (c.postBatch request).Converses id fun log result =>
      ∃ ask, log = [ask] ∧ c.Posts Endpoint.batch request.toJson ask.request ∧
        ∀ response, result = .ok response ↔
          success? Api.BatchResponse.ofJson? ask.response = some response := by
  obtain ⟨message, built, posts⟩ := exists_apiMessage? builds .batch request.toJson
  refine (c.converses_ask built _ _).imp ?_
  rintro _ _ ⟨response, rfl, rfl⟩
  exact ⟨_, rfl, posts, fun _ => answer_successMessage_eq_ok_iff _⟩

/-- If the address cannot be built nothing is sent. -/
theorem converses_postBatch_of_not_builds {c : Connection} (fails : ¬ c.Builds)
    (request : Api.BatchRequest) :
    (c.postBatch request).Converses id fun log result =>
      log = [] ∧ ∃ error, result = .error error := by
  rw [postBatch, apiMessage?_eq_none fails .batch]
  exact .throw ⟨rfl, _, rfl⟩

end Connection

/-! ### Connections of a pool -/

/-- The client of a connection, on a way of access. -/
def Connection.reached (c : Connection) : Client Access :=
  c.client.onPart Access.network fun access network => { access with network }

/-- Through a client a batch is posted on the network of the whole access. -/
theorem reached_postBatch (c : Connection) (request : Api.BatchRequest) :
    c.reached.postBatch request = (c.postBatch request).onPart Access.network
      fun access network => { access with network } := by
  rw [Connection.reached, Client.onPart, Connection.client]

namespace Access

variable {access : Access} {who : Principal}

/-- A client is made of the connection that the pool gives. -/
theorem outcome_client (access : Access) (who : Principal) :
    (provider.client who).outcome access =
      ((access.pool.connection who).1.map Connection.reached,
        { access with pool := (access.pool.connection who).2 }) := rfl

/-- What a caller asks for fails if the caller's connection cannot be opened. -/
theorem outcome_client_bind_of_error {error : RemoteError}
    (failed : (access.pool.connection who).1 = .error error)
    (f : Client Access → Session Access RemoteError α) :
    (provider.client who >>= f).outcome access =
      (.error error, { access with pool := (access.pool.connection who).2 }) := by
  rw [Session.outcome_bind, outcome_client, failed]
  rfl

/-- Otherwise it is done over this connection. -/
theorem outcome_client_bind_of_ok {c : Connection}
    (opened : (access.pool.connection who).1 = .ok c)
    (f : Client Access → Session Access RemoteError α) :
    (provider.client who >>= f).outcome access =
      (f c.reached).outcome { access with pool := (access.pool.connection who).2 } := by
  rw [Session.outcome_bind, outcome_client, opened]
  rfl

end Access

end LargeFiles.Remote
