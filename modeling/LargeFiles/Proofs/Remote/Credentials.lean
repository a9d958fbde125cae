import LargeFiles.Proofs.Http.Url
import LargeFiles.Proofs.Remote.Locking
import LargeFiles.Proofs.Session
import LargeFiles.Remote.Connection
import Mathlib.Data.List.Forall2
import Mathlib.Data.Option.Basic

/-!
# Requests that show credentials

A request of the API is an unsigned request with the header that shows the credentials put in
after what is accepted.  A connection with other credentials therefore sends the same requests
with another header in this place, and is given the same answers; transfers show nothing at all.

* `isLegalValue_basicAuthorization`       a password never makes a header illegal;
* `apiRequest?_eq`, `apiMessage?_eq`      a request of the API is a signed one;
* `matches_send`                          sending two requests that correspond to each other;
* `matches_postBatch`, …                  what goes to the API, with the one header changed;
* `matches_getObject`, `matches_putObject` what goes to links, which is the same.
-/

namespace LargeFiles

open Http (Header Network Request Url)

/-! ### Legal headers -/

/-- A character that may stand in the value of a header. -/
def Http.Header.isValueChar (c : Char) : Bool := c == '\t' || (' ' ≤ c && c != '\x7f')

theorem Text.Base64.isValueChar_digit : ∀ n, Header.isValueChar (digit n) = true :=
  Bytes.forall_byte (by decide +kernel)

/-- Text in Base64 may stand in the value of a header. -/
theorem Text.Base64.isValueChar_of_mem_encodeChars {bytes : Bytes} {c : Char}
    (mem : c ∈ encodeChars bytes) : Header.isValueChar c = true := by
  fun_induction encodeChars bytes with
  | case1 a b d rest ih =>
    simp only [List.mem_cons] at mem
    rcases mem with rfl | rfl | rfl | rfl | mem
    · exact isValueChar_digit _
    · exact isValueChar_digit _
    · exact isValueChar_digit _
    · exact isValueChar_digit _
    · exact ih mem
  -- The last group is filled up with equals signs, which may stand there too.
  | case2 a b =>
    simp only [List.mem_cons, List.not_mem_nil, or_false] at mem
    rcases mem with rfl | rfl | rfl | rfl
    · exact isValueChar_digit _
    · exact isValueChar_digit _
    · exact isValueChar_digit _
    · decide
  | case3 a =>
    simp only [List.mem_cons, List.not_mem_nil, or_false] at mem
    rcases mem with rfl | rfl | rfl | rfl
    · exact isValueChar_digit _
    · exact isValueChar_digit _
    · decide
    · decide
  | case4 => cases mem

/-- Legal values may be put together. -/
theorem Http.Header.isLegalValue_append {v w : String} :
    isLegalValue (v ++ w) = (isLegalValue v && isLegalValue w) := by
  rw [isLegalValue, String.toList_append, List.all_append]
  rfl

/-- Whatever the user name and the password are, the header that shows them is legal. -/
theorem Http.Request.isLegalValue_basicAuthorization (username password : String) :
    Header.isLegalValue (basicAuthorization username password) = true := by
  rw [basicAuthorization, Header.isLegalValue_append, Bool.and_eq_true]
  refine ⟨by decide, ?_⟩
  rw [Header.isLegalValue, Text.Base64.encode, String.toList_ofList, List.all_eq_true]
  exact fun c mem => Text.Base64.isValueChar_of_mem_encodeChars mem

/-- Credentials whose header is legal.  Only a token may make it illegal. -/
def Credentials.IsLegal (credentials : Credentials) : Prop :=
  ∀ token, credentials = .bearer token → Header.isLegalValue token = true

instance (credentials : Credentials) : Decidable credentials.IsLegal :=
  match credentials with
  | .anonymous => isTrue nofun
  | .bearer token =>
    decidable_of_iff (Header.isLegalValue token = true)
      ⟨fun legal _ same => by cases same; exact legal, fun legal => legal token rfl⟩
  | .basic _ _ => isTrue nofun

/-- Everyone shows the credentials of the anonymous principal or those of an entry. -/
theorem Config.isLegal_credentialsFor {config : Config} (anonymous : config.anonymous.IsLegal)
    (users : ∀ entry ∈ config.users.toList, entry.2.IsLegal) (who : Principal) :
    (config.credentialsFor who).IsLegal := by
  cases who with
  | anonymous => exact anonymous
  | user login =>
    rw [credentialsFor]
    cases found : config.users.get? login with
    | none => exact anonymous
    | some credentials => exact users _ (SortedMap.mem_toList_iff.2 found)

/-- The headers that show some credentials. -/
def Credentials.headers (credentials : Credentials) : List Header :=
  (Remote.Connection.authorization credentials).map fun pair => ⟨pair.1, pair.2⟩

/-- Credentials are shown in one header at most, which proves who the user is. -/
theorem Credentials.name_of_mem_headers {credentials : Credentials} {header : Header}
    (mem : header ∈ credentials.headers) : header.name = "authorization" := by
  cases credentials with
  | anonymous => cases mem
  | bearer | basic =>
    rw [List.mem_singleton.1 mem]

/-! ### Unsigned requests -/

namespace Remote

/-- A request of the API before credentials are shown: what stands before the place where they
    are, and what stands after it. -/
structure Unsigned where
  method : Http.Method
  url : Url
  before : List Header
  after : List Header
  body : Bytes

namespace Unsigned

/-- The request with the header that shows some credentials. -/
def sign (request : Unsigned) (credentials : Credentials) : Request where
  method := request.method
  url := request.url
  headers := request.before ++ credentials.headers ++ request.after
  body := request.body

/-- The request with a header that has not been set. -/
def withDefault (request : Unsigned) (name value : String) : Unsigned :=
  if (request.before ++ request.after).any (·.name == name) then request
  else { request with after := request.after ++ [⟨name, value⟩] }

/-- The request with what every request says. -/
def complete (request : Unsigned) (userAgent : String) : Unsigned :=
  let request := (request.withDefault "accept" "*/*").withDefault "user-agent" userAgent
  if request.body.isEmpty then request
  else request.withDefault "content-length" (toString request.body.length)

variable (request : Unsigned) (credentials : Credentials)

/-- Whether another header is set does not depend on the credentials. -/
theorem withDefault_sign {name : String} (other : name ≠ "authorization") (value : String) :
    (request.sign credentials).withDefault name value =
      (request.withDefault name value).sign credentials := by
  -- The header that is looked for is never the one that shows credentials.
  have none : credentials.headers.any (·.name == name) = false := by
    rw [List.any_eq_false]
    intro header mem
    rw [Credentials.name_of_mem_headers mem, beq_iff_eq]
    exact other.symm
  have same : (request.sign credentials).hasHeader name =
      (request.before ++ request.after).any (·.name == name) := by
    simp only [Request.hasHeader, sign, List.any_append, none, Bool.or_false]
  rw [Request.withDefault, withDefault, same]
  split
  · rfl
  · simp [sign]

/-- What is added to every request goes after the credentials. -/
theorem complete_sign (userAgent : String) :
    (request.sign credentials).complete userAgent =
      (request.complete userAgent).sign credentials := by
  have body (request : Unsigned) : (request.sign credentials).body = request.body := rfl
  simp only [Request.complete, complete]
  rw [withDefault_sign _ _ (by decide), withDefault_sign _ _ (by decide), body]
  split
  · rfl
  · rw [withDefault_sign _ _ (by decide)]

end Unsigned

/-- A path of the API. -/
inductive IsApiPath : String → Prop
  | object (hash : String) : IsApiPath (Endpoint.object hash)
  | batch : IsApiPath Endpoint.batch
  | locks : IsApiPath Endpoint.locks
  | locksVerify : IsApiPath Endpoint.locksVerify
  | unlock (id : String) : IsApiPath (Endpoint.unlock id)

/-- What a path of the API starts with. -/
theorem IsApiPath.firstPart_cases {path : String} (h : IsApiPath path) :
    Url.firstPart path = "objects".toList ∨ Url.firstPart path = "locks".toList := by
  -- The hash or the identifier may have any characters, but the slash before it ends the part.
  have below (segment : List Char) (rest : List Char) (nonempty : segment ≠ [])
      (plain : (segment.all fun c => Url.isKept c && !Url.endsAuthority c) = true) :
      Url.firstPart (String.ofList (segment ++ '/' :: rest)) = segment := by
    simp only [List.all_eq_true, Bool.and_eq_true, Bool.not_eq_true'] at plain
    exact Url.firstPart_append_slash rest nonempty plain
  cases h with
  | object hash =>
    have shape : Endpoint.object hash =
        String.ofList ("objects".toList ++ '/' :: hash.toList) := by
      apply String.toList_injective
      simp [Endpoint.object]
    rw [shape]
    exact .inl (below _ _ (by decide) (by decide))
  | batch => exact .inl (by decide +kernel)
  | locks => exact .inr (by decide +kernel)
  | locksVerify => exact .inr (by decide +kernel)
  | unlock id =>
    have shape : Endpoint.unlock id =
        String.ofList ("locks".toList ++ '/' :: (id ++ "/unlock").toList) := by
      apply String.toList_injective
      simp [Endpoint.unlock]
    rw [shape]
    exact .inr (below _ _ (by decide) (by decide))

/-- No path of the API could be read as user and host. -/
theorem IsApiPath.notMem_firstPart {path : String} (h : IsApiPath path) :
    '@' ∉ Url.firstPart path := by
  rcases h.firstPart_cases with first | first <;> rw [first] <;> decide

/-- A request that shows nothing by itself and goes to a path of the API below an address. -/
structure Unsigned.IsApi (address : String) (request : Unsigned) : Prop where
  silent : ∀ header ∈ request.before ++ request.after, header.name ≠ "authorization"
  below : ∃ path url, IsApiPath path ∧ Url.parse? (Endpoint.join address path) = some url ∧
    request.url = { url with query := request.url.query }

/-- A default header makes no difference to what a request is for. -/
theorem Unsigned.IsApi.withDefault {address : String} {request : Unsigned}
    (h : request.IsApi address) (name value : String) (other : name ≠ "authorization") :
    (request.withDefault name value).IsApi address := by
  rw [Unsigned.withDefault]
  split
  · exact h
  · refine ⟨fun header mem => ?_, h.below⟩
    rw [← List.append_assoc, List.mem_append, List.mem_singleton] at mem
    rcases mem with mem | rfl
    · exact h.silent header mem
    · exact other

/-- Completing a request makes no difference to what it is for. -/
theorem Unsigned.IsApi.complete {address : String} {request : Unsigned}
    (h : request.IsApi address) (userAgent : String) :
    (request.complete userAgent).IsApi address := by
  have start := (h.withDefault "accept" "*/*" (by decide)).withDefault "user-agent" userAgent
    (by decide)
  simp only [Unsigned.complete]
  split
  · exact start
  · exact start.withDefault _ _ (by decide)

/-- Two requests of the API that are the same but for the credentials that they show. -/
def Signed (address : String) (credentials other : Credentials) (request request' : Request) :
    Prop :=
  ∃ unsigned : Unsigned, unsigned.IsApi address ∧ request = unsigned.sign credentials ∧
    request' = unsigned.sign other

/-- Slashes at the end of the base make no difference. -/
theorem Endpoint.join_withoutSlashes (base path : String) :
    join (withoutSlashes base) path = join base path := by
  have same : withoutSlashes (withoutSlashes base) = withoutSlashes base := by
    simp only [withoutSlashes, String.toList_ofList, List.reverse_reverse,
      List.dropWhile_idempotent]
  rw [join, same, join]

/-- The slashes at the end of an address make no difference. -/
theorem signed_withoutSlashes (address : String) :
    Signed (Endpoint.withoutSlashes address) = Signed address := by
  -- Joining takes the slashes away in any case.
  have api : ∀ unsigned : Unsigned,
      unsigned.IsApi (Endpoint.withoutSlashes address) ↔ unsigned.IsApi address := by
    intro unsigned
    constructor
    · rintro ⟨silent, path, url, api, parsed, same⟩
      exact ⟨silent, path, url, api, Endpoint.join_withoutSlashes address path ▸ parsed, same⟩
    · rintro ⟨silent, path, url, api, parsed, same⟩
      exact ⟨silent, path, url, api,
        (Endpoint.join_withoutSlashes address path).symm ▸ parsed, same⟩
  funext credentials other request request'
  simp only [Signed, api]

/-- Requests to a path of the API that say the same and are signed with some credentials and with
    others. -/
theorem rel_sign {address path : String} (api : IsApiPath path) {unsigned : Url → Unsigned}
    (silent : ∀ url, ∀ header ∈ (unsigned url).before ++ (unsigned url).after,
      header.name ≠ "authorization")
    (below : ∀ url, (unsigned url).url = { url with query := (unsigned url).url.query })
    (credentials other : Credentials) (userAgent : String) :
    Option.Rel
      (fun request request' => Signed address credentials other (request.complete userAgent)
        (request'.complete userAgent))
      ((Url.parse? (Endpoint.join address path)).map fun url => (unsigned url).sign credentials)
      ((Url.parse? (Endpoint.join address path)).map fun url => (unsigned url).sign other) := by
  cases parsed : Url.parse? (Endpoint.join address path) with
  | none => exact .none
  | some url =>
    -- Without the credentials it is the same request on both sides.
    have isApi : (unsigned url).IsApi address := ⟨silent url, path, url, api, parsed, below url⟩
    refine .some ⟨(unsigned url).complete userAgent, isApi.complete userAgent, ?_, ?_⟩
    · exact (unsigned url).complete_sign credentials userAgent
    · exact (unsigned url).complete_sign other userAgent

/-! ### Requests of a connection -/

/-- A request to an address without a user starts with no header. -/
theorem to?_of_namesNoUser {address : String} (h : Url.NamesNoUser address)
    (method : Http.Method) :
    Request.to? method address = (Url.parse? address).map fun url => ⟨method, url, [], []⟩ := by
  rw [Request.to?]
  cases parsed : Url.parse? address with
  | none => rfl
  | some url =>
    obtain ⟨noName, noPassword⟩ := h url parsed
    -- Only a user in the address would be made a header.
    have noUser : Request.userOf? url = none := by
      rw [Request.userOf?, noName, noPassword]
      rfl
    rw [Option.map_some, Option.map_some, Request.ofUrl, noUser]

namespace Connection

/-- The connection with other credentials. -/
def withCredentials (c : Connection) (credentials : Credentials) : Connection :=
  { c with credentials }

/-- No address of the API names a user of its own. -/
def NamesNoUser (c : Connection) : Prop :=
  ∀ path, IsApiPath path → Url.NamesNoUser (c.address path)

@[simp] theorem userAgent_withCredentials (c : Connection) (credentials : Credentials) :
    (c.withCredentials credentials).userAgent = c.userAgent := rfl

@[simp] theorem address_withCredentials (c : Connection) (credentials : Credentials)
    (path : String) : (c.withCredentials credentials).address path = c.address path := rfl

@[simp] theorem contentOf_withCredentials (c : Connection) (credentials : Credentials) :
    (c.withCredentials credentials).contentOf = c.contentOf := rfl

/-- Legal credentials become the headers that they stand for. -/
theorem withHeaders?_authorization {credentials : Credentials} (legal : credentials.IsLegal)
    (request : Request) :
    request.withHeaders? (authorization credentials) =
      some { request with headers := request.headers ++ credentials.headers } := by
  have make (value : String) (ok : Header.isLegalValue value = true) :
      Header.make? "authorization" value = some ⟨"authorization", value⟩ := by
    rw [Header.make?, ok]
    rfl
  cases credentials with
  | anonymous => simp [authorization, Credentials.headers, Request.withHeaders?]
  | bearer token =>
    have ok : Header.isLegalValue ("Bearer " ++ token) = true := by
      rw [Header.isLegalValue_append, legal token rfl]
      rfl
    simp [authorization, Credentials.headers, Request.withHeaders?, Request.withHeader?, make _ ok]
  | basic username password =>
    -- A name and a password are encoded, so they may have any characters.
    have ok := Request.isLegalValue_basicAuthorization username password
    simp [authorization, Credentials.headers, Request.withHeaders?, Request.withHeader?, make _ ok]

/-- What every request of the API starts with. -/
def accepted : Header := ⟨"accept", Endpoint.mediaType⟩

/-- What every message of the API says after its credentials. -/
def contentType : Header := ⟨"content-type", Endpoint.mediaType⟩

/-- What stands around the credentials does not show any. -/
theorem silent_accepted : ∀ header ∈ [accepted] ++ [], header.name ≠ "authorization" := by decide

/-- The headers for the form of messages carry no credentials. -/
theorem silent_contentType :
    ∀ header ∈ [accepted] ++ [contentType], header.name ≠ "authorization" := by decide

section

variable {c : Connection} (noUser : c.NamesNoUser) {credentials : Credentials}
  (legal : credentials.IsLegal)

include noUser legal

/-- A request to the service is built without credentials and then signed. -/
theorem apiRequest?_eq (method : Http.Method) {path : String} (api : IsApiPath path) :
    (c.withCredentials credentials).apiRequest? method path =
      (Url.parse? (c.address path)).map fun url =>
        (⟨method, url, [accepted], [], []⟩ : Unsigned).sign credentials := by
  -- An address that names no user adds no header of its own.
  have built := to?_of_namesNoUser (noUser path api) method
  have accept (request : Request) : request.withHeader? "accept" Endpoint.mediaType =
      some { request with headers := request.headers ++ [accepted] } := rfl
  rw [apiRequest?, address_withCredentials, built, Option.bind_eq_bind]
  cases Url.parse? (c.address path) with
  | none => rfl
  | some url =>
    rw [Option.map_some, Option.bind_some, Option.map_some, Request.withHeaders?,
      List.foldlM_cons, accept, Option.bind_eq_bind, Option.bind_some]
    have signed := withHeaders?_authorization legal ⟨method, url, [accepted], []⟩
    rw [Request.withHeaders?] at signed
    rw [Unsigned.sign, List.append_nil, ← signed]
    rfl

/-- A message to the service is built without credentials and then signed. -/
theorem apiMessage?_eq {path : String} (api : IsApiPath path) (message : Json) :
    (c.withCredentials credentials).apiMessage? path message =
      (Url.parse? (c.address path)).map fun url =>
        (⟨.post, url, [accepted], [contentType], message.render⟩ : Unsigned).sign credentials := by
  have typed (request : Request) : request.withHeader? "content-type" Endpoint.mediaType =
      some { request with headers := request.headers ++ [contentType] } := rfl
  rw [apiMessage?, apiRequest?_eq noUser legal .post api, Option.bind_eq_bind]
  cases Url.parse? (c.address path) with
  | none => rfl
  | some url =>
    rw [Option.map_some, Option.bind_some, typed, Option.bind_some, Option.map_some]
    simp [Request.withJson, Unsigned.sign]

omit legal in
/-- The query for a page of locks does not depend on the credentials. -/
theorem exists_listRequest?_eq (path id : Option String) (ref : Option Api.Ref)
    (cursor : Option String) :
    ∃ query, ∀ credentials : Credentials, credentials.IsLegal →
      (c.withCredentials credentials).listRequest? path id ref cursor =
        (Url.parse? (c.address Endpoint.locks)).map fun url =>
          (⟨.get, url.withQuery query, [accepted], [], []⟩ : Unsigned).sign credentials := by
  -- The query is made of the filters and the cursor alone, and not of the credentials.
  let named (name : String) (value : Option String) := value.toList.map fun v => (name, v)
  refine ⟨named "path" path ++ named "id" id ++ named "refspec" (ref.map (·.name)) ++
    named "cursor" cursor, fun credentials legal => ?_⟩
  rw [listRequest?, apiRequest?_eq noUser legal .get .locks, Option.bind_eq_bind]
  cases Url.parse? (c.address Endpoint.locks) with
  | none => rfl
  | some url =>
    rw [Option.map_some, Option.bind_some, Option.map_some]
    rfl

end

section

variable {c : Connection} (noUser : c.NamesNoUser) {credentials other : Credentials}
  (legal : credentials.IsLegal) (legal' : other.IsLegal)

include noUser legal legal'

/-- With other credentials the same request is built and signed with those. -/
theorem rel_apiRequest? (method : Http.Method) {path : String} (api : IsApiPath path) :
    Option.Rel
      (fun request request' => Signed c.baseUrl credentials other
        (request.complete c.userAgent) (request'.complete c.userAgent))
      ((c.withCredentials credentials).apiRequest? method path)
      ((c.withCredentials other).apiRequest? method path) := by
  rw [apiRequest?_eq noUser legal method api, apiRequest?_eq noUser legal' method api]
  exact rel_sign api (fun _ => silent_accepted) (fun _ => rfl) credentials other c.userAgent

/-- With other credentials the same message is built and signed with those. -/
theorem rel_apiMessage? {path : String} (api : IsApiPath path) (message : Json) :
    Option.Rel
      (fun request request' => Signed c.baseUrl credentials other
        (request.complete c.userAgent) (request'.complete c.userAgent))
      ((c.withCredentials credentials).apiMessage? path message)
      ((c.withCredentials other).apiMessage? path message) := by
  rw [apiMessage?_eq noUser legal api message, apiMessage?_eq noUser legal' api message]
  exact rel_sign api (fun _ => silent_contentType) (fun _ => rfl) credentials other c.userAgent

/-- With other credentials the same page is asked for, signed with those. -/
theorem rel_listRequest? (path id : Option String) (ref : Option Api.Ref)
    (cursor : Option String) :
    Option.Rel
      (fun request request' => Signed c.baseUrl credentials other
        (request.complete c.userAgent) (request'.complete c.userAgent))
      ((c.withCredentials credentials).listRequest? path id ref cursor)
      ((c.withCredentials other).listRequest? path id ref cursor) := by
  obtain ⟨query, eq⟩ := exists_listRequest?_eq noUser path id ref cursor
  rw [eq credentials legal, eq other legal']
  refine rel_sign .locks (fun _ => silent_accepted) (fun url => ?_) credentials other c.userAgent
  simp only [Url.withQuery]
  split <;> rfl

end

end Connection

/-! ### Sending -/

/-- Two networks on which the same is to come. -/
structure Abreast (network other : Network) : Prop where
  reachable : other.reachable = network.reachable
  replies : other.replies = network.replies

/-- Two such networks on which requests were sent that correspond to each other, after some
    others. -/
structure Sent (pair : Request → Request → Prop) (before before' : List Request)
    (network other : Network) : Prop extends Abreast network other where
  sent : ∃ requests requests', network.sent = before ++ requests ∧
    other.sent = before' ++ requests' ∧ List.Forall₂ pair requests requests'

variable {pair : Request → Request → Prop} {before before' : List Request}

/-- One more exchange of requests that correspond to each other. -/
theorem Sent.exchange {network other : Network} (same : Sent pair before before' network other)
    {request request' : Request} (related : pair request request') :
    (network.exchange request).1 = (other.exchange request').1 ∧
      Sent pair before before' (network.exchange request).2 (other.exchange request').2 := by
  obtain ⟨requests, requests', sent, sent', all⟩ := same.sent
  constructor
  · rw [Network.exchange, Network.exchange, Network.next, Network.next, same.reachable,
      same.replies]
    split <;> rfl
  · refine ⟨⟨?_, ?_⟩, ?_⟩
    · rw [Network.reachable_exchange, Network.reachable_exchange, same.reachable]
    · rw [Network.replies_exchange, Network.replies_exchange, same.reachable, same.replies]
    · rw [Network.sent_exchange, Network.sent_exchange, same.reachable, sent, sent']
      -- If the network can be reached, both sides send one request more, and these are related.
      split
      · exact ⟨requests ++ [request], requests' ++ [request'], List.append_assoc ..,
          List.append_assoc .., List.rel_append all (.cons related .nil)⟩
      · exact ⟨requests, requests', List.append_nil _, List.append_nil _, all⟩

/-- Sending two requests that correspond to each other. -/
theorem Connection.matches_send {c : Connection} {credentials other : Credentials}
    {request? request'? : Option Request}
    (h : Option.Rel (fun request request' => pair (request.complete c.userAgent)
      (request'.complete c.userAgent)) request? request'?) (endpoint : String) :
    ((c.withCredentials credentials).send request? endpoint).Matches
      ((c.withCredentials other).send request'? endpoint) (Sent pair before before') := by
  cases h with
  | none => exact .throw _
  | @some request request' related =>
    intro network other same
    obtain ⟨answer, after⟩ := same.exchange related
    simp only [send, Session.outcome_ofFunction, userAgent_withCredentials]
    revert answer after
    rcases network.exchange (request.complete c.userAgent) with ⟨response, network'⟩
    rcases other.exchange (request'.complete c.userAgent) with ⟨response', other'⟩
    rintro rfl after
    cases response with
    | none => exact ⟨rfl, after⟩
    | some response => exact ⟨rfl, after⟩

namespace Connection

/-! ### Calls -/

/-- A request that is no call of the service is the same on both sides. -/
theorem rel_refl (request? : Option Request) (userAgent : String) :
    Option.Rel (fun request request' => request.complete userAgent = request'.complete userAgent)
      request? request? := by
  cases request? with
  | none => exact .none
  | some request => exact .some rfl

/-- A download is the same for all credentials. -/
theorem matches_getObject (c : Connection) (credentials other : Credentials) (links : Api.Links) :
    ((c.withCredentials credentials).getObject links).Matches
      ((c.withCredentials other).getObject links) (Sent Eq before before') := by
  rw [getObject, getObject]
  cases links.download? with
  | none => exact .throw _
  | some download =>
    simp only [contentOf_withCredentials]
    apply (matches_send (rel_refl (transferRequest? .get download) c.userAgent) _).bind
    intro response
    exact .ofExcept _

/-- An upload, once it was negotiated, is the same for all credentials. -/
theorem matches_putObject (c : Connection) (credentials other : Credentials) (source : Source)
    (object : Api.ObjectMeta) (links : Api.Links) :
    ((c.withCredentials credentials).putObject source object links).Matches
      ((c.withCredentials other).putObject source object links) (Sent Eq before before') := by
  rw [putObject, putObject]
  cases links.upload? with
  | none => exact .pure _
  | some upload =>
    cases source with
    | error error => exact .throw _
    | ok content =>
      -- The requests along links are built from the links alone.
      have uploaded := rel_refl (uploadRequest? upload content object.size) c.userAgent
      apply (matches_send uploaded _).bind
      intro response
      apply (Session.Matches.ofExcept _).bind
      intro _
      cases links.verify? with
      | none => exact .pure _
      | some verify =>
        apply (matches_send (rel_refl (verifyRequest? verify object) c.userAgent) _).bind
        intro response
        exact (Session.Matches.ofExcept _).bind fun _ => .pure _

section

variable {c : Connection} (noUser : c.NamesNoUser) {credentials other : Credentials}
  (legal : credentials.IsLegal) (legal' : other.IsLegal)

include noUser legal legal'

/-- Asking for an object does the same with other credentials. -/
theorem matches_getMeta (hash : String) :
    ((c.withCredentials credentials).getMeta hash).Matches
      ((c.withCredentials other).getMeta hash)
      (Sent (Signed c.baseUrl credentials other) before before') := by
  simp only [getMeta, address_withCredentials]
  apply (matches_send (rel_apiRequest? noUser legal legal' .get (.object hash)) _).bind
  intro response
  exact .ofExcept _

/-- Posting a batch does the same with other credentials. -/
theorem matches_postBatch (request : Api.BatchRequest) :
    ((c.withCredentials credentials).postBatch request).Matches
      ((c.withCredentials other).postBatch request)
      (Sent (Signed c.baseUrl credentials other) before before') := by
  simp only [postBatch, address_withCredentials]
  apply (matches_send (rel_apiMessage? noUser legal legal' .batch request.toJson) _).bind
  intro response
  exact .ofExcept _

/-- Asking for a lock does the same with other credentials. -/
theorem matches_lock (path : String) (ref : Option Api.Ref) :
    ((c.withCredentials credentials).lock path ref).Matches
      ((c.withCredentials other).lock path ref)
      (Sent (Signed c.baseUrl credentials other) before before') := by
  simp only [lock, address_withCredentials]
  apply (matches_send (rel_apiMessage? noUser legal legal' .locks _) _).bind
  intro response
  exact .ofExcept _

/-- Removing a lock does the same with other credentials. -/
theorem matches_unlock (id : String) (force : Bool) (ref : Option Api.Ref) :
    ((c.withCredentials credentials).unlock id force ref).Matches
      ((c.withCredentials other).unlock id force ref)
      (Sent (Signed c.baseUrl credentials other) before before') := by
  simp only [unlock, address_withCredentials]
  apply (matches_send (rel_apiMessage? noUser legal legal' (.unlock id) _) _).bind
  intro response
  exact (Session.Matches.ofExcept _).bind fun _ => .pure _

/-- The pages of a listing, by induction on how many there may be. -/
theorem matches_listFrom (path id : Option String) (ref : Option Api.Ref) (fuel : Nat)
    (cursor : Option String) :
    ((c.withCredentials credentials).listFrom path id ref fuel cursor).Matches
      ((c.withCredentials other).listFrom path id ref fuel cursor)
      (Sent (Signed c.baseUrl credentials other) before before') := by
  -- Both sides are answered alike, so they go on from the same cursor.
  induction fuel generalizing cursor with
  | zero =>
    simp only [listFrom, address_withCredentials]
    exact .throw _
  | succ fuel ih =>
    simp only [listFrom, address_withCredentials]
    apply (matches_send (rel_listRequest? noUser legal legal' path id ref cursor) _).bind
    intro response
    apply (Session.Matches.ofExcept _).bind
    intro page
    cases following page.nextCursor with
    | none => exact .pure _
    | some next => exact (ih (some next)).bind fun _ => .pure _

/-- Asking for the pages of locks told apart does the same with other credentials. -/
theorem matches_verifyFrom (ref : Option Api.Ref) (fuel : Nat) (cursor : Option String) :
    ((c.withCredentials credentials).verifyFrom ref fuel cursor).Matches
      ((c.withCredentials other).verifyFrom ref fuel cursor)
      (Sent (Signed c.baseUrl credentials other) before before') := by
  -- As for the listing of all locks, the cursor is the same on both sides.
  induction fuel generalizing cursor with
  | zero =>
    simp only [verifyFrom, address_withCredentials]
    exact .throw _
  | succ fuel ih =>
    simp only [verifyFrom, address_withCredentials]
    apply (matches_send (rel_apiMessage? noUser legal legal' .locksVerify _) _).bind
    intro response
    apply (Session.Matches.ofExcept _).bind
    intro page
    cases following page.nextCursor with
    | none => exact .pure _
    | some next => exact (ih (some next)).bind fun _ => .pure _

omit noUser legal legal' in
/-- As many replies are to come. -/
theorem matches_pageLimit : pageLimit.Matches pageLimit (Sent pair before before') := by
  intro network other same
  rw [pageLimit, Session.outcome_ofFunction, Session.outcome_ofFunction, same.replies]
  exact ⟨rfl, same⟩

/-- Calls about locks are the same but for the credentials that they show. -/
theorem mirrors_withCredentials :
    (c.withCredentials credentials).client.Mirrors (c.withCredentials other).client
      (Sent (Signed c.baseUrl credentials other) before before') where
  lock := matches_lock noUser legal legal'
  unlock := matches_unlock noUser legal legal'
  listLocks path id ref :=
    matches_pageLimit.bind fun fuel => matches_listFrom noUser legal legal' path id ref fuel none
  verifyLocks ref :=
    matches_pageLimit.bind fun fuel => matches_verifyFrom noUser legal legal' ref fuel none

end

end Connection

end Remote

end LargeFiles
