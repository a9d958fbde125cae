import LargeFiles.Proofs.Remote.Answer
import LargeFiles.Remote.Transfer

/-!
# Uploading over HTTP

An upload is negotiated by a batch of one object, and then the service has the content sent
through the links of the items of its response: one request for each link, in the order of the
items, until the first that is not accepted.

* `Connection.converses_deliver`     one request through a link;
* `Connection.converses_uploadItem`  one item;
* `Transfer.exists_ok_iff`           it succeeds if all its requests are built and accepted;
* `Connection.converses_postBatch`   the batch;
* `putObject_exchanges`              the upload.
-/

namespace LargeFiles

open Http (Exchange Header Network Request Response Url)
open Session (InTurn Turn)

/-- The item is granted, and requests can be sent through the links that its object is moved
    through. -/
structure Api.BatchItem.Movable (item : Api.BatchItem) : Prop where
  granted : item.error = none
  links : ∀ upload, item.actions.upload? = some upload →
    upload.Usable ∧ ∀ verify, item.actions.verify? = some verify → verify.Usable

namespace Remote

/-! ### Requests through links -/

namespace Connection

/-- What a request through a link is made of. -/
theorem exists_transferRequest? {link : Api.Link} (usable : link.Usable)
    (method : Http.Method) :
    ∃ request, transferRequest? method link = some request ∧ request.Follows link method [] := by
  obtain ⟨url, read⟩ := Option.isSome_iff_exists.1 usable.address
  obtain ⟨headers, legal⟩ := Option.isSome_iff_exists.1 usable.headers
  -- The headers of the link come after those that each request has.
  have start := Request.asks_ofUrl method url
  refine ⟨{ Request.ofUrl method url with
    headers := (Request.ofUrl method url).headers ++ headers }, ?_,
    ⟨url, read, start.method, start.url, start.body⟩, headers, legal,
    List.sublist_append_right _ _⟩
  rw [Api.Link.headers?] at legal
  rw [transferRequest?, Request.to?, read, Option.map_some, Option.bind_eq_bind, Option.bind_some,
    Request.withHeaders?_eq, legal, Option.map_some]

/-- Along a link that cannot be used nothing is sent. -/
theorem transferRequest?_eq_none {link : Api.Link} (fails : ¬ link.Usable)
    (method : Http.Method) : transferRequest? method link = none := by
  rw [transferRequest?, Request.to?]
  cases read : Url.parse? link.href with
  | none => rfl
  | some url =>
    -- The address can be read, so it is a header that may not be sent.
    have illegal : link.headers? = none := by
      rw [← Option.not_isSome_iff_eq_none]
      exact fun legal => fails ⟨by rw [read]; rfl, legal⟩
    rw [Api.Link.headers?] at illegal
    rw [Option.map_some, Option.bind_eq_bind, Option.bind_some, Request.withHeaders?_eq, illegal,
      Option.map_none]

/-- Along a usable link the content is put. -/
theorem exists_uploadRequest? {link : Api.Link} (usable : link.Usable) (content : Bytes)
    (size : UInt64) :
    ∃ request, uploadRequest? link content size = some request ∧
      request.Follows link .put content := by
  obtain ⟨start, built, follows⟩ := exists_transferRequest? usable .put
  obtain ⟨request, set⟩ := start.exists_withHeaders?
    [("content-type", "application/octet-stream"), ("content-length", toString size.toNat)] <| by
      simp only [List.forall_mem_cons, Header.isSome_make?, Header.isLegalValue_toString]
      decide
  refine ⟨_, ?_, (follows.of_withHeaders? set).withBody content⟩
  rw [uploadRequest?, built, Option.bind_eq_bind, Option.bind_some, set]
  rfl

/-- Along a usable link the object is announced. -/
theorem exists_verifyRequest? {link : Api.Link} (usable : link.Usable) (object : Api.ObjectMeta) :
    ∃ request, verifyRequest? link object = some request ∧
      request.Follows link .post object.toJson.render := by
  obtain ⟨start, built, follows⟩ := exists_transferRequest? usable .post
  obtain ⟨request, set⟩ := start.exists_withHeaders?
    [("accept", Endpoint.mediaType), ("content-type", Endpoint.mediaType)] (by decide)
  refine ⟨_, ?_, (follows.of_withHeaders? set).withBody object.toJson.render⟩
  rw [verifyRequest?, built, Option.bind_eq_bind, Option.bind_some, set]
  rfl

/-- Along a link that cannot be used no content is put. -/
theorem uploadRequest?_eq_none {link : Api.Link} (fails : ¬ link.Usable) (content : Bytes)
    (size : UInt64) : uploadRequest? link content size = none := by
  rw [uploadRequest?, transferRequest?_eq_none fails]
  rfl

/-- Along a link that cannot be used no object is announced. -/
theorem verifyRequest?_eq_none {link : Api.Link} (fails : ¬ link.Usable)
    (object : Api.ObjectMeta) : verifyRequest? link object = none := by
  rw [verifyRequest?, transferRequest?_eq_none fails]
  rfl

end Connection

/-! ### One link -/

/-- What is exchanged for one request through a link, and what comes of it. -/
inductive Delivery (link : Api.Link) (method : Http.Method) (body : Bytes) :
    List Exchange → Except RemoteError Unit → Prop
  /-- There can be no such request. -/
  | unusable {error} (unusable : ¬ link.Usable) : Delivery link method body [] (.error error)
  | rejected {exchange error} (follows : exchange.request.Follows link method body)
      (failed : ¬ Succeeded exchange.response) :
      Delivery link method body [exchange] (.error error)
  | accepted {exchange} (follows : exchange.request.Follows link method body)
      (succeeded : Succeeded exchange.response) : Delivery link method body [exchange] (.ok ())

/-- A delivery succeeds if its link is usable and the response is a success. -/
theorem Delivery.eq_ok_iff {link : Api.Link} {method : Http.Method} {body : Bytes}
    {log : List Exchange} {result : Except RemoteError Unit}
    (h : Delivery link method body log result) :
    result = .ok () ↔ link.Usable ∧ ∀ exchange ∈ log, Succeeded exchange.response := by
  cases h with
  | unusable unusable => simp [unusable]
  | rejected _ failed => simp [failed]
  | accepted follows succeeded =>
    -- A request that follows the link shows that the link can be used.
    obtain ⟨url, read, -⟩ := follows.asks
    obtain ⟨headers, legal, -⟩ := follows.headers
    have usable : link.Usable :=
      ⟨Option.isSome_iff_exists.2 ⟨url, read⟩, Option.isSome_iff_exists.2 ⟨headers, legal⟩⟩
    simp [usable, succeeded]

/-- The response to an upload is accepted if it says that the request succeeded. -/
theorem answer_expectAccepted_eq_ok_iff (endpoint step : String) (object : Api.ObjectMeta)
    (response : Option Response) :
    answer endpoint (Connection.expectAccepted step object) response = .ok () ↔
      Succeeded response := by
  cases response with
  | none => simp [answer, Succeeded]
  | some response =>
    simp only [answer, Connection.expectAccepted, Succeeded, Option.some.injEq, exists_eq_left']
    split <;> simp_all

namespace Connection

/-- One request through a link. -/
theorem converses_deliver (c : Connection) (link : Api.Link) {request? : Option Request}
    {method : Http.Method} {body : Bytes}
    (usable : link.Usable → ∃ request, request? = some request ∧
      request.Follows link method body)
    (unusable : ¬ link.Usable → request? = none) (step : String) (object : Api.ObjectMeta) :
    (c.send request? link.href >>= fun response =>
      .ofExcept (expectAccepted step object response)).Converses id
        (Delivery link method body) := by
  by_cases fits : link.Usable
  · obtain ⟨request, built, follows⟩ := usable fits
    refine (c.converses_ask built link.href (expectAccepted step object)).imp ?_
    rintro _ result ⟨response, rfl, came⟩
    have sent : (request.complete c.userAgent).Follows link method body :=
      follows.complete c.userAgent
    have accepted := answer_expectAccepted_eq_ok_iff link.href step object response
    rw [← came] at accepted
    -- The response decides: it is accepted if and only if its status says success.
    cases result with
    | error error => exact .rejected sent fun succeeded => by cases accepted.2 succeeded
    | ok done => exact .accepted sent (accepted.1 rfl)
  · rw [unusable fits]
    exact .throw (.unusable fits)

end Connection

/-! ### One item -/

/-- What is exchanged for an item of the response to a batch, and what comes of it. -/
inductive Transfer (content : Bytes) (item : Api.BatchItem) :
    List Exchange → Except RemoteError Unit → Prop
  | refused {error} (refused : item.error = some error) :
      Transfer content item [] (.error (.item item.oid error))
  /-- The service has the content already. -/
  | stored (granted : item.error = none) (nowhere : item.actions.upload? = none) :
      Transfer content item [] (.ok ())
  | failed {upload log error} (granted : item.error = none)
      (whereto : item.actions.upload? = some upload)
      (put : Delivery upload .put content log (.error error)) :
      Transfer content item log (.error error)
  | uploaded {upload log} (granted : item.error = none)
      (whereto : item.actions.upload? = some upload)
      (put : Delivery upload .put content log (.ok ())) (silent : item.actions.verify? = none) :
      Transfer content item log (.ok ())
  /-- A finished upload is announced. -/
  | announced {upload verify log log' result} (granted : item.error = none)
      (whereto : item.actions.upload? = some upload)
      (put : Delivery upload .put content log (.ok ()))
      (announce : item.actions.verify? = some verify)
      (post : Delivery verify .post item.object.toJson.render log' result) :
      Transfer content item (log ++ log') result

/-- A transfer succeeds if its item is movable and all responses are successes. -/
theorem Transfer.eq_ok_iff {content : Bytes} {item : Api.BatchItem} {log : List Exchange}
    {result : Except RemoteError Unit} (h : Transfer content item log result) :
    result = .ok () ↔ item.Movable ∧ ∀ exchange ∈ log, Succeeded exchange.response := by
  cases h with
  | refused refused =>
    simp only [reduceCtorEq, false_iff, not_and]
    intro movable
    cases refused.symm.trans movable.granted
  | stored granted nowhere =>
    have movable : item.Movable :=
      ⟨granted, fun upload whereto => by cases nowhere.symm.trans whereto⟩
    simp [movable]
  | failed granted whereto put =>
    have fails := put.eq_ok_iff
    simp only [reduceCtorEq, false_iff] at fails ⊢
    -- The content did not get through, be it for its link or for a response.
    exact fun ⟨movable, all⟩ => fails ⟨(movable.links _ whereto).1, all⟩
  | uploaded granted whereto put silent =>
    obtain ⟨usable, all⟩ := put.eq_ok_iff.1 rfl
    have movable : item.Movable := by
      refine ⟨granted, fun upload whereto' => ?_⟩
      cases whereto.symm.trans whereto'
      exact ⟨usable, fun verify announce => by cases silent.symm.trans announce⟩
    simp only [movable, true_and, true_iff]
    exact all
  | @announced upload verify _ _ _ granted whereto put announce post =>
    obtain ⟨usable, all⟩ := put.eq_ok_iff.1 rfl
    -- The content was sent, so only the link for the announcement can still be unusable.
    have movable : item.Movable ↔ verify.Usable := by
      refine ⟨fun movable => (movable.links _ whereto).2 _ announce, fun usable' => ?_⟩
      refine ⟨granted, fun upload whereto' => ?_⟩
      cases whereto.symm.trans whereto'
      exact ⟨usable, fun verify announce' => by
        cases announce.symm.trans announce'
        exact usable'⟩
    rw [post.eq_ok_iff, movable, List.forall_mem_append]
    exact and_congr_right fun _ => (and_iff_right all).symm

namespace Connection

/-- The requests that a granted item takes. -/
theorem converses_putObject (c : Connection) (content : Bytes) {item : Api.BatchItem}
    (granted : item.error = none) :
    (c.putObject (.ok content) item.object item.actions).Converses id fun log result =>
      Transfer content item log (result.map fun _ => ()) := by
  rw [putObject]
  cases whereto : item.actions.upload? with
  | none => exact .pure (.stored granted whereto)
  | some upload =>
    dsimp only
    rw [← bind_assoc]
    -- Nothing is announced unless the content was accepted.
    have put := c.converses_deliver upload
      (fun usable => exists_uploadRequest? usable content item.object.size)
      (fun unusable => uploadRequest?_eq_none unusable content item.object.size)
      "upload" item.object
    apply put.bind
    · exact fun log error failed => .failed granted whereto failed
    -- The content got through, so the announcement is next, if there is a link for it.
    · intro log done put
      cases announce : item.actions.verify? with
      | none =>
        refine .pure ?_
        rw [List.append_nil]
        exact .uploaded granted whereto put announce
      | some verify =>
        dsimp only
        rw [← bind_assoc]
        have post := c.converses_deliver verify
          (fun usable => exists_verifyRequest? usable item.object)
          (fun unusable => verifyRequest?_eq_none unusable item.object) "verify" item.object
        apply post.bind
        · exact fun log' error failed => .announced granted whereto put announce failed
        · intro log' done' post
          refine .pure ?_
          rw [List.append_nil]
          exact .announced granted whereto put announce post

end Connection

namespace Provider

/-- Uploads what one item of a batch response asks for. -/
def uploadItem {σ : Type} (client : Client σ) (source : Source) (item : Api.BatchItem) :
    Session σ RemoteError Unit :=
  match item.error with
  | some error => throw (.item item.oid error)
  | none => do
    let _ ← client.putObject source item.object item.actions

/-- The items are uploaded one after another. -/
theorem uploadItems_eq {σ : Type} (client : Client σ) (source : Source)
    (items : List Api.BatchItem) :
    uploadItems client source items =
      (fun _ => ()) <$> items.mapM (uploadItem client source) := by
  induction items with
  | nil => rfl
  | cons item rest ih =>
    rw [uploadItems, List.mapM_cons, uploadItem]
    cases item.error with
    | none => simp [ih]
    | some error => rfl

end Provider

/-- An item is uploaded by a transfer. -/
theorem Connection.converses_uploadItem (c : Connection) (content : Bytes)
    (item : Api.BatchItem) :
    (Provider.uploadItem c.reached (.ok content) item).Converses Access.network
      (Transfer content item) := by
  rw [Provider.uploadItem]
  cases granted : item.error with
  | some error => exact .throw (.refused granted)
  | none =>
    apply ((c.converses_putObject content granted).onPart fun _ _ => rfl).bind
    · exact fun log error failed => failed
    · intro log moved done
      refine .pure ?_
      rw [List.append_nil]
      exact done

/-! ### The whole upload -/

/-- What is exchanged to upload an object over a connection, and what comes of it. -/
inductive Connection.Upload (c : Connection) (content : Bytes) (object : Api.ObjectMeta) :
    List Exchange → Except RemoteError Unit → Prop
  /-- No batch can be asked for. -/
  | unasked {error} (fails : ¬ c.Builds) : Upload c content object [] (.error error)
  | unanswered {ask error}
      (asks : c.Posts Endpoint.batch (Api.BatchRequest.basic .upload [object]).toJson ask.request)
      (silent : success? Api.BatchResponse.ofJson? ask.response = none) :
      Upload c content object [ask] (.error error)
  | empty {ask response}
      (asks : c.Posts Endpoint.batch (Api.BatchRequest.basic .upload [object]).toJson ask.request)
      (answered : success? Api.BatchResponse.ofJson? ask.response = some response)
      (empty : response.objects = []) :
      Upload c content object [ask] (.error (.emptyBatch .upload object.oid))
  /-- The items of the response are dealt with one after another. -/
  | moved {ask response turns} {results : Except RemoteError (List Unit)}
      (asks : c.Posts Endpoint.batch (Api.BatchRequest.basic .upload [object]).toJson ask.request)
      (answered : success? Api.BatchResponse.ofJson? ask.response = some response)
      (nonempty : response.objects ≠ [])
      (inTurn : InTurn (Transfer content) response.objects turns results) :
      Upload c content object (ask :: turns.flatMap (·.log)) (results.map fun _ => ())

/-- An upload was accepted in all its steps: the batch was answered by at least one item, all
    items can be moved, and whatever was sent for them succeeded. -/
def Accepted (log : List Exchange) : Prop :=
  ∃ ask rest response, log = ask :: rest ∧
    success? Api.BatchResponse.ofJson? ask.response = some response ∧ response.objects ≠ [] ∧
    (∀ item ∈ response.objects, item.Movable) ∧
    ∀ exchange ∈ rest, Succeeded exchange.response

/-- An upload succeeds if all of its exchanges are accepted. -/
theorem Connection.Upload.eq_ok_iff {c : Connection} {content : Bytes} {object : Api.ObjectMeta}
    {log : List Exchange} {result : Except RemoteError Unit}
    (h : c.Upload content object log result) : result = .ok () ↔ Accepted log := by
  cases h with
  | unasked => simp [Accepted]
  | unanswered _ silent =>
    simp only [reduceCtorEq, false_iff]
    rintro ⟨_, _, response, ⟨⟩, answered, -⟩
    cases silent.symm.trans answered
  | empty _ answered empty =>
    simp only [reduceCtorEq, false_iff]
    rintro ⟨_, _, response, ⟨⟩, answered', nonempty, -⟩
    cases answered.symm.trans answered'
    exact nonempty empty
  -- Only here, where every item has its turn, can the upload have succeeded.
  | @moved ask response turns results _ answered nonempty inTurn =>
    have all := inTurn.exists_ok_iff fun item log result transfer =>
      Unique.exists_iff.trans transfer.eq_ok_iff
    have same : (results.map fun _ => ()) = .ok () ↔ ∃ done, results = .ok done := by
      cases results <;> simp [Except.map]
    rw [same, all]
    constructor
    · rintro ⟨movable, succeeded⟩
      exact ⟨ask, _, response, rfl, answered, nonempty, movable, succeeded⟩
    · rintro ⟨_, _, response', ⟨⟩, answered', -, movable, succeeded⟩
      cases answered.symm.trans answered'
      exact ⟨movable, succeeded⟩

/-- What a client does to upload an object. -/
def Client.upload {σ : Type} (client : Client σ) (source : Source) (object : Api.ObjectMeta) :
    Session σ RemoteError Unit := do
  let response ← client.postBatch (.basic .upload [object])
  match response.objects with
  | [] => throw (.emptyBatch .upload object.oid)
  | items => Provider.uploadItems client source items

/-- An object is uploaded through the client of the principal. -/
theorem Provider.putObject_eq {σ : Type} (provider : Provider σ) (who : Principal)
    (source : Source) (hash : String) (size : UInt64) :
    provider.putObject who source hash size =
      provider.client who >>= fun client => client.upload source ⟨hash, size⟩ := by
  rw [putObject]
  congr 1
  funext client
  rw [Client.upload]
  congr 1
  funext response
  cases response.objects <;> rfl

/-- A content is uploaded by asking for a batch and moving its items. -/
theorem Connection.converses_upload (c : Connection) (content : Bytes) (object : Api.ObjectMeta) :
    (c.reached.upload (.ok content) object).Converses Access.network
      (c.Upload content object) := by
  rw [Client.upload, reached_postBatch]
  by_cases builds : c.Builds
  · have batch := converses_postBatch builds (.basic .upload [object])
    apply (batch.onPart fun _ _ => rfl).bind
    · rintro _ error ⟨ask, rfl, asks, answered⟩
      refine .unanswered asks ?_
      rw [Option.eq_none_iff_forall_ne_some]
      intro response found
      cases (answered response).2 found
    · rintro _ response ⟨ask, rfl, asks, answered⟩
      have found := (answered response).1 rfl
      -- A batch without items is an error, although all of none would be moved.
      cases items : response.objects with
      | nil => exact .throw (.empty asks found items)
      | cons item rest =>
        dsimp only
        rw [← items, Provider.uploadItems_eq]
        have nonempty : response.objects ≠ [] := by simp [items]
        refine (Session.Converses.mapM fun item _ => c.converses_uploadItem content item).map ?_
        rintro _ results ⟨turns, rfl, inTurn⟩
        exact .moved asks found nonempty inTurn
  · have batch := converses_postBatch_of_not_builds builds (.basic .upload [object])
    apply (batch.onPart fun _ _ => rfl).bind
    · rintro _ error ⟨rfl, -⟩
      exact .unasked builds
    · rintro _ response ⟨rfl, error, failed⟩
      cases failed

/-- Where the connection of the caller can be opened, an upload first asks for a batch of the one
    object and then for what the items of the response say, one after another: nothing for an item
    without a link, else one request that carries the content and, if this is accepted and the
    item has a link for it, one that announces it.  The first failure ends the upload, which
    succeeds if nothing of this fails. -/
theorem putObject_exchanges {access : Access} (reachable : access.network.reachable = true)
    (who : Principal) (content : Bytes) (hash : String) (size : UInt64) :
    let outcome := (Access.provider.putObject who (.ok content) hash size).outcome access
    (∀ error, (access.pool.connection who).1 = .error error →
      outcome.1 = .error error ∧ access.network.Exchanges [] outcome.2.network) ∧
    ∀ c, (access.pool.connection who).1 = .ok c →
      ∃ log, access.network.Exchanges log outcome.2.network ∧
        c.Upload content ⟨hash, size⟩ log outcome.1 ∧ (outcome.1 = .ok () ↔ Accepted log) := by
  rw [Provider.putObject_eq]
  constructor
  · intro error failed
    rw [Access.outcome_client_bind_of_error failed]
    exact ⟨rfl, .nil _⟩
  · intro c opened
    rw [Access.outcome_client_bind_of_ok opened]
    -- The pool keeps the connection, which makes no difference to the network.
    obtain ⟨log, exchanges, upload⟩ := c.converses_upload content ⟨hash, size⟩
      { access with pool := (access.pool.connection who).2 } reachable
    exact ⟨log, exchanges, upload, upload.eq_ok_iff⟩

/-- One item has links to send the content to and to announce it, the other has none.  The batch and
    the announcement name the object. -/
theorem putObject_exchanges_announced :
    let batch := Bytes.ofString <|
      "\x7b\"objects\":[\x7b\"oid\":\"ab\",\"size\":2,\"actions\":\x7b" ++
      "\"upload\":\x7b\"href\":\"http://cdn.test/ab\",\"header\":\x7b\"X-Part\":\"1\"\x7d\x7d," ++
      "\"verify\":\x7b\"href\":\"http://lfs.test/done\"\x7d\x7d\x7d,\x7b\"oid\":\"cd\"\x7d]\x7d"
    let ask := Bytes.ofString <|
      "\x7b\"operation\":\"upload\",\"transfers\":[\"basic\"]," ++
      "\"objects\":[\x7b\"oid\":\"ab\",\"size\":2\x7d]\x7d"
    let announcement := Bytes.ofString "\x7b\"oid\":\"ab\",\"size\":2\x7d"
    let config := Config.ofUrl "http://lfs.test"
    let access : Access :=
      ⟨.ofConfig config, true, [⟨200, [batch], .whole⟩, ⟨200, [], .whole⟩, ⟨204, [], .whole⟩], []⟩
    let c : Connection := ⟨"http://lfs.test", .anonymous, config.userAgent, config.spillThreshold⟩
    let outcome := (Access.provider.putObject .anonymous (.ok [1, 2]) "ab" 2).outcome access
    (access.pool.connection .anonymous).1 = .ok c ∧
      (∃ log, access.network.Exchanges log outcome.2.network ∧
        c.Upload [1, 2] ⟨"ab", 2⟩ log outcome.1 ∧ (outcome.1 = .ok () ↔ Accepted log)) ∧
      outcome.1 = .ok () ∧
      outcome.2.network.sent.map
          (fun request => (request.method, request.url.path, request.body)) =
        [(.post, ["objects", "batch"], ask), (.put, ["ab"], [1, 2]),
          (.post, ["done"], announcement)] := by
  intro batch ask announcement config access c outcome
  -- The second item has no links, so nothing is sent for it.
  have opened : (access.pool.connection .anonymous).1 = .ok c := by decide +kernel
  have reachable : access.network.reachable = true := rfl
  exact ⟨opened, (putObject_exchanges reachable .anonymous [1, 2] "ab" 2).2 c opened,
    by decide +kernel⟩

end Remote

end LargeFiles
