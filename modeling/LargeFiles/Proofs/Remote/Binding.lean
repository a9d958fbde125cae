import LargeFiles.Proofs.Pointer
import LargeFiles.Proofs.Remote.Upload

/-!
# What the answers to batches are about

A batch asks for one object, and each item of the answer names the object that it is about.  The
two names are not compared: a download takes the first item as it is, and an upload goes through
the links of all items.  Which object is read or written is therefore up to the service, and it is
the one that was asked for if the items name it.

* `readerOf_eq_some_iff`              the reader that an answer gives;
* `Connection.Upload.carried`         what an upload sends after the batch;
* `Connection.converses_negotiation`  what a download sends, and the reader that comes of it;
* `batch_names_other`                 an answer that names another object is taken as it is;
* `batch_binds_items`                 what is read and written is what the items name.
-/

namespace LargeFiles

open Http (Exchange Network Request Response)

/-- A request goes through a link of an item: it sends the content, or announces the object that
    the item names. -/
inductive Api.BatchItem.Carries (item : Api.BatchItem) (content : Bytes) (request : Request) : Prop
  | upload {link} (link_eq : item.actions.upload? = some link)
      (follows : request.Follows link .put content)
  | verify {link} (link_eq : item.actions.verify? = some link)
      (follows : request.Follows link .post item.object.toJson.render)

namespace Remote

/-- The items of the answer to the batch that some exchanges start with. -/
def answeredItems : List Exchange → List Api.BatchItem
  | [] => []
  | ask :: _ => ((success? Api.BatchResponse.ofJson? ask.response).map (·.objects)).getD []

/-- The items are those of the first response. -/
theorem answeredItems_cons {ask : Exchange} {response : Api.BatchResponse}
    (answered : success? Api.BatchResponse.ofJson? ask.response = some response)
    (rest : List Exchange) : answeredItems (ask :: rest) = response.objects := by
  rw [answeredItems, answered]
  rfl

/-! ### Uploads -/

/-- Every request of a delivery follows the link. -/
theorem Delivery.follows {link : Api.Link} {method : Http.Method} {body : Bytes}
    {log : List Exchange} {result : Except RemoteError Unit}
    (h : Delivery link method body log result) :
    ∀ exchange ∈ log, exchange.request.Follows link method body := by
  cases h with
  | unusable => exact List.forall_mem_nil _
  | rejected follows => exact List.forall_mem_singleton.2 follows
  | accepted follows => exact List.forall_mem_singleton.2 follows

/-- What is sent for an item goes through its links, and nothing is sent for one that carries an
    error. -/
theorem Transfer.carried {content : Bytes} {item : Api.BatchItem} {log : List Exchange}
    {result : Except RemoteError Unit} (h : Transfer content item log result) :
    ∀ exchange ∈ log, item.error = none ∧ item.Carries content exchange.request := by
  cases h with
  | refused => exact List.forall_mem_nil _
  | stored => exact List.forall_mem_nil _
  | failed granted whereto put =>
    exact fun exchange mem => ⟨granted, .upload whereto (put.follows exchange mem)⟩
  | uploaded granted whereto put =>
    exact fun exchange mem => ⟨granted, .upload whereto (put.follows exchange mem)⟩
  -- The content goes along one link, and the announcement along the other.
  | announced granted whereto put announce post =>
    rw [List.forall_mem_append]
    exact ⟨fun exchange mem => ⟨granted, .upload whereto (put.follows exchange mem)⟩,
      fun exchange mem => ⟨granted, .verify announce (post.follows exchange mem)⟩⟩

/-- What ties an upload to the answer to its batch: whatever is sent after the batch goes through
    the links of items of the answer, and there is at least one item if the upload succeeds. -/
structure Carried (content : Bytes) (object : Api.ObjectMeta) (log : List Exchange)
    (result : Except RemoteError Unit) : Prop where
  asked : ∀ ask ∈ log.head?,
    ask.request.body = (Api.BatchRequest.basic .upload [object]).toJson.render
  through : ∀ exchange ∈ log.tail, ∃ item ∈ answeredItems log,
    item.error = none ∧ item.Carries content exchange.request
  answered : result = .ok () → ∃ item, item ∈ answeredItems log

/-- An upload carries the content to links of the items only. -/
theorem Connection.Upload.carried {c : Connection} {content : Bytes} {object : Api.ObjectMeta}
    {log : List Exchange} {result : Except RemoteError Unit}
    (h : c.Upload content object log result) : Carried content object log result where
  asked := by
    have posted {ask : Exchange} {message : Json}
        (posts : c.Posts Endpoint.batch message ask.request) :
        ask.request.body = message.render := by
      obtain ⟨url, -, asks⟩ := posts
      exact asks.body
    intro ask started
    cases h with
    | unasked => cases started
    | unanswered asks | empty asks | moved asks =>
      cases started
      exact posted asks
  through := by
    cases h with
    | unasked => exact List.forall_mem_nil _
    | unanswered => exact List.forall_mem_nil _
    | empty => exact List.forall_mem_nil _
    | @moved ask response turns results _ answered _ inTurn =>
      intro exchange mem
      obtain ⟨turn, taken, mem⟩ := List.mem_flatMap.1 mem
      -- What is sent in a turn is sent for its item, which is one of the answer.
      have item : turn.target ∈ response.objects :=
        inTurn.targets_prefix.subset (List.mem_map_of_mem taken)
      rw [answeredItems_cons answered]
      exact ⟨turn.target, item, (inTurn.fits_of_mem taken).carried exchange mem⟩
  answered done := by
    obtain ⟨ask, rest, response, rfl, answered, nonempty, -⟩ := h.eq_ok_iff.1 done
    rw [answeredItems_cons answered]
    exact List.exists_mem_of_ne_nil _ nonempty

/-- Whether an upload could ask for a batch or not, what it sends is tied to the answer. -/
theorem carried_of_putObject {access : Access} (reachable : access.network.reachable = true)
    (who : Principal) (content : Bytes) (hash : String) (size : UInt64) :
    let outcome := (Access.provider.putObject who (.ok content) hash size).outcome access
    ∃ log, access.network.Exchanges log outcome.2.network ∧
      Carried content ⟨hash, size⟩ log outcome.1 := by
  rw [Provider.putObject_eq]
  -- Without a connection nothing is sent.
  cases opened : (access.pool.connection who).1 with
  | error error =>
    rw [Access.outcome_client_bind_of_error opened]
    exact ⟨[], .nil _, fun _ started => (nomatch started), List.forall_mem_nil _,
      fun done => nomatch done⟩
  | ok c =>
    rw [Access.outcome_client_bind_of_ok opened]
    obtain ⟨log, exchanges, upload⟩ := c.converses_upload content ⟨hash, size⟩
      { access with pool := (access.pool.connection who).2 } reachable
    exact ⟨log, exchanges, upload.carried⟩

/-! ### Downloads -/

/-- A reader is for the content that its item names. -/
theorem Reader.oid_eq_iff {reader : Reader} {hash : String} :
    reader.oid = Pointer.scheme ++ hash ↔ reader.object.oid = hash := by
  rw [oid, ← String.toList_inj, String.toList_append, String.toList_append,
    List.append_cancel_left_eq, String.toList_inj]

/-- The reader that the first item of an answer gives, unless it carries an error. -/
theorem readerOf_eq_some_iff {response : Api.BatchResponse} {reader : Reader} :
    Provider.readerOf response = some reader ↔
      ∃ item rest, response.objects = item :: rest ∧ item.error = none ∧
        reader = ⟨item.object, item.actions⟩ := by
  rw [Provider.readerOf]
  cases items : response.objects with
  | nil => simp
  | cons item rest =>
    cases granted : item.error with
    | none => simp [granted, eq_comm]
    | some error => simp [granted]

/-- There is no reader if there is no item, or if it has an error. -/
theorem readerOf_eq_none_iff {response : Api.BatchResponse} :
    Provider.readerOf response = none ↔ ∀ item ∈ response.objects.head?, item.error ≠ none := by
  rw [Provider.readerOf]
  cases response.objects with
  | nil => simp
  | cons item rest => cases granted : item.error <;> simp [granted]

/-- What a client does to negotiate a download. -/
def Client.negotiate {σ : Type} (client : Client σ) (hash : String) :
    Session σ RemoteError (Option Reader) := do
  let response ← client.postBatch (.basic .download [⟨hash, 0⟩])
  return Provider.readerOf response

/-- An identifier with the scheme leads to a request for its hash. -/
theorem Provider.getReader_scheme {σ : Type} (provider : Provider σ) (hash : String)
    (who : Principal) :
    provider.getReader (Pointer.scheme ++ hash) who =
      provider.client who >>= fun client => client.negotiate hash := by
  rw [getReader, Pointer.hashOfOid?_scheme]
  rfl

/-- What is exchanged to negotiate the download of the object with a hash, and what comes of it. -/
inductive Connection.Negotiation (c : Connection) (hash : String) :
    List Exchange → Except RemoteError (Option Reader) → Prop
  /-- No batch can be asked for. -/
  | unasked {error} (fails : ¬ c.Builds) : Negotiation c hash [] (.error error)
  | unanswered {ask error}
      (asks : c.Posts Endpoint.batch (Api.BatchRequest.basic .download [⟨hash, 0⟩]).toJson
        ask.request)
      (silent : success? Api.BatchResponse.ofJson? ask.response = none) :
      Negotiation c hash [ask] (.error error)
  /-- There is no item, or the first one carries an error. -/
  | absent {ask response}
      (asks : c.Posts Endpoint.batch (Api.BatchRequest.basic .download [⟨hash, 0⟩]).toJson
        ask.request)
      (answered : success? Api.BatchResponse.ofJson? ask.response = some response)
      (withheld : ∀ item ∈ response.objects.head?, item.error ≠ none) :
      Negotiation c hash [ask] (.ok none)
  | found {ask response item rest}
      (asks : c.Posts Endpoint.batch (Api.BatchRequest.basic .download [⟨hash, 0⟩]).toJson
        ask.request)
      (answered : success? Api.BatchResponse.ofJson? ask.response = some response)
      (first : response.objects = item :: rest) (granted : item.error = none) :
      Negotiation c hash [ask] (.ok (some ⟨item.object, item.actions⟩))

/-- A reader is negotiated by one batch, unless no address can be built. -/
theorem Connection.converses_negotiation (c : Connection) (hash : String) :
    (c.reached.negotiate hash).Converses Access.network (c.Negotiation hash) := by
  rw [Client.negotiate, reached_postBatch]
  by_cases builds : c.Builds
  · have batch := converses_postBatch builds (.basic .download [⟨hash, 0⟩])
    apply (batch.onPart fun _ _ => rfl).bind
    · rintro _ error ⟨ask, rfl, asks, answered⟩
      refine .unanswered asks (Option.eq_none_iff_forall_ne_some.2 fun response found => ?_)
      cases (answered response).2 found
    · rintro _ response ⟨ask, rfl, asks, answered⟩
      have found := (answered response).1 rfl
      refine .pure ?_
      -- Only the first item is looked at.
      cases read : Provider.readerOf response with
      | none => exact .absent asks found (readerOf_eq_none_iff.1 read)
      | some reader =>
        obtain ⟨item, rest, first, granted, rfl⟩ := readerOf_eq_some_iff.1 read
        exact .found asks found first granted
  · have batch := converses_postBatch_of_not_builds builds (.basic .download [⟨hash, 0⟩])
    apply (batch.onPart fun _ _ => rfl).bind
    · rintro _ error ⟨rfl, -⟩
      exact .unasked builds
    · rintro _ response ⟨_, error, failed⟩
      cases failed

/-- A download of the object with a hash is negotiated by one batch, and the reader is that of the
    first item of the answer. -/
structure Connection.Negotiated (c : Connection) (hash : String) (reader : Reader)
    (ask : Exchange) (item : Api.BatchItem) : Prop where
  asks : c.Posts Endpoint.batch (Api.BatchRequest.basic .download [⟨hash, 0⟩]).toJson ask.request
  first : ∃ rest, answeredItems [ask] = item :: rest
  granted : item.error = none
  taken : reader = ⟨item.object, item.actions⟩

/-- A reader that is given was negotiated by one batch. -/
theorem Connection.converses_negotiate (c : Connection) (hash : String) :
    (c.reached.negotiate hash).Converses Access.network fun log result =>
      ∀ reader, result = .ok (some reader) →
        ∃ ask item, log = [ask] ∧ c.Negotiated hash reader ask item := by
  refine (c.converses_negotiation hash).imp ?_
  rintro _ _ negotiation reader rfl
  cases negotiation with
  | found asks answered items granted =>
    have first := (answeredItems_cons answered []).trans items
    exact ⟨_, _, rfl, asks, ⟨_, first⟩, granted, rfl⟩

/-- Where a reader comes from. -/
theorem negotiated_of_getReader {access : Access} (reachable : access.network.reachable = true)
    {oid : String} {who : Principal} {reader : Reader}
    (given : ((Access.provider.getReader oid who).outcome access).1 = .ok (some reader)) :
    ∃ c hash ask item, (access.pool.connection who).1 = .ok c ∧ oid = Pointer.scheme ++ hash ∧
      access.network.Exchanges [ask]
        ((Access.provider.getReader oid who).outcome access).2.network ∧
      c.Negotiated hash reader ask item := by
  -- An identifier with another scheme gives no reader, and nothing is sent.
  cases named : Pointer.hashOfOid? oid with
  | none =>
    rw [Provider.getReader, named] at given
    cases given
  | some hash =>
    obtain rfl := Pointer.hashOfOid?_eq_some_iff.1 named
    rw [Provider.getReader_scheme] at given ⊢
    cases opened : (access.pool.connection who).1 with
    | error error =>
      rw [Access.outcome_client_bind_of_error opened] at given
      cases given
    | ok c =>
      rw [Access.outcome_client_bind_of_ok opened] at given ⊢
      obtain ⟨log, exchanges, gives⟩ := c.converses_negotiate hash
        { access with pool := (access.pool.connection who).2 } reachable
      obtain ⟨ask, item, rfl, negotiated⟩ := gives reader given
      exact ⟨c, hash, ask, item, rfl, rfl, exchanges, negotiated⟩

/-! ### Both directions -/

/-- The answer to a batch may name another object than the one that was asked for.  The reader is
    then one of the other object, and the content that was to be stored under the hash is sent
    to where the other object is stored, with success. -/
theorem batch_names_other :
    let batch := Bytes.ofString <|
      "\x7b\"objects\":[\x7b\"oid\":\"bb\",\"size\":2,\"actions\":\x7b\"upload\":\x7b" ++
      "\"href\":\"http://cdn.test/bb\"\x7d\x7d\x7d]\x7d"
    let access : Access := ⟨.ofConfig (Config.ofUrl "http://lfs.test"), true,
      [⟨200, [batch], .whole⟩, ⟨200, [], .whole⟩], []⟩
    let fetched := (Access.provider.getReader "sha256:aa" .anonymous).outcome access
    let stored := (Access.provider.putObject .anonymous (.ok [1, 2]) "aa" 2).outcome access
    (success? Api.BatchResponse.ofJson? (access.network.response 0)).map
        (fun response => response.objects.map (·.oid)) = some ["bb"] ∧
      fetched.1.map (fun reader => reader.map (·.oid)) = .ok (some "sha256:bb") ∧
      stored.1 = .ok () ∧
      (stored.2.network.sent.drop 1).map
          (fun request => (request.method, request.url.path, request.body)) =
        [(.put, ["bb"], [1, 2])] := by
  decide +kernel

/-- What is read and written is what the items of the answer name.  A reader is that of the first
    item, so it is of the object that was asked for if this item names it.  An upload goes through
    the links of granted items and succeeds only if there is an item; if all items name the object
    that is to be stored, it goes through the links of such items. -/
theorem batch_binds_items {access : Access} (reachable : access.network.reachable = true)
    (who : Principal) :
    (∀ oid reader, ((Access.provider.getReader oid who).outcome access).1 = .ok (some reader) →
      ∃ c hash ask item, (access.pool.connection who).1 = .ok c ∧ oid = Pointer.scheme ++ hash ∧
        access.network.Exchanges [ask]
          ((Access.provider.getReader oid who).outcome access).2.network ∧
        c.Negotiated hash reader ask item ∧ (reader.oid = oid ↔ item.oid = hash)) ∧
    ∀ content hash size,
      let outcome := (Access.provider.putObject who (.ok content) hash size).outcome access
      ∃ log, access.network.Exchanges log outcome.2.network ∧
        Carried content ⟨hash, size⟩ log outcome.1 ∧
        ((∀ item ∈ answeredItems log, item.oid = hash) →
          (∀ exchange ∈ log.tail, ∃ item ∈ answeredItems log,
            item.oid = hash ∧ item.error = none ∧ item.Carries content exchange.request) ∧
          (outcome.1 = .ok () → ∃ item ∈ answeredItems log, item.oid = hash)) := by
  constructor
  · intro oid reader given
    obtain ⟨c, hash, ask, item, opened, rfl, exchanges, negotiated⟩ :=
      negotiated_of_getReader reachable given
    -- The identifier of a reader is the scheme and the hash of the item.
    have same : reader.oid = Pointer.scheme ++ hash ↔ item.oid = hash := by
      rw [Reader.oid_eq_iff, negotiated.taken, Api.BatchItem.object]
    exact ⟨c, hash, ask, item, opened, rfl, exchanges, negotiated, same⟩
  · intro content hash size
    obtain ⟨log, exchanges, carried⟩ := carried_of_putObject reachable who content hash size
    refine ⟨log, exchanges, carried, fun named => ⟨fun exchange mem => ?_, fun done => ?_⟩⟩
    · obtain ⟨item, listed, granted, carries⟩ := carried.through exchange mem
      exact ⟨item, listed, named item listed, granted, carries⟩
    · obtain ⟨item, listed⟩ := carried.answered done
      exact ⟨item, listed, named item listed⟩

/-- An answer that names the object that was asked for. -/
theorem batch_binds_items_named :
    let batch := Bytes.ofString <|
      "\x7b\"objects\":[\x7b\"oid\":\"aa\",\"size\":2,\"actions\":\x7b\"upload\":\x7b" ++
      "\"href\":\"http://cdn.test/aa\"\x7d\x7d\x7d]\x7d"
    let access : Access := ⟨.ofConfig (Config.ofUrl "http://lfs.test"), true,
      [⟨200, [batch], .whole⟩, ⟨200, [], .whole⟩], []⟩
    let reader : Reader :=
      ⟨⟨"aa", 2⟩, Api.Links.none.insert "upload" (.plain "http://cdn.test/aa")⟩
    let fetched := (Access.provider.getReader "sha256:aa" .anonymous).outcome access
    let stored := (Access.provider.putObject .anonymous (.ok [1, 2]) "aa" 2).outcome access
    fetched.1 = .ok (some reader) ∧
      (∃ c hash ask item, (access.pool.connection .anonymous).1 = .ok c ∧
        "sha256:aa" = Pointer.scheme ++ hash ∧
        access.network.Exchanges [ask] fetched.2.network ∧
        c.Negotiated hash reader ask item ∧ (reader.oid = "sha256:aa" ↔ item.oid = hash)) ∧
      (∃ log, access.network.Exchanges log stored.2.network ∧
        Carried [1, 2] ⟨"aa", 2⟩ log stored.1 ∧
        ((∀ item ∈ answeredItems log, item.oid = "aa") →
          (∀ exchange ∈ log.tail, ∃ item ∈ answeredItems log,
            item.oid = "aa" ∧ item.error = none ∧ item.Carries [1, 2] exchange.request) ∧
          (stored.1 = .ok () → ∃ item ∈ answeredItems log, item.oid = "aa"))) ∧
      stored.1 = .ok () := by
  intro batch access reader fetched stored
  have reachable : access.network.reachable = true := rfl
  have given : fetched.1 = .ok (some reader) := by decide +kernel
  have binds := batch_binds_items reachable .anonymous
  exact ⟨given, binds.1 "sha256:aa" reader given, binds.2 [1, 2] "aa" 2, by decide +kernel⟩

end Remote

end LargeFiles
