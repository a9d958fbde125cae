import LargeFiles.Proofs.Remote.Twins
import LargeFiles.Remote.Locking
import LargeFiles.Remote.Writer

/-!
# Where credentials are shown

Two configurations of one service that differ in their credentials are used in the same way, over
networks on which the same is to come.  What is asked of them has the same answers, and the same
requests are sent, but for the one header that shows the credentials of whoever an operation runs
as, in requests to the API.

* `Accord.of_matches`      what goes to the API alone, or to links alone;
* `accord_postBatch_bind`  what is negotiated and then follows links;
* `Operation.accord`       one operation;
* `credentials_confined`   any number of them, each asked for in view of the answers so far.
-/

namespace LargeFiles.Remote

open Http (Network Request)

variable {config other : Config} {α β : Type}

/-! ### Operations -/

/-- What can be asked of the storage. -/
inductive Operation
  | getMeta (hash : String)
  | putObject (who : Principal) (source : Source) (hash : String) (size : UInt64)
  | getObject (links : Api.Links)
  | getReader (oid : String) (who : Principal)
  | read (reader : Reader)
  | finish (writer : Writer)
  | lock (who : Principal) (branch : Option Branch) (steal : Bool) (targets : List LockTarget)
  | unlock (who : Principal) (branch : Option Branch) (force : Bool)
      (targets : List UnlockTarget)
  | locks (who : Principal) (branch : Option Branch) (path id : Option String)
  | verifyLocks (who : Principal) (branch : Option Branch)
  | renewLocks (branch : Branch) (locks : List LockDescription)
  | cleanupLocks (branch : Branch)
  | invalidate (who : Principal)

/-- What an operation gives if it does not fail. -/
inductive Answer
  | info (info : Option Api.ObjectInfo)
  | content (content : Bytes)
  | reader (reader : Option Reader)
  | finished (result : Except RemoteError String) (writer : Writer)
  | locks (locks : List LockDescription)
  | verified (locks : VerifiedLocks)
  | cleaned (any : Bool)
  | done

namespace Operation

variable {σ : Type}

/-- Whom an operation runs as. -/
def principal : Operation → Principal
  | getMeta _ | getObject _ | read _ | renewLocks _ _ | cleanupLocks _ => .anonymous
  | putObject who _ _ _ | getReader _ who | lock who _ _ _ | unlock who _ _ _
  | locks who _ _ _ | verifyLocks who _ | invalidate who => who
  | finish writer => writer.who

/-- Carries out an operation. -/
def perform (provider : Provider σ) : Operation → Session σ RemoteError Answer
  | getMeta hash => return .info (← provider.getMeta hash)
  | putObject who source hash size => do
    provider.putObject who source hash size
    return .done
  | getObject links => return .content (← provider.getObject links)
  | getReader oid who => return .reader (← provider.getReader oid who)
  | read reader => return .content (← provider.read reader)
  | finish writer => .ofFunction fun state =>
    let ((result, writer), state) := writer.finish provider state
    (.ok (.finished result writer), state)
  | lock who branch steal targets => return .locks (← provider.lock who branch steal targets)
  | unlock who branch force targets => return .locks (← provider.unlock who branch force targets)
  | locks who branch path id => return .locks (← provider.locks who branch path id)
  | verifyLocks who branch => return .verified (← provider.verifyLocks who branch)
  | renewLocks branch held => .ofFunction fun state =>
    (.ok .done, provider.renewLocks branch held state)
  | cleanupLocks branch => .ofFunction fun state =>
    let (any, state) := provider.cleanupLocks branch state
    (.ok (.cleaned any), state)
  | invalidate who => .ofFunction fun state => (.ok .done, provider.invalidate who state)

end Operation

/-! ### Routes -/

/-- Where the requests of an operation go. -/
inductive Route
  /-- All of them go to the API. -/
  | api
  /-- All of them go to links. -/
  | links
  /-- The first one goes to the API, and the others go to links that were given in answer. -/
  | upload

/-- The requests that are sent on a route correspond to each other: those that go to the API one
    by one, and those that go to links are the same. -/
def Route.Agrees (pair : Request → Request → Prop) :
    Route → List Request → List Request → Prop
  | api, sent, sent' => List.Forall₂ pair sent sent'
  | links, sent, sent' => sent = sent'
  | upload, sent, sent' =>
    List.Forall₂ pair (sent.take 1) (sent'.take 1) ∧ sent.drop 1 = sent'.drop 1

/-- The route of an operation. -/
def Operation.route : Operation → Route
  | getObject _ | read _ => .links
  | putObject _ _ _ _ | finish _ => .upload
  | _ => .api

/-- Two outcomes of sessions on two ways of access, given the requests sent before: the answer is
    the same, and the requests agree. -/
structure Accord (config other : Config) (agrees : List Request → List Request → Prop)
    (before before' : List Request) (result result' : Except RemoteError α × Access) : Prop where
  answer : result'.1 = result.1
  twins : Twins config other Abreast result.2 result'.2
  sent : ∃ requests requests', result.2.network.sent = before ++ requests ∧
    result'.2.network.sent = before' ++ requests' ∧ agrees requests requests'

variable {access access' : Access} {pair : Request → Request → Prop}

/-- Nothing has been sent yet. -/
theorem Twins.sent (twins : Twins config other Abreast access access') :
    Twins config other (Sent pair access.network.sent access'.network.sent) access access' where
  pools := twins.pools
  networks :=
    ⟨twins.networks, [], [], (List.append_nil _).symm, (List.append_nil _).symm, .nil⟩

/-- Nothing that is sent agrees with nothing, on every route. -/
theorem Route.agrees_nil (route : Route) : route.Agrees pair [] [] := by
  cases route with
  | api => exact .nil
  | links => rfl
  | upload => exact ⟨.nil, rfl⟩

/-- What comes out before anything is sent. -/
theorem Accord.silent (twins : Twins config other Abreast access access') (route : Route)
    (result : Except RemoteError α) :
    Accord config other (route.Agrees pair) access.network.sent access'.network.sent
      (result, access) (result, access') :=
  ⟨rfl, twins, [], [], (List.append_nil _).symm, (List.append_nil _).symm, route.agrees_nil⟩

/-- A value that is made of another one. -/
theorem Accord.bind_pure {agrees : List Request → List Request → Prop}
    {before before' : List Request} {s t : Session Access RemoteError α}
    (h : Accord config other agrees before before' (s.outcome access) (t.outcome access'))
    (f : α → β) :
    Accord config other agrees before before'
      ((s >>= fun a => pure (f a)).outcome access)
      ((t >>= fun a => pure (f a)).outcome access') := by
  obtain ⟨answer, twins, sent⟩ := h
  rw [Session.outcome_bind, Session.outcome_bind]
  revert answer twins sent
  rcases s.outcome access with ⟨result, after⟩
  rcases t.outcome access' with ⟨result', after'⟩
  rintro ⟨⟩ twins sent
  cases result with
  | error error => exact ⟨rfl, twins, sent⟩
  | ok a => exact ⟨rfl, twins, sent⟩

/-- What sessions send that match. -/
theorem Accord.of_matches {s t : Session Access RemoteError α}
    (h : s.Matches t
      (Twins config other (Sent pair access.network.sent access'.network.sent)))
    (twins : Twins config other Abreast access access') :
    Accord config other (List.Forall₂ pair) access.network.sent access'.network.sent
      (s.outcome access) (t.outcome access') := by
  obtain ⟨answer, pools, networks, sent⟩ := h access access' twins.sent
  exact ⟨answer.symm, ⟨pools, networks⟩, sent⟩

/-! ### Uploads -/

/-- A session that sends one request if it succeeds, and one at most if it fails. -/
def SendsOnce (s : Session Network RemoteError α) : Prop :=
  ∀ network, ∃ requests, (s.outcome network).2.sent = network.sent ++ requests ∧
    requests.length ≤ 1 ∧ ∀ a, (s.outcome network).1 = .ok a → requests.length = 1

/-- A request is sent once, or not at all if it cannot be built or does not get through. -/
theorem sendsOnce_send (c : Connection) (request? : Option Request) (endpoint : String) :
    SendsOnce (c.send request? endpoint) := by
  intro network
  cases request? with
  | none =>
    exact ⟨[], (List.append_nil _).symm, Nat.zero_le 1, by simp [Connection.send]⟩
  | some request =>
    have sent := network.sent_exchange (request.complete c.userAgent)
    rw [Connection.send, Session.outcome_ofFunction]
    by_cases reachable : network.reachable = true
    -- It is recorded as sent even if no response comes.
    · rw [if_pos reachable] at sent
      refine ⟨[request.complete c.userAgent], ?_, Nat.le_refl 1, fun _ _ => rfl⟩
      rw [← sent]
      rcases network.exchange (request.complete c.userAgent) with ⟨_ | response, network'⟩ <;> rfl
    · have lost : network.exchange (request.complete c.userAgent) = (none, network) :=
        if_neg reachable
      rw [lost]
      exact ⟨[], (List.append_nil _).symm, Nat.zero_le 1, by simp⟩

/-- Reading the response sends nothing more. -/
theorem SendsOnce.bind_ofExcept {β : Type} {s : Session Network RemoteError α} (h : SendsOnce s)
    (f : α → Except RemoteError β) : SendsOnce (s >>= fun a => Session.ofExcept (f a)) := by
  intro network
  obtain ⟨requests, sent, most, once⟩ := h network
  refine ⟨requests, ?_, most, fun b given => ?_⟩
  · rw [Session.outcome_bind]
    revert sent
    rcases s.outcome network with ⟨⟨⟩ | ⟨⟩, network'⟩ <;> exact id
  · obtain ⟨a, given, -⟩ := Session.bind_eq_ok.1 given
    exact once a given

theorem sendsOnce_postBatch (c : Connection) (request : Api.BatchRequest) :
    SendsOnce (c.postBatch request) :=
  (sendsOnce_send c _ _).bind_ofExcept _

/-- What is sent once on the network is sent once by the whole access. -/
theorem SendsOnce.onPart {s : Session Network RemoteError α} (h : SendsOnce s) (access : Access) :
    ∃ requests,
      ((s.onPart Access.network fun access network => { access with network }).outcome
        access).2.network.sent = access.network.sent ++ requests ∧ requests.length ≤ 1 ∧
      ∀ a, ((s.onPart Access.network fun access network => { access with network }).outcome
        access).1 = .ok a → requests.length = 1 := by
  simp only [Session.outcome_onPart]
  exact h access.network

/-- After one negotiation what follows goes to links. -/
theorem accord_postBatch_bind (h : config.Confines other)
    (twins : Twins config other Abreast access access') (who : Principal)
    (request : Api.BatchRequest) {next next' : Api.BatchResponse → Session Access RemoteError α}
    (follows : ∀ response before before',
      (next response).Matches (next' response) (Twins config other (Sent Eq before before'))) :
    Accord config other (Route.upload.Agrees (SignedBy config other who)) access.network.sent
      access'.network.sent
      (((connectionOf config who).reached.postBatch request >>= next).outcome access)
      (((connectionOf other who).reached.postBatch request >>= next').outcome access') := by
  obtain ⟨answer, after, requests, requests', sent, sent', agree⟩ :=
    Accord.of_matches (matches_postBatch_reached h who request) twins
  have once := (sendsOnce_postBatch (connectionOf config who) request).onPart access
  rw [← reached_postBatch] at once
  rw [Session.outcome_bind, Session.outcome_bind]
  revert answer after sent sent' once
  rcases ((connectionOf config who).reached.postBatch request).outcome access with
    ⟨result, middle⟩
  rcases ((connectionOf other who).reached.postBatch request).outcome access' with
    ⟨result', middle'⟩
  rintro ⟨⟩ after sent sent' ⟨more, sent_more, most, one⟩
  obtain rfl : requests = more := List.append_cancel_left (sent.symm.trans sent_more)
  have length := agree.length_eq
  cases result with
  | error error =>
    -- Nothing follows.  Whether the request was sent before the failure makes no difference.
    refine ⟨rfl, after, requests, requests', sent, sent', ?_, ?_⟩
    · rwa [List.take_of_length_le most, List.take_of_length_le (length ▸ most)]
    · rw [List.drop_of_length_le most, List.drop_of_length_le (length ▸ most)]
  | ok response =>
    -- A response answers a request, so what follows it are all requests but the first.
    have single := one response rfl
    obtain ⟨answer, last, links, links', sent_links, sent_links', same⟩ :=
      Accord.of_matches (follows response _ _) after
    rw [List.forall₂_eq_eq_eq] at same
    subst same
    refine ⟨answer, last, requests ++ links, requests' ++ links, ?_, ?_, ?_, ?_⟩
    · rw [sent_links, ← List.append_assoc]
      exact congrArg (· ++ links) sent
    · rw [sent_links', ← List.append_assoc]
      exact congrArg (· ++ links) sent'
    · rwa [List.take_left' single, List.take_left' (length ▸ single)]
    · rw [List.drop_left' single, List.drop_left' (length ▸ single)]

/-- An upload negotiates once and then follows links. -/
theorem accord_putObject (h : config.Confines other)
    (twins : Twins config other Abreast access access') (who : Principal) (source : Source)
    (hash : String) (size : UInt64) :
    Accord config other (Route.upload.Agrees (SignedBy config other who)) access.network.sent
      access'.network.sent ((Access.provider.putObject who source hash size).outcome access)
      ((Access.provider.putObject who source hash size).outcome access') := by
  rw [Provider.putObject, Session.outcome_bind, Session.outcome_bind]
  -- Both sides have a connection or both fail, since that depends on the address.
  rcases client_cases h.same who twins with
    ⟨error, fails, fails'⟩ | ⟨pool, pool', twins', gives, gives'⟩
  · rw [fails, fails']
    exact .silent twins .upload _
  · rw [gives, gives']
    dsimp only
    refine accord_postBatch_bind h twins' who _ fun response before before' => ?_
    -- From here on only links are followed, and these requests are equal on both sides.
    have uploads : (Provider.uploadItems (connectionOf config who).reached source
        response.objects).Matches (Provider.uploadItems (connectionOf other who).reached source
        response.objects) (Twins config other (Sent Eq before before')) :=
      matches_uploadItems h who source response.objects
    split
    · exact (Session.Matches.throw _).bind fun _ => uploads
    · exact uploads

/-- A writer that is finished uploads once at most. -/
theorem accord_finish (h : config.Confines other)
    (twins : Twins config other Abreast access access') (writer : Writer) :
    Accord config other (Route.upload.Agrees (SignedBy config other writer.who))
      access.network.sent access'.network.sent
      (((Operation.finish writer).perform Access.provider).outcome access)
      (((Operation.finish writer).perform Access.provider).outcome access') := by
  rw [Operation.perform, Session.outcome_ofFunction, Session.outcome_ofFunction, Writer.finish,
    Writer.finish]
  cases writer.seal? with
  | none =>
    -- What was uploaded already is not uploaded again.
    exact .silent twins .upload _
  | some sealed =>
    obtain ⟨answer, after, sent⟩ := accord_putObject h twins writer.who (.ok sealed.1.read)
      sealed.2 (UInt64.ofNat sealed.1.size)
    dsimp only
    revert answer after sent
    rcases (Access.provider.putObject writer.who _ _ _).outcome access with ⟨result, middle⟩
    rcases (Access.provider.putObject writer.who _ _ _).outcome access' with ⟨result', middle'⟩
    rintro ⟨⟩ after sent
    cases result with
    | error error => exact ⟨rfl, after, sent⟩
    | ok _ => exact ⟨rfl, after, sent⟩

/-! ### Operations one after another -/

/-- What is done with the client of a principal, if all of it goes to the API. -/
theorem accord_client_bind (h : config.Confines other)
    (twins : Twins config other Abreast access access') (who : Principal)
    (use : Client Access → Session Access RemoteError α) (wrap : α → β)
    (matching : ∀ before before', (use (connectionOf config who).reached).Matches
      (use (connectionOf other who).reached)
      (Twins config other (Sent (SignedBy config other who) before before'))) :
    Accord config other (Route.api.Agrees (SignedBy config other who)) access.network.sent
      access'.network.sent
      ((Access.provider.client who >>= use >>= fun a => pure (wrap a)).outcome access)
      ((Access.provider.client who >>= use >>= fun a => pure (wrap a)).outcome access') :=
  (Accord.of_matches (matches_client_bind h.same who (matching _ _)) twins).bind_pure wrap

/-- Downloads go to links. -/
theorem accord_getObject (h : config.Confines other)
    (twins : Twins config other Abreast access access') (links : Api.Links) (wrap : Bytes → β) :
    Accord config other (Route.links.Agrees pair) access.network.sent access'.network.sent
      ((Access.provider.getObject links >>= fun a => pure (wrap a)).outcome access)
      ((Access.provider.getObject links >>= fun a => pure (wrap a)).outcome access') := by
  let use (client : Client Access) := client.getObject links
  have matching : (Access.provider.client .anonymous >>= use).Matches
      (Access.provider.client .anonymous >>= use)
      (Twins config other (Sent Eq access.network.sent access'.network.sent)) :=
    matches_client_bind h.same .anonymous (matches_getObject_reached h .anonymous links)
  have accord := (Accord.of_matches matching twins).bind_pure wrap
  rwa [List.forall₂_eq_eq_eq] at accord

/-- Negotiating a download goes to the API. -/
theorem accord_getReader (h : config.Confines other)
    (twins : Twins config other Abreast access access') (oid : String) (who : Principal) :
    Accord config other (Route.api.Agrees (SignedBy config other who)) access.network.sent
      access'.network.sent
      (((Operation.getReader oid who).perform Access.provider).outcome access)
      (((Operation.getReader oid who).perform Access.provider).outcome access') := by
  rw [Operation.perform, Provider.getReader]
  cases Pointer.hashOfOid? oid with
  | none => exact .silent twins .api (.ok (Answer.reader none))
  | some hash =>
    exact accord_client_bind h twins who
      (fun client => client.postBatch (.basic .download [⟨hash, 0⟩]) >>= fun response =>
        pure (Provider.readerOf response)) Answer.reader
      fun _ _ => (matches_postBatch_reached h who _).bind fun _ => .pure _

/-- Forgetting a principal sends nothing. -/
theorem accord_invalidate (twins : Twins config other Abreast access access') (who : Principal) :
    Accord config other (Route.api.Agrees pair) access.network.sent access'.network.sent
      (((Operation.invalidate who).perform Access.provider).outcome access)
      (((Operation.invalidate who).perform Access.provider).outcome access') := by
  obtain ⟨⟨names, pool, pool'⟩, networks⟩ := twins
  -- Both pools keep the same names afterwards.
  have forgotten : Twins config other Abreast (Access.provider.invalidate who access)
      (Access.provider.invalidate who access') := by
    refine ⟨⟨names.filter (· != who), ?_, ?_⟩, networks⟩
    · rw [← Pool.forget_keeping, ← pool]
      rfl
    · rw [← Pool.forget_keeping, ← pool']
      rfl
  exact .silent forgotten .api (.ok Answer.done)

/-- An operation is carried out in the same way with both configurations. -/
theorem Operation.accord (h : config.Confines other)
    (twins : Twins config other Abreast access access') (operation : Operation) :
    Accord config other (operation.route.Agrees (SignedBy config other operation.principal))
      access.network.sent access'.network.sent
      ((operation.perform Access.provider).outcome access)
      ((operation.perform Access.provider).outcome access') := by
  cases operation with
  -- Requests to the service differ in nothing but their credentials; the others are equal.
  | getMeta hash =>
    exact accord_client_bind h twins .anonymous (·.getMeta hash) Answer.info
      fun _ _ => matches_getMeta_reached h .anonymous hash
  | putObject who source hash size =>
    exact (accord_putObject h twins who source hash size).bind_pure fun _ => Answer.done
  | getObject links => exact accord_getObject h twins links Answer.content
  | getReader oid who => exact accord_getReader h twins oid who
  | read reader => exact accord_getObject h twins reader.links Answer.content
  | finish writer => exact accord_finish h twins writer
  | lock who branch steal targets =>
    exact accord_client_bind h twins who (·.acquireAll branch steal targets) Answer.locks
      fun _ _ => (mirrors_reached h who).matches_acquireAll branch steal targets
  | unlock who branch force targets =>
    exact accord_client_bind h twins who (·.releaseAll branch force targets) Answer.locks
      fun _ _ => (mirrors_reached h who).matches_releaseAll branch force targets
  | locks who branch path id =>
    exact accord_client_bind h twins who (·.describeLocks branch path id) Answer.locks
      fun _ _ => ((mirrors_reached h who).listLocks path id _).bind fun _ => .pure _
  | verifyLocks who branch =>
    exact accord_client_bind h twins who (·.describeVerified branch) Answer.verified
      fun _ _ => ((mirrors_reached h who).verifyLocks _).bind fun _ => .pure _
  | renewLocks branch held => exact .silent twins .api (.ok Answer.done)
  | cleanupLocks branch => exact .silent twins .api (.ok (Answer.cleaned false))
  | invalidate who => exact accord_invalidate twins who

/-- An operation that was carried out: what came out and what was sent. -/
structure Entry where
  operation : Operation
  answer : Except RemoteError Answer
  sent : List Request

/-- Two entries say the same, but for what their API requests show of the credentials of the
    principal. -/
structure Entry.Agrees (config other : Config) (entry entry' : Entry) : Prop where
  operation : entry'.operation = entry.operation
  answer : entry'.answer = entry.answer
  sent : entry.operation.route.Agrees (SignedBy config other entry.operation.principal)
    entry.sent entry'.sent

namespace Access

/-- Carries out an operation and takes it down. -/
def step (access : Access) (operation : Operation) : Entry × Access :=
  let (answer, after) := (operation.perform provider).outcome access
  (⟨operation, answer, after.network.sent.drop access.network.sent.length⟩, after)

/-- Carries out operations one after another, each of which is asked for in view of the answers to
    those before it. -/
def run (access : Access) (answers : List (Except RemoteError Answer)) :
    List (List (Except RemoteError Answer) → Operation) → List Entry × Access
  | [] => ([], access)
  | ask :: rest =>
    let (entry, access) := access.step (ask answers)
    let (entries, access) := access.run (answers ++ [entry.answer]) rest
    (entry :: entries, access)

end Access

/-- One step keeps the two sides in accord, and records what each has sent. -/
theorem step_agrees (h : config.Confines other)
    (twins : Twins config other Abreast access access') (operation : Operation) :
    (access.step operation).1.Agrees config other (access'.step operation).1 ∧
      Twins config other Abreast (access.step operation).2 (access'.step operation).2 ∧
      (access.step operation).2.network.sent =
        access.network.sent ++ (access.step operation).1.sent ∧
      (access'.step operation).2.network.sent =
        access'.network.sent ++ (access'.step operation).1.sent := by
  obtain ⟨answer, after, requests, requests', sent, sent', agree⟩ := operation.accord h twins
  refine ⟨⟨rfl, answer, ?_⟩, after, ?_, ?_⟩ <;> simp only [Access.step]
  · rw [sent, sent', List.drop_left, List.drop_left]
    exact agree
  · rw [sent, List.drop_left]
  · rw [sent', List.drop_left]

/-- Two runs agree, by induction on what is asked. -/
theorem run_agrees (h : config.Confines other)
    (asks : List (List (Except RemoteError Answer) → Operation))
    (answers : List (Except RemoteError Answer))
    (twins : Twins config other Abreast access access') :
    List.Forall₂ (Entry.Agrees config other) (access.run answers asks).1
        (access'.run answers asks).1 ∧
      (access.run answers asks).2.network.sent =
        access.network.sent ++ (access.run answers asks).1.flatMap (·.sent) ∧
      (access'.run answers asks).2.network.sent =
        access'.network.sent ++ (access'.run answers asks).1.flatMap (·.sent) := by
  induction asks generalizing answers access access' with
  | nil => exact ⟨.nil, (List.append_nil _).symm, (List.append_nil _).symm⟩
  | cons ask rest ih =>
    obtain ⟨agrees, after, sent, sent'⟩ := step_agrees h twins (ask answers)
    obtain ⟨all, all_sent, all_sent'⟩ := ih
      (answers ++ [(access.step (ask answers)).1.answer]) after
    simp only [Access.run, List.flatMap_cons, ← List.append_assoc]
    -- The users go on in the same way, since they have seen the same answers.
    rw [agrees.answer, ← sent, ← sent']
    exact ⟨.cons agrees all, all_sent, all_sent'⟩

/-- Two configurations of a service that differ in their credentials have the same answers to
    whatever is asked.  The same requests are sent, in the same order; those that go to links are
    equal, and those that go to the API differ in one header at most, which shows the credentials
    that the configuration has for the principal of the operation. -/
theorem credentials_confined (h : config.Confines other) (network : Network)
    (asks : List (List (Except RemoteError Answer) → Operation)) :
    let run := Access.run ⟨.ofConfig config, network⟩ [] asks
    let run' := Access.run ⟨.ofConfig other, network⟩ [] asks
    List.Forall₂ (Entry.Agrees config other) run.1 run'.1 ∧
      run.2.network.sent = network.sent ++ run.1.flatMap (·.sent) ∧
      run'.2.network.sent = network.sent ++ run'.1.flatMap (·.sent) := by
  have start : Twins config other Abreast ⟨.ofConfig config, network⟩ ⟨.ofConfig other, network⟩ :=
    ⟨⟨[], Pool.ofConfig_eq config, Pool.ofConfig_eq other⟩, rfl, rfl⟩
  exact run_agrees h asks [] start

/-- An upload shows credentials in its first request only. -/
theorem credentials_confined_upload :
    let config : Config := { Config.ofUrl "http://lfs.test" with anonymous := .bearer "t" }
    let other : Config :=
      { config with anonymous := .anonymous, users := .insert .empty "ada" (.basic "ada" "pw") }
    let batch := Bytes.ofString <|
      "\x7b\"objects\":[\x7b\"oid\":\"ab\",\"size\":2,\"actions\":\x7b\"upload\":" ++
      "\x7b\"href\":\"http://cdn.test/ab\"\x7d\x7d\x7d]\x7d"
    let network : Network := ⟨true, [⟨200, [batch], .whole⟩, ⟨200, [], .whole⟩], []⟩
    let asks : List (List (Except RemoteError Answer) → Operation) :=
      [fun _ => .putObject (.user "ada") (.ok [1, 2]) "ab" 2]
    let run := Access.run ⟨.ofConfig config, network⟩ [] asks
    let run' := Access.run ⟨.ofConfig other, network⟩ [] asks
    let shown (request : Request) := request.headers.filter (·.name == "authorization")
    config.Confines other ∧ List.Forall₂ (Entry.Agrees config other) run.1 run'.1 ∧
      run.2.network.sent.map shown = [[⟨"authorization", "Bearer t"⟩], []] ∧
      run'.2.network.sent.map shown = [[⟨"authorization", "Basic YWRhOnB3"⟩], []] := by
  intro config other batch network asks run run' shown
  have confines : config.Confines other :=
    { same := ⟨rfl, rfl, rfl, rfl⟩
      noUser := by decide +kernel
      legal := Config.isLegal_credentialsFor (by decide +kernel) (by decide +kernel)
      legal' := Config.isLegal_credentialsFor (by decide +kernel) (by decide +kernel) }
  exact ⟨confines, (credentials_confined confines network asks).1, by decide +kernel,
    by decide +kernel⟩

end LargeFiles.Remote
