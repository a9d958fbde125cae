import LargeFiles.Proofs.Remote.Binding
import LargeFiles.Proofs.Spill

/-!
# Downloading over HTTP

A download is negotiated by a batch of one object, whose first item gives a reader.  Each time that
the reader is opened its link is asked for the content, which is delivered as a whole or not at
all: a body that breaks off is an error, however much of it has arrived and wherever it was kept.

* `Connection.gather_eq`             the pieces of a body, up to its end;
* `Connection.arrival`               what comes of a response to a request for content;
* `Connection.converses_getObject`   one opening;
* `Provider.exists_openings`         any number of them;
* `downloads_all_or_nothing`         the negotiation and the openings.
-/

namespace LargeFiles.Remote

open Http (Exchange Network Request Response)

/-! ### Bodies -/

/-- What comes of a request for content, by the response to it. -/
inductive Arrival (endpoint : String) : Option Response → Except RemoteError Bytes → Prop
  /-- The whole body is delivered. -/
  | whole {response} (succeeded : response.isSuccess = true) (whole : response.whole = true) :
      Arrival endpoint (some response) (.ok response.body.flatten)
  | brokenOff {response} (succeeded : response.isSuccess = true) (partly : response.whole = false) :
      Arrival endpoint (some response) (.error (.http endpoint))
  | refused {response} (failed : response.isSuccess = false) :
      Arrival endpoint (some response) (.error (.api endpoint response.status response.text))
  | dropped : Arrival endpoint none (.error (.http endpoint))

namespace Connection

/-- All pieces of a body are gathered, unless it breaks off after them. -/
theorem gather_eq (endpoint : String) (whole : Bool) (buffer : Spill.Buffer)
    (pieces : List Bytes) :
    gather endpoint whole buffer pieces =
      if whole then .ok (pieces.foldl Spill.Buffer.write buffer) else .error (.http endpoint) := by
  induction pieces generalizing buffer with
  | nil => rfl
  | cons piece rest ih => rw [gather, ih, List.foldl_cons]

/-- The threshold does not tell on what is delivered. -/
theorem arrival (c : Connection) (endpoint : String) (response : Option Response) :
    Arrival endpoint response (answer endpoint (c.contentOf · endpoint) response) := by
  cases response with
  | none => exact .dropped
  | some response =>
    rw [answer, contentOf, gather_eq]
    cases succeeded : response.isSuccess with
    | false => exact .refused succeeded
    | true =>
      -- The body is gathered first, so a broken one is seen before anything is delivered.
      cases whole : response.whole with
      | false => exact .brokenOff succeeded whole
      | true =>
        -- Gathered in memory or in a file, it is the body that was sent.
        have body : (response.body.foldl Spill.Buffer.write
            (.empty c.spillThreshold)).finish.drain = response.body.flatten := by
          rw [Spill.Content.drain_eq, Spill.Buffer.bytes_finish, Spill.Buffer.content_foldl_write,
            Spill.Buffer.content_empty, List.nil_append]
        have delivered : Arrival endpoint (some response) (.ok response.body.flatten) :=
          .whole succeeded whole
        rwa [← body] at delivered

end Connection

/-! ### Openings -/

/-- What is exchanged when a reader with some links is opened, and what comes of it. -/
inductive Opening (links : Api.Links) : List Exchange → Except RemoteError Bytes → Prop
  | nowhere (missing : links.download? = none) :
      Opening links [] (.error (.missingLink "download"))
  /-- There can be no request through the link. -/
  | unusable {link} (whence : links.download? = some link) (unusable : ¬ link.Usable) :
      Opening links [] (.error (.http link.href))
  | asked {link exchange result} (whence : links.download? = some link)
      (follows : exchange.request.Follows link .get [])
      (arrival : Arrival link.href exchange.response result) :
      Opening links [exchange] result

/-- A content is requested once along its link, and delivered whole or not at all. -/
theorem Connection.converses_getObject (c : Connection) (links : Api.Links) :
    (c.getObject links).Converses id (Opening links) := by
  rw [getObject]
  cases whence : links.download? with
  | none => exact .throw (.nowhere whence)
  | some link =>
    dsimp only
    -- A link that cannot be used fails before anything is sent.
    by_cases usable : link.Usable
    · obtain ⟨request, built, follows⟩ := exists_transferRequest? usable .get
      refine (c.converses_ask built link.href (c.contentOf · link.href)).imp ?_
      rintro _ _ ⟨response, rfl, rfl⟩
      exact .asked whence (follows.complete c.userAgent) (c.arrival link.href response)
    · rw [transferRequest?_eq_none usable]
      exact .throw (.unusable whence usable)

namespace Pool

/-- A connection can be opened for everybody if the user agent is a legal header. -/
theorem exists_connection {pool : Pool}
    (legal : Http.Header.isLegalValue pool.config.userAgent = true) (who : Principal) :
    ∃ c, (pool.connection who).1 = .ok c := by
  rw [connection]
  cases pool.kept.lookup who with
  | some kept => exact ⟨kept, rfl⟩
  | none =>
    rw [Connection.open?, if_pos legal]
    exact ⟨_, rfl⟩

end Pool

namespace Provider

/-- Opens a reader some times, one after another and whatever comes of it. -/
def openings {σ : Type} (provider : Provider σ) (reader : Reader) :
    Nat → σ → List (Except RemoteError Bytes) × σ
  | 0, state => ([], state)
  | n + 1, state =>
    let (result, state) := (provider.read reader).outcome state
    let (results, state) := provider.openings reader n state
    (result :: results, state)

/-- Each opening has a result. -/
theorem length_openings {σ : Type} (provider : Provider σ) (reader : Reader) (n : Nat)
    (state : σ) : (provider.openings reader n state).1.length = n := by
  induction n generalizing state with
  | zero => rfl
  | succ n ih => rw [openings, List.length_cons, ih]

/-- One opening, which leaves the pool as it can be used again. -/
theorem exists_opening {access : Access} (reachable : access.network.reachable = true)
    (legal : Http.Header.isLegalValue access.pool.config.userAgent = true) (reader : Reader) :
    let outcome := (Access.provider.read reader).outcome access
    outcome.2.pool.config = access.pool.config ∧
      ∃ log, access.network.Exchanges log outcome.2.network ∧
        Opening reader.links log outcome.1 := by
  obtain ⟨c, opened⟩ := Pool.exists_connection legal .anonymous
  have read : Access.provider.read reader =
      Access.provider.client .anonymous >>= fun client => client.getObject reader.links := rfl
  rw [read, Access.outcome_client_bind_of_ok opened]
  have single : (c.reached.getObject reader.links).Converses Access.network
      (Opening reader.links) :=
    (c.converses_getObject reader.links).onPart fun _ _ => rfl
  exact ⟨access.pool.config_connection .anonymous,
    single { access with pool := (access.pool.connection .anonymous).2 } reachable⟩

/-- Every opening makes exchanges of its own. -/
theorem exists_openings {access : Access} (reachable : access.network.reachable = true)
    (legal : Http.Header.isLegalValue access.pool.config.userAgent = true) (reader : Reader)
    (n : Nat) :
    let outcome := Access.provider.openings reader n access
    ∃ logs : List (List Exchange), access.network.Exchanges logs.flatten outcome.2.network ∧
      List.Forall₂ (Opening reader.links) logs outcome.1 := by
  -- Each time the reader is opened, the rest of the replies are to come.
  induction n generalizing access with
  | zero => exact ⟨[], .nil _, .nil⟩
  | succ n ih =>
    obtain ⟨config, log, made, opening⟩ := exists_opening reachable legal reader
    obtain ⟨logs, others, openings⟩ :=
      ih (made.reachable.trans reachable) (by rw [config]; exact legal)
    exact ⟨log :: logs, made.append others, .cons opening openings⟩

end Provider

/-! ### The whole download -/

/-- A name without the scheme is no object of the service, and nothing is sent.  With it, one batch
    asks for the object, and the first item of the answer gives the reader unless it carries an
    error.  Whenever a reader is opened, one request goes to its link, whatever came of the openings
    before, and the whole body is delivered or an error tells that there is none. -/
theorem downloads_all_or_nothing {access : Access} (reachable : access.network.reachable = true)
    (legal : Http.Header.isLegalValue access.pool.config.userAgent = true) (who : Principal) :
    (∀ oid, (∀ hash, oid ≠ Pointer.scheme ++ hash) →
      (Access.provider.getReader oid who).outcome access = (.ok none, access)) ∧
    (∀ hash, ∃ c log, (access.pool.connection who).1 = .ok c ∧
      let outcome := (Access.provider.getReader (Pointer.scheme ++ hash) who).outcome access
      access.network.Exchanges log outcome.2.network ∧ c.Negotiation hash log outcome.1) ∧
    ∀ reader n,
      let outcome := Access.provider.openings reader n access
      outcome.1.length = n ∧ ∃ logs : List (List Exchange),
        access.network.Exchanges logs.flatten outcome.2.network ∧
        List.Forall₂ (Opening reader.links) logs outcome.1 := by
  refine ⟨fun oid other => ?_, fun hash => ?_, fun reader n => ?_⟩
  -- What has not the form of an identifier is not asked for.
  · have unnamed : Pointer.hashOfOid? oid = none :=
      Option.eq_none_iff_forall_ne_some.2 fun hash named =>
        other hash (Pointer.hashOfOid?_eq_some_iff.1 named)
    rw [Provider.getReader, unnamed]
    rfl
  -- With a legal user agent there is a connection for everyone.
  · obtain ⟨c, opened⟩ := Pool.exists_connection legal who
    rw [Provider.getReader_scheme, Access.outcome_client_bind_of_ok opened]
    obtain ⟨log, exchanges, negotiation⟩ := c.converses_negotiation hash
      { access with pool := (access.pool.connection who).2 } reachable
    exact ⟨c, log, opened, exchanges, negotiation⟩
  · exact ⟨Access.provider.length_openings reader n access,
      Provider.exists_openings reachable legal reader n⟩

/-- Three bytes that arrive in pieces, of which one fits in memory.  When the reader is opened again
    two of them arrive before the connection breaks off. -/
theorem downloads_all_or_nothing_brokenOff :
    let batch := Bytes.ofString <|
      "\x7b\"objects\":[\x7b\"oid\":\"ab\",\"size\":3,\"actions\":\x7b\"download\":\x7b" ++
      "\"href\":\"http://cdn.test/ab\"\x7d\x7d\x7d]\x7d"
    let ask := Bytes.ofString <|
      "\x7b\"operation\":\"download\",\"transfers\":[\"basic\"]," ++
      "\"objects\":[\x7b\"oid\":\"ab\",\"size\":0\x7d]\x7d"
    let config := { Config.ofUrl "http://lfs.test" with spillThreshold := 1 }
    let access : Access := ⟨.ofConfig config, true, [⟨200, [batch], .whole⟩,
      ⟨200, [[1], [], [2, 3]], .whole⟩, ⟨200, [[1], [2]], .cutOff⟩], []⟩
    let reader : Reader :=
      ⟨⟨"ab", 3⟩, Api.Links.none.insert "download" (.plain "http://cdn.test/ab")⟩
    let fetched := (Access.provider.getReader "sha256:ab" .anonymous).outcome access
    let opened := Access.provider.openings reader 2 fetched.2
    (∃ c log, (access.pool.connection .anonymous).1 = .ok c ∧
      access.network.Exchanges log fetched.2.network ∧ c.Negotiation "ab" log fetched.1) ∧
    fetched.1 = .ok (some reader) ∧
    fetched.2.network.sent.map (fun request => (request.url.path, request.body)) =
      [(["objects", "batch"], ask)] ∧
    (∃ logs : List (List Exchange), fetched.2.network.Exchanges logs.flatten opened.2.network ∧
      List.Forall₂ (Opening reader.links) logs opened.1) ∧
    opened.1 = [.ok [1, 2, 3], .error (.http "http://cdn.test/ab")] := by
  intro batch ask config access reader fetched opened
  have negotiated := downloads_all_or_nothing (rfl : access.network.reachable = true)
    (by decide +kernel) .anonymous
  have read := downloads_all_or_nothing (by decide +kernel : fetched.2.network.reachable = true)
    (by decide +kernel) .anonymous
  exact ⟨negotiated.2.1 "ab", by decide +kernel, by decide +kernel, (read.2.2 reader 2).2,
    by decide +kernel⟩

end LargeFiles.Remote
