import LargeFiles.Proofs.Remote.Answer
import LargeFiles.Remote.Transfer

/-!
# Connections of two configurations

Two configurations of one service that differ in their credentials.  Their pools open the same
connections for a principal but for the credentials of the connection, so what is done with the
one is done alike with the other, over networks on which the same is to come.

* `Pool.connection_keeping`     what a pool hands out;
* `matches_client_bind`         going on with the connection of a principal;
* `matches_postBatch_reached`   one call of the API;
* `matches_uploadItems`         the uploads that were negotiated.
-/

namespace LargeFiles

open Http (Network Request Url)

/-- Two configurations that differ in their credentials at most. -/
structure Config.SameService (config other : Config) : Prop where
  url : other.url = config.url
  timeoutSecs : other.timeoutSecs = config.timeoutSecs
  userAgent : other.userAgent = config.userAgent
  spillThreshold : other.spillThreshold = config.spillThreshold

/-- Two configurations of a service whose address names no user, with credentials that can be
    shown. -/
structure Config.Confines (config other : Config) : Prop where
  same : config.SameService other
  noUser : Url.NamesNoUser config.url
  legal : ∀ who, (config.credentialsFor who).IsLegal
  legal' : ∀ who, (other.credentialsFor who).IsLegal

namespace Remote

/-! ### Pools -/

/-- The connection that a pool opens for a principal. -/
def connectionOf (config : Config) (who : Principal) : Connection :=
  ⟨Endpoint.withoutSlashes config.url, config.credentialsFor who, config.userAgent,
    config.spillThreshold⟩

/-- A pool that keeps the connections of some principals. -/
def Pool.keeping (config : Config) (names : List Principal) : Pool :=
  ⟨config, names.map fun who => (who, connectionOf config who)⟩

theorem Pool.ofConfig_eq (config : Config) : ofConfig config = keeping config [] := rfl

/-- Those who are kept have the connection that is configured for them. -/
theorem Pool.lookup_keeping (config : Config) (names : List Principal) (who : Principal) :
    (keeping config names).kept.lookup who =
      if who ∈ names then some (connectionOf config who) else none := by
  induction names with
  | nil => rfl
  | cons name names ih =>
    have next : (keeping config (name :: names)).kept =
        (name, connectionOf config name) :: (keeping config names).kept := rfl
    rw [next, List.lookup_cons, ih]
    -- A connection depends on nothing but the configuration and the name.
    by_cases same : who = name
    · subst same
      simp
    · simp [beq_eq_false_iff_ne.2 same, same]

/-- What a pool hands out is the connection of the principal, which it keeps from then on, unless
    the user agent makes every connection fail. -/
theorem Pool.connection_keeping (config : Config) (names : List Principal) (who : Principal) :
    (keeping config names).connection who =
      if who ∈ names then (.ok (connectionOf config who), keeping config names)
      else if Http.Header.isLegalValue config.userAgent then
        (.ok (connectionOf config who), keeping config (names ++ [who]))
      else (.error (.http config.url), keeping config names) := by
  rw [connection, lookup_keeping]
  by_cases known : who ∈ names
  · rw [if_pos known, if_pos known]
  · rw [if_neg known, if_neg known]
    by_cases legal : Http.Header.isLegalValue config.userAgent = true
    · simp [keeping, Connection.open?, legal, connectionOf]
    · simp [keeping, Connection.open?, legal]

/-- Whoever is forgotten is not kept. -/
theorem Pool.forget_keeping (config : Config) (names : List Principal) (who : Principal) :
    (keeping config names).forget who = keeping config (names.filter (· != who)) := by
  rw [forget, keeping, List.filter_map]
  rfl

/-! ### Two ways of access -/

/-- Two ways of access, whose pools keep the connections of the same principals. -/
structure Twins (config other : Config) (rel : Network → Network → Prop)
    (access access' : Access) : Prop where
  pools : ∃ names, access.pool = .keeping config names ∧ access'.pool = .keeping other names
  networks : rel access.network access'.network

variable {config other : Config} {rel : Network → Network → Prop} {α : Type}

/-- What the networks match in is matched by the ways of access. -/
theorem Twins.matches_onPart {s t : Session Network RemoteError α} (h : s.Matches t rel) :
    (s.onPart Access.network fun access network => { access with network }).Matches
      (t.onPart Access.network fun access network => { access with network })
      (Twins config other rel) :=
  h.onPart (fun _ _ twins => twins.networks) fun _ _ _ _ twins related => ⟨twins.pools, related⟩

/-- Connections that mirror each other do so through their networks. -/
theorem Client.Mirrors.reached {c c' : Connection}
    (h : c.client.Mirrors c'.client rel) :
    c.reached.Mirrors c'.reached (Twins config other rel) where
  lock path ref := Twins.matches_onPart (h.lock path ref)
  unlock id force ref := Twins.matches_onPart (h.unlock id force ref)
  listLocks path id ref := Twins.matches_onPart (h.listLocks path id ref)
  verifyLocks ref := Twins.matches_onPart (h.verifyLocks ref)

/-- The client that is handed out is that of the principal's connection. -/
theorem outcome_client {access : Access} {names : List Principal}
    (pool : access.pool = .keeping config names) (who : Principal) :
    (Access.provider.client who).outcome access =
      if who ∈ names then (.ok (connectionOf config who).reached, access)
      else if Http.Header.isLegalValue config.userAgent then
        (.ok (connectionOf config who).reached,
          { access with pool := .keeping config (names ++ [who]) })
      else (.error (.http config.url), access) := by
  obtain ⟨_, network⟩ := access
  obtain rfl := pool
  rw [Access.outcome_client, Pool.connection_keeping]
  split
  · rfl
  · split <;> rfl

/-- Both configurations hand out the connection of a principal, or neither does. -/
theorem client_cases (same : config.SameService other) (who : Principal) {access access' : Access}
    (twins : Twins config other rel access access') :
    (∃ error, (Access.provider.client who).outcome access = (.error error, access) ∧
      (Access.provider.client who).outcome access' = (.error error, access')) ∨
    ∃ pool pool', Twins config other rel { access with pool } { access' with pool := pool' } ∧
      (Access.provider.client who).outcome access =
        (.ok (connectionOf config who).reached, { access with pool }) ∧
      (Access.provider.client who).outcome access' =
        (.ok (connectionOf other who).reached, { access' with pool := pool' }) := by
  obtain ⟨⟨names, pool, pool'⟩, networks⟩ := twins
  rw [outcome_client pool, outcome_client pool', same.userAgent, same.url]
  -- The same names are kept, and the user agent, which makes a new connection fail, is the same.
  by_cases known : who ∈ names
  · rw [if_pos known, if_pos known]
    exact .inr ⟨access.pool, access'.pool, ⟨⟨names, pool, pool'⟩, networks⟩, rfl, rfl⟩
  · rw [if_neg known, if_neg known]
    by_cases legal : Http.Header.isLegalValue config.userAgent = true
    · rw [if_pos legal, if_pos legal]
      exact .inr ⟨_, _, ⟨⟨names ++ [who], rfl, rfl⟩, networks⟩, rfl, rfl⟩
    · rw [if_neg legal, if_neg legal]
      exact .inl ⟨_, rfl, rfl⟩

/-- Two sessions that go on with the connection of a principal. -/
theorem matches_client_bind (same : config.SameService other) (who : Principal)
    {f g : Client Access → Session Access RemoteError α}
    (h : (f (connectionOf config who).reached).Matches (g (connectionOf other who).reached)
      (Twins config other rel)) :
    (Access.provider.client who >>= f).Matches (Access.provider.client who >>= g)
      (Twins config other rel) := by
  intro access access' twins
  rw [Session.outcome_bind, Session.outcome_bind]
  rcases client_cases same who twins with ⟨error, fails, fails'⟩ | ⟨_, _, twins', gives, gives'⟩
  · rw [fails, fails']
    exact ⟨rfl, twins⟩
  · rw [gives, gives']
    exact h _ _ twins'

/-! ### Connections of two configurations -/

/-- Two requests of the API that are the same but for what a principal shows. -/
def SignedBy (config other : Config) (who : Principal) : Request → Request → Prop :=
  Signed config.url (config.credentialsFor who) (other.credentialsFor who)

section

variable (h : config.Confines other) (who : Principal) {before before' : List Request}

include h

/-- The connections of the two configurations differ in their credentials. -/
theorem connectionOf_other :
    connectionOf other who =
      (connectionOf config who).withCredentials (other.credentialsFor who) := by
  simp only [connectionOf, Connection.withCredentials, h.same.url, h.same.userAgent,
    h.same.spillThreshold]

/-- No address of a connection has the name of a user. -/
theorem namesNoUser_connectionOf : (connectionOf config who).NamesNoUser := by
  intro path api
  show Url.NamesNoUser (Endpoint.join (Endpoint.withoutSlashes config.url) path)
  rw [Endpoint.join_withoutSlashes]
  exact h.noUser.join api.notMem_firstPart

/-- Asking for an object does the same on both sides, signed with either credentials. -/
theorem matches_getMeta_reached (hash : String) :
    ((connectionOf config who).reached.getMeta hash).Matches
      ((connectionOf other who).reached.getMeta hash)
      (Twins config other (Sent (SignedBy config other who) before before')) := by
  apply Twins.matches_onPart
  rw [connectionOf_other h, SignedBy, ← signed_withoutSlashes]
  exact Connection.matches_getMeta (namesNoUser_connectionOf h who) (h.legal who) (h.legal' who)
    hash

/-- Posting a batch does the same on both sides, signed with either credentials. -/
theorem matches_postBatch_reached (request : Api.BatchRequest) :
    ((connectionOf config who).reached.postBatch request).Matches
      ((connectionOf other who).reached.postBatch request)
      (Twins config other (Sent (SignedBy config other who) before before')) := by
  apply Twins.matches_onPart
  rw [connectionOf_other h, SignedBy, ← signed_withoutSlashes]
  exact Connection.matches_postBatch (namesNoUser_connectionOf h who) (h.legal who)
    (h.legal' who) request

/-- Calls about locks do the same on both sides, signed with either credentials. -/
theorem mirrors_reached :
    (connectionOf config who).reached.Mirrors (connectionOf other who).reached
      (Twins config other (Sent (SignedBy config other who) before before')) := by
  apply Client.Mirrors.reached
  rw [connectionOf_other h, SignedBy, ← signed_withoutSlashes]
  exact Connection.mirrors_withCredentials (namesNoUser_connectionOf h who) (h.legal who)
    (h.legal' who)

/-- A download sends equal requests on both sides. -/
theorem matches_getObject_reached (links : Api.Links) :
    ((connectionOf config who).reached.getObject links).Matches
      ((connectionOf other who).reached.getObject links)
      (Twins config other (Sent Eq before before')) := by
  apply Twins.matches_onPart
  rw [connectionOf_other h]
  exact Connection.matches_getObject (connectionOf config who) (config.credentialsFor who) _ links

/-- Uploads of the items of a batch, one after another. -/
theorem matches_uploadItems (source : Source) (items : List Api.BatchItem) :
    (Provider.uploadItems (connectionOf config who).reached source items).Matches
      (Provider.uploadItems (connectionOf other who).reached source items)
      (Twins config other (Sent Eq before before')) := by
  induction items with
  | nil => exact .pure _
  | cons item rest ih =>
    rw [Provider.uploadItems, Provider.uploadItems]
    -- An item that is refused ends the upload on both sides.
    cases item.error with
    | some error => exact .throw _
    | none =>
      refine Session.Matches.bind ?_ fun _ => ih
      apply Twins.matches_onPart
      rw [connectionOf_other h]
      exact Connection.matches_putObject (connectionOf config who) (config.credentialsFor who) _
        source item.object item.actions

end

end Remote

end LargeFiles
