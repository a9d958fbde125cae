import LargeFiles.Proofs.Remote.Answer

/-!
# Listing page by page

A listing asks for one page after another, as long as the last page names a cursor.  How many
pages there are is up to the service; `Leads` says of the responses to come which pages they are,
and whatever they are, they lead to an end.

* `exists_leads`                             whatever a service says leads to an end;
* `Paging.outcome_pagesFrom`                 what is asked for and what comes of it;
* `Connection.listFrom_eq`, `verifyFrom_eq`  the listings of the API put such pages together;
* `listings_exact`                           what these listings ask for and what they give;
* `listings_end`                             every listing ends.
-/

namespace LargeFiles.Remote

open Connection (following)
open Http (Exchange Network Request Response Url)

variable {π β : Type}

/-! ### Responses -/

/-- A response that succeeds was scripted. -/
theorem lt_of_success? {read : Json → Option π} {network : Network} {n : Nat} {page : π}
    (arrived : success? read (network.response n) = some page) : n < network.replies.length := by
  by_contra late
  have silent : success? read (Network.receive .exhausted) = none := rfl
  rw [Network.response, List.getD_eq_getElem?_getD, List.getElem?_eq_none (by omega),
    Option.getD_none, silent] at arrived
  cases arrived

/-- The responses to come are some pages that each name a cursor, and then a page that names none
    or no page at all. -/
structure Leads (read : Json → Option π) (cursor : π → Option String) (network : Network)
    (pages : List π) : Prop where
  earlier : ∀ n page, pages[n]? = some page →
    success? read (network.response n) = some page ∧ (following (cursor page)).isSome = true
  ends : ∀ last, success? read (network.response pages.length) = some last →
    following (cursor last) = none

section

variable {read : Json → Option π} {cursor : π → Option String} {network after : Network}

namespace Leads

variable {page : π} {pages : List π}

/-- No page leads further if the first one has no cursor to follow. -/
theorem nil (h : ∀ last, success? read (network.response 0) = some last →
    following (cursor last) = none) : Leads read cursor network [] where
  earlier n page found := by simp at found
  ends := h

/-- A page with a cursor leads to the pages after it. -/
theorem cons (h : Leads read cursor after pages)
    (came : success? read (network.response 0) = some page)
    (named : (following (cursor page)).isSome = true)
    (later : ∀ n, after.response n = network.response (n + 1)) :
    Leads read cursor network (page :: pages) where
  -- The first response is the page, and the others are those that follow it.
  earlier n other found := by
    cases n with
    | zero =>
      cases found
      exact ⟨came, named⟩
    | succ n =>
      rw [← later]
      exact h.earlier n other found
  ends last ended := by
    rw [List.length_cons, ← later] at ended
    exact h.ends last ended

/-- The next response is the first page. -/
theorem head (h : Leads read cursor network (page :: pages)) :
    success? read (network.response 0) = some page ∧
      ∃ next, cursor page = some next ∧ following (cursor page) = some next := by
  obtain ⟨came, named⟩ := h.earlier 0 page rfl
  obtain ⟨next, follows⟩ := Option.isSome_iff_exists.1 named
  exact ⟨came, next, (Option.filter_eq_some_iff.1 follows).1, follows⟩

/-- After one response the pages but the first are to come. -/
theorem tail (h : Leads read cursor network (page :: pages)) {exchange : Exchange}
    (made : network.Exchanges [exchange] after) : Leads read cursor after pages where
  earlier n other found := by
    rw [made.response_eq, List.length_singleton, Nat.add_comm]
    exact h.earlier (n + 1) other found
  ends last came := by
    rw [made.response_eq, List.length_singleton, Nat.add_comm] at came
    exact h.ends last came

end Leads

/-- Whatever is to come leads to an end, since only a reply that was scripted can be a page and a
    script has an end. -/
theorem exists_leads (read : Json → Option π) (cursor : π → Option String) (network : Network) :
    ∃ pages, Leads read cursor network pages := by
  obtain ⟨reachable, replies, sent⟩ := network
  -- Beyond the script nothing succeeds, so there is an end to the pages.
  induction replies with
  | nil => exact ⟨[], .nil fun _ came => absurd (lt_of_success? came) (Nat.lt_irrefl 0)⟩
  | cons reply rest ih =>
    -- The pages go on for as long as the responses are pages that name a cursor.
    by_cases more : ∃ page, success? read (Network.receive reply) = some page ∧
        (following (cursor page)).isSome = true
    · obtain ⟨page, came, named⟩ := more
      obtain ⟨pages, later⟩ := ih
      exact ⟨page :: pages, later.cons came named fun _ => rfl⟩
    · refine ⟨[], .nil fun last came => ?_⟩
      rw [← Option.not_isSome_iff_eq_none]
      exact fun named => more ⟨last, came, named⟩

/-- What comes of asking for some pages and for one that follows them: there is one request for
    each, which names the cursor of the page before, and the pages are put together unless the
    last response is no page. -/
structure Listed (read : Json → Option π) (cursor : π → Option String)
    (asks : Option String → Request → Prop) (start : Option String) (together : List π → β)
    (network : Network) (pages : List π) (outcome : Except RemoteError β × Network) : Prop where
  asked : ∃ log, network.Exchanges log outcome.2 ∧
    List.Forall₂ asks (start :: pages.map cursor) (log.map (·.request))
  given : ∀ last, success? read (network.response pages.length) = some last →
    outcome.1 = .ok (together (pages ++ [last]))
  failed : success? read (network.response pages.length) = none →
    ∃ error, outcome.1 = .error error

namespace Listed

variable {γ : Type} {asks : Option String → Request → Prop} {start : Option String}
  {together : List π → β} {pages : List π} {outcome : Except RemoteError β × Network}

/-- The pages after one that was asked for before. -/
theorem cons {page : π} {exchange : Exchange} {next : String}
    (h : Listed read cursor asks (some next) (fun pages => together (page :: pages)) after pages
      outcome) (made : network.Exchanges [exchange] after) (first : asks start exchange.request)
    (named : cursor page = some next) :
    Listed read cursor asks start together network (page :: pages) outcome where
  asked := by
    -- The next page is asked for at the cursor that this one names.
    obtain ⟨log, made', asked⟩ := h.asked
    rw [← named] at asked
    exact ⟨_, made.append made', .cons first asked⟩
  given last came := by
    apply h.given
    rwa [made.response_eq, List.length_singleton, Nat.add_comm]
  failed none := by
    apply h.failed
    rwa [made.response_eq, List.length_singleton, Nat.add_comm]

/-- What is put together from the pages may be changed afterwards. -/
theorem map (h : Listed read cursor asks start together network pages outcome) (f : β → γ) :
    Listed read cursor asks start (f ∘ together) network pages (outcome.1.map f, outcome.2) where
  asked := h.asked
  given last came := by
    rw [h.given last came]
    rfl
  failed none := by
    obtain ⟨error, failed⟩ := h.failed none
    rw [failed]
    exact ⟨error, rfl⟩

end Listed

end

/-! ### Pages -/

/-- How something is asked for page by page. -/
structure Paging (π : Type) where
  endpoint : String
  /-- The request for the page at a cursor. -/
  request? : Option String → Option Request
  read : Json → Option π
  /-- The cursor that a page names. -/
  cursor : π → Option String

namespace Paging

variable {paging : Paging π} {c : Connection}

/-- The page at a cursor. -/
def pageAt (paging : Paging π) (c : Connection) (cursor : Option String) :
    Session Network RemoteError π := do
  let response ← c.send (paging.request? cursor) paging.endpoint
  .ofExcept (Connection.successMessage paging.read response paging.endpoint)

/-- The pages from the one at a cursor on, of which there may be at most `fuel`. -/
def pagesFrom (paging : Paging π) (c : Connection) :
    (fuel : Nat) → (cursor : Option String) → Session Network RemoteError (List π)
  | 0, _ => throw (.http paging.endpoint)
  | fuel + 1, cursor => do
    let page ← paging.pageAt c cursor
    match following (paging.cursor page) with
    | some next => return page :: (← paging.pagesFrom c fuel (some next))
    | none => return [page]

/-- One page takes one request, and is what the next response carries. -/
theorem outcome_pageAt {cursor : Option String} {request : Request}
    (built : paging.request? cursor = some request) {network : Network}
    (reachable : network.reachable = true) :
    let outcome := (paging.pageAt c cursor).outcome network
    network.Exchanges [⟨request.complete c.userAgent, network.response 0⟩] outcome.2 ∧
      outcome.1 = answer paging.endpoint
        (Connection.successMessage paging.read · paging.endpoint) (network.response 0) := by
  obtain ⟨_, made, response, rfl, came⟩ := c.converses_ask built paging.endpoint
    (Connection.successMessage paging.read · paging.endpoint) network reachable
  obtain rfl : response = network.response 0 := made.answered 0 _ rfl
  exact ⟨made, came⟩

/-- What comes of the pages from one on, told by what comes of this one. -/
theorem outcome_pagesFrom_succ (fuel : Nat) (cursor : Option String) (network : Network) :
    (paging.pagesFrom c (fuel + 1) cursor).outcome network =
      match (paging.pageAt c cursor).outcome network with
      | (.error error, after) => (.error error, after)
      | (.ok page, after) =>
        match following (paging.cursor page) with
        | none => (.ok [page], after)
        | some next =>
          let rest := (paging.pagesFrom c fuel (some next)).outcome after
          (rest.1.map (page :: ·), rest.2) := by
  rw [pagesFrom, Session.outcome_bind]
  rcases (paging.pageAt c cursor).outcome network with ⟨error | page, after⟩
  · rfl
  · dsimp only
    cases following (paging.cursor page) with
    | none => rfl
    | some next =>
      dsimp only
      -- The page is put in front of those that come after it.
      rw [← Session.outcome_map, map_eq_pure_bind]

/-- The pages are asked for one after another. -/
theorem listed_pagesFrom (paging : Paging π) {asks : Option String → Request → Prop}
    (built : ∀ cursor, ∃ request, paging.request? cursor = some request ∧
      asks cursor (request.complete c.userAgent))
    {network : Network} (reachable : network.reachable = true) {pages : List π}
    (leads : Leads paging.read paging.cursor network pages) {fuel : Nat}
    (enough : network.replies.length < fuel) (cursor : Option String) :
    Listed paging.read paging.cursor asks cursor id network pages
      ((paging.pagesFrom c fuel cursor).outcome network) := by
  -- Each round takes one reply from the script, so that there is fuel for all of them.
  induction fuel generalizing network pages cursor with
  | zero => omega
  | succ fuel ih =>
    obtain ⟨request, named, asked⟩ := built cursor
    obtain ⟨made, came⟩ := outcome_pageAt (c := c) named reachable
    rw [outcome_pagesFrom_succ]
    revert made came
    rcases (paging.pageAt c cursor).outcome network with ⟨error | page, after⟩ <;>
      intro made came
    -- The response is no page, so no pages are to come.
    · have none := (answer_successMessage_eq_error_iff _).1 ⟨error, came.symm⟩
      cases pages with
      | nil =>
        exact {
          asked := ⟨_, made, .cons asked .nil⟩
          given := fun last some => by cases none.symm.trans some
          failed := fun _ => ⟨error, rfl⟩ }
      | cons page pages => cases none.symm.trans leads.head.1
    · have some := (answer_successMessage_eq_ok_iff _).1 came.symm
      dsimp only
      cases pages with
      | nil =>
        rw [leads.ends page some]
        exact {
          asked := ⟨_, made, .cons asked .nil⟩
          given := fun last came => by
            cases some.symm.trans came
            rfl
          failed := fun none => by cases none.symm.trans some }
      | cons first pages =>
        obtain ⟨came_first, next, names, follows⟩ := leads.head
        obtain rfl : page = first := Option.some.inj (some.symm.trans came_first)
        -- A response that succeeds was scripted, so there is fuel left for the others.
        have left : after.replies.length < fuel := by
          have scripted := lt_of_success? some
          rw [made.replies, List.length_drop, List.length_singleton]
          omega
        have rest := ih (made.reachable.trans reachable) (leads.tail made) left (.some next)
        rw [follows]
        exact (rest.map (page :: ·)).cons made asked names

end Paging

/-! ### The listings of the API -/

namespace Connection

/-- A parameter of a query, if it is given. -/
def parameter (name : String) (value : Option String) : List (String × String) :=
  value.toList.map fun v => (name, v)

/-- A request asks for the page at a cursor of the locks with the given path and id. -/
def AsksLocks (c : Connection) (path id : Option String) (ref : Option Api.Ref)
    (cursor : Option String) (request : Request) : Prop :=
  ∃ url, Url.parse? (c.address Endpoint.locks) = some url ∧
    request.Asks .get (url.withQuery (parameter "path" path ++ parameter "id" id ++
      parameter "refspec" (ref.map (·.name)) ++ parameter "cursor" cursor)) []

/-- A request asks for the page at a cursor of the locks that are told apart by their owners. -/
def AsksVerified (c : Connection) (ref : Option Api.Ref) (cursor : Option String) :
    Request → Prop :=
  c.Posts Endpoint.locksVerify (Api.VerifyRequest.toJson ⟨ref, cursor⟩)

/-- How locks are listed. -/
def listing (c : Connection) (path id : Option String) (ref : Option Api.Ref) :
    Paging Api.LockPage where
  endpoint := c.address Endpoint.locks
  request? := c.listRequest? path id ref
  read := Api.LockPage.ofJson?
  cursor := (·.nextCursor)

/-- How locks are told apart. -/
def verification (c : Connection) (ref : Option Api.Ref) : Paging Api.VerifyPage where
  endpoint := c.address Endpoint.locksVerify
  request? cursor := c.apiMessage? Endpoint.locksVerify (Api.VerifyRequest.toJson ⟨ref, cursor⟩)
  read := Api.VerifyPage.ofJson?
  cursor := (·.nextCursor)

/-- All locks of some pages. -/
def joinLocks (pages : List Api.LockPage) : List Api.Lock := pages.flatMap (·.locks)

/-- One page with all locks of some pages. -/
def joinVerified (pages : List Api.VerifyPage) : Api.VerifyPage :=
  ⟨pages.flatMap (·.ours), pages.flatMap (·.theirs), none⟩

/-- A listing puts the pages together. -/
theorem listFrom_eq (c : Connection) (path id : Option String) (ref : Option Api.Ref)
    (fuel : Nat) (cursor : Option String) :
    c.listFrom path id ref fuel cursor =
      joinLocks <$> (c.listing path id ref).pagesFrom c fuel cursor := by
  induction fuel generalizing cursor with
  | zero => rfl
  | succ fuel ih =>
    -- Both ask for the page in the same way, and then look at its cursor.
    simp only [listFrom, Paging.pagesFrom, Paging.pageAt, listing, bind_assoc, map_bind]
    congr 1
    funext response
    congr 1
    funext page
    cases following page.nextCursor with
    | none => simp [joinLocks]
    | some next => simp [ih, joinLocks, listing]

/-- Locks that are told apart are read page by page and joined. -/
theorem verifyFrom_eq (c : Connection) (ref : Option Api.Ref) (fuel : Nat)
    (cursor : Option String) :
    c.verifyFrom ref fuel cursor =
      joinVerified <$> (c.verification ref).pagesFrom c fuel cursor := by
  induction fuel generalizing cursor with
  | zero => rfl
  | succ fuel ih =>
    simp only [verifyFrom, Paging.pagesFrom, Paging.pageAt, verification, bind_assoc, map_bind]
    congr 1
    funext response
    congr 1
    funext page
    cases following page.nextCursor with
    | none => simp [joinVerified]
    | some next => simp [ih, joinVerified, verification]

/-- There are no more pages than replies. -/
theorem outcome_pageLimit (network : Network) :
    pageLimit.outcome network = (.ok (network.replies.length + 1), network) := rfl

/-- A listing is read from the first page, with fuel for all replies. -/
theorem outcome_listLocks (c : Connection) (path id : Option String) (ref : Option Api.Ref)
    (network : Network) :
    (c.listLocks path id ref).outcome network =
      (c.listFrom path id ref (network.replies.length + 1) none).outcome network := by
  rw [listLocks, Session.outcome_bind, outcome_pageLimit]

/-- Locks are told apart from the first page on, with fuel for all replies. -/
theorem outcome_verifyLocks (c : Connection) (ref : Option Api.Ref) (network : Network) :
    (c.verifyLocks ref).outcome network =
      (c.verifyFrom ref (network.replies.length + 1) none).outcome network := by
  rw [verifyLocks, Session.outcome_bind, outcome_pageLimit]

variable {c : Connection}

/-- The request for a page is built, and it asks for that page. -/
theorem exists_listRequest? (builds : c.Builds) (path id : Option String) (ref : Option Api.Ref)
    (cursor : Option String) :
    ∃ request, c.listRequest? path id ref cursor = some request ∧
      c.AsksLocks path id ref cursor (request.complete c.userAgent) := by
  obtain ⟨start, url, built, read, asks⟩ := exists_apiRequest? builds .get .locks
  refine ⟨_, ?_, url, read, (asks.withQuery _).complete c.userAgent⟩
  rw [listRequest?, built, Option.bind_eq_bind, Option.bind_some]
  rfl

/-- A listing asks for the pages that are to come, and gives their locks. -/
theorem listed_listLocks (builds : c.Builds) {network : Network}
    (reachable : network.reachable = true) (path id : Option String) (ref : Option Api.Ref)
    {pages : List Api.LockPage} (leads : Leads Api.LockPage.ofJson? (·.nextCursor) network pages) :
    Listed Api.LockPage.ofJson? (·.nextCursor) (c.AsksLocks path id ref) none joinLocks network
      pages ((c.listLocks path id ref).outcome network) := by
  -- The limit on the number of pages is out of reach, since each page takes a reply.
  have enough : network.replies.length < network.replies.length + 1 := Nat.lt_succ_self _
  have listed := ((c.listing path id ref).listed_pagesFrom
    (exists_listRequest? builds path id ref) reachable leads enough none).map joinLocks
  rw [outcome_listLocks, listFrom_eq, Session.outcome_map]
  exact listed

/-- So does one that tells the caller's locks from those of others. -/
theorem listed_verifyLocks (builds : c.Builds) {network : Network}
    (reachable : network.reachable = true) (ref : Option Api.Ref) {pages : List Api.VerifyPage}
    (leads : Leads Api.VerifyPage.ofJson? (·.nextCursor) network pages) :
    Listed Api.VerifyPage.ofJson? (·.nextCursor) (c.AsksVerified ref) none joinVerified network
      pages ((c.verifyLocks ref).outcome network) := by
  have enough : network.replies.length < network.replies.length + 1 := Nat.lt_succ_self _
  have listed := ((c.verification ref).listed_pagesFrom
    (fun cursor => exists_apiMessage? builds .locksVerify _) reachable leads enough none).map
      joinVerified
  rw [outcome_verifyLocks, verifyFrom_eq, Session.outcome_map]
  exact listed

end Connection

/-- Listings are exact.  Where the responses to come lead to an end, both listings ask once for
    every page and once more, always with the same parameters and with the cursor of the page
    before; they give what all the pages list, in order, or fail as the last response does. -/
theorem listings_exact {c : Connection} (builds : c.Builds) {network : Network}
    (reachable : network.reachable = true) (path id : Option String) (ref : Option Api.Ref) :
    (∀ pages, Leads Api.LockPage.ofJson? (·.nextCursor) network pages →
      Listed Api.LockPage.ofJson? (·.nextCursor) (c.AsksLocks path id ref) none
        Connection.joinLocks network pages ((c.listLocks path id ref).outcome network)) ∧
    ∀ pages, Leads Api.VerifyPage.ofJson? (·.nextCursor) network pages →
      Listed Api.VerifyPage.ofJson? (·.nextCursor) (c.AsksVerified ref) none
        Connection.joinVerified network pages ((c.verifyLocks ref).outcome network) := by
  constructor
  · exact fun _ leads => Connection.listed_listLocks builds reachable path id ref leads
  · exact fun _ leads => Connection.listed_verifyLocks builds reachable ref leads

/-- Two pages, of which the second names no cursor, or an empty one. -/
theorem listings_exact_twoPages :
    let c : Connection := ⟨"http://lfs.test", .anonymous, "lfs", 1024⟩
    let lock (id : String) : Api.Lock := ⟨id, "a", none, .epoch⟩
    let page (locks ours : List Api.Lock) (cursor : String) : Http.Reply :=
      ⟨200, [(Json.ofMembers [("locks", .array (locks.map Api.Lock.toJson)),
        ("ours", .array (ours.map Api.Lock.toJson)), ("next_cursor", .ofString cursor)]).render],
        .whole⟩
    let network : Network :=
      ⟨true, [page [lock "1"] [lock "5"] "2", page [lock "3", lock "4"] [lock "6"] ""], []⟩
    let listed := (c.listLocks (some "a") none (some ⟨"main"⟩)).outcome network
    let verified := (c.verifyLocks (some ⟨"main"⟩)).outcome network
    c.Builds ∧
      Leads Api.LockPage.ofJson? (·.nextCursor) network [⟨[lock "1"], some "2"⟩] ∧
      Leads Api.VerifyPage.ofJson? (·.nextCursor) network [⟨[lock "5"], [], some "2"⟩] ∧
      Listed Api.LockPage.ofJson? (·.nextCursor) (c.AsksLocks (some "a") none (some ⟨"main"⟩))
        none Connection.joinLocks network [⟨[lock "1"], some "2"⟩] listed ∧
      Listed Api.VerifyPage.ofJson? (·.nextCursor) (c.AsksVerified (some ⟨"main"⟩))
        none Connection.joinVerified network [⟨[lock "5"], [], some "2"⟩] verified ∧
      listed.1 = .ok [lock "1", lock "3", lock "4"] ∧
      listed.2.sent.map (·.url.query) =
        [some "path=a&refspec=main", some "path=a&refspec=main&cursor=2"] ∧
      verified.1 = .ok ⟨[lock "5", lock "6"], [], none⟩ ∧
      verified.2.sent.map (·.body) =
        [Bytes.ofString "\x7b\"ref\":\x7b\"name\":\"main\"\x7d\x7d",
          Bytes.ofString "\x7b\"ref\":\x7b\"name\":\"main\"\x7d,\"cursor\":\"2\"\x7d"] := by
  intro c lock page network listed verified
  have builds : c.Builds := by decide +kernel
  have reachable : network.reachable = true := rfl
  let later : Network := ⟨true, [page [lock "3", lock "4"] [lock "6"] ""], []⟩
  -- After one reply the network answers with the next one.
  have shifted (n : Nat) : later.response n = network.response (n + 1) :=
    congrArg Network.receive List.getD_cons_succ.symm
  have second : success? Api.LockPage.ofJson? (network.response 1) =
      some ⟨[lock "3", lock "4"], some ""⟩ := by decide +kernel
  have second' : success? Api.VerifyPage.ofJson? (network.response 1) =
      some ⟨[lock "6"], [], some ""⟩ := by decide +kernel
  have leads : Leads Api.LockPage.ofJson? (·.nextCursor) network [⟨[lock "1"], some "2"⟩] := by
    refine .cons (.nil fun last came => ?_) (by decide +kernel) (by decide) shifted
    rw [shifted] at came
    cases second.symm.trans came
    decide
  have leads' : Leads Api.VerifyPage.ofJson? (·.nextCursor) network
      [⟨[lock "5"], [], some "2"⟩] := by
    refine .cons (.nil fun last came => ?_) (by decide +kernel) (by decide) shifted
    rw [shifted] at came
    cases second'.symm.trans came
    decide
  have exact := listings_exact builds reachable (some "a") none (some ⟨"main"⟩)
  exact ⟨builds, leads, leads', exact.1 _ leads, exact.2 _ leads',
    (exact.1 _ leads).given _ second, by decide +kernel, (exact.2 _ leads').given _ second',
    by decide +kernel⟩

/-- Every listing ends: whatever the responses to come are, there are pages that they lead to, and
    both listings come to the end of theirs. -/
theorem listings_end {c : Connection} (builds : c.Builds) {network : Network}
    (reachable : network.reachable = true) (path id : Option String) (ref : Option Api.Ref) :
    (∃ pages, Listed Api.LockPage.ofJson? (·.nextCursor) (c.AsksLocks path id ref) none
      Connection.joinLocks network pages ((c.listLocks path id ref).outcome network)) ∧
    ∃ pages, Listed Api.VerifyPage.ofJson? (·.nextCursor) (c.AsksVerified ref) none
      Connection.joinVerified network pages ((c.verifyLocks ref).outcome network) := by
  obtain ⟨locks, leads⟩ := exists_leads Api.LockPage.ofJson? (·.nextCursor) network
  obtain ⟨verified, leads'⟩ := exists_leads Api.VerifyPage.ofJson? (·.nextCursor) network
  exact ⟨⟨locks, Connection.listed_listLocks builds reachable path id ref leads⟩,
    ⟨verified, Connection.listed_verifyLocks builds reachable ref leads'⟩⟩

end LargeFiles.Remote
