import LargeFiles.Proofs.Api.Message
import LargeFiles.Proofs.Http.Query
import LargeFiles.Proofs.Remote.Paging

/-!
# Cursors

A listing goes on for as long as the pages name cursors, and asks for the next page at the cursor
that was named.  It keeps no account of the cursors that it has seen, so a cursor that is named
again is asked for again.

* `Walk`                       what is exchanged from a page on, one case for each way to go on;
* `Walk.exists_ok_iff`         it gives its pages if every response is one;
* `Walk.asked`                 the cursors that are asked for are those that were handed out;
* `Paging.converses_all`       every listing is such a walk;
* `Connection.asksLocks_inj`, `Connection.asksVerified_inj`   a request names one cursor at most;
* `cursors_followed`           a cursor is asked for twice if and only if it is handed out twice.
-/

namespace LargeFiles

open Http (Exchange Network Request Response Url)

namespace Remote

open Connection (following)

variable {π β : Type}

/-! ### Walks -/

/-- What is exchanged from the page at a cursor on, and what comes of it: the page is asked for and,
    if it names a cursor, so are the pages from that cursor on. -/
inductive Walk (read : Json → Option π) (cursor : π → Option String)
    (asks : Option String → Request → Prop) :
    Option String → List Exchange → Except RemoteError (List π) → Prop
  /-- The response is no page. -/
  | broken {start exchange error} (asked : asks start exchange.request)
      (came : success? read exchange.response = none) :
      Walk read cursor asks start [exchange] (.error error)
  /-- The page names no cursor, or an empty one. -/
  | last {start exchange page} (asked : asks start exchange.request)
      (came : success? read exchange.response = some page)
      (ends : following (cursor page) = none) :
      Walk read cursor asks start [exchange] (.ok [page])
  /-- The page names a cursor. -/
  | next {start exchange page next log result} (asked : asks start exchange.request)
      (came : success? read exchange.response = some page)
      (follows : following (cursor page) = some next)
      (rest : Walk read cursor asks (some next) log result) :
      Walk read cursor asks start (exchange :: log) (result.map (page :: ·))

/-- The cursors that the pages among some responses name. -/
def handedOut (read : Json → Option π) (cursor : π → Option String) (log : List Exchange) :
    List String :=
  log.filterMap fun exchange =>
    (success? read exchange.response).bind fun page => following (cursor page)

section

variable {read : Json → Option π} {cursor : π → Option String}
  {asks : Option String → Request → Prop} {start : Option String} {log : List Exchange}
  {result : Except RemoteError (List π)}

/-- The first request is for the page at the start, and each other one is for the page at the cursor
    that was handed out last. -/
theorem Walk.asked (h : Walk read cursor asks start log result) :
    List.Forall₂ asks (start :: (handedOut read cursor log).map some) (log.map (·.request)) := by
  induction h with
  | broken asked came => simpa [handedOut, came] using asked
  | last asked came ends => simpa [handedOut, came, ends] using asked
  | next asked came follows rest ih =>
    rw [handedOut, List.filterMap_cons, came, Option.bind_some, follows, List.map_cons,
      List.map_cons]
    exact .cons asked ih

/-- A walk has as many requests as cursors were handed out, and one more. -/
theorem Walk.length_eq (h : Walk read cursor asks start log result) :
    log.length = (handedOut read cursor log).length + 1 := by
  simpa using h.asked.length_eq.symm

theorem Walk.ne_nil (h : Walk read cursor asks start log result) : log ≠ [] := by
  rw [← List.length_pos_iff, h.length_eq]
  omega

/-- What a walk exchanges are requests for pages. -/
theorem Walk.exists_asks (h : Walk read cursor asks start log result) {exchange : Exchange}
    (mem : exchange ∈ log) : ∃ cursor, asks cursor exchange.request := by
  induction h with
  | broken asked =>
    cases List.mem_singleton.1 mem
    exact ⟨_, asked⟩
  | last asked =>
    cases List.mem_singleton.1 mem
    exact ⟨_, asked⟩
  | next asked _ _ _ ih =>
    rcases List.mem_cons.1 mem with rfl | mem
    · exact ⟨_, asked⟩
    · exact ih mem

/-- A walk goes on only after a page. -/
theorem Walk.came_of_mem_dropLast (h : Walk read cursor asks start log result) :
    ∀ exchange ∈ log.dropLast, (success? read exchange.response).isSome = true := by
  induction h with
  | broken => simp
  | last => simp
  | @next start exchange page next log result asked came follows rest ih =>
    rw [List.dropLast_cons_of_ne_nil rest.ne_nil]
    exact List.forall_mem_cons.2 ⟨by simp [came], ih⟩

/-- A walk succeeds if all responses are pages. -/
theorem Walk.exists_ok_iff (h : Walk read cursor asks start log result) :
    (∃ pages, result = .ok pages) ↔
      ∀ exchange ∈ log, (success? read exchange.response).isSome = true := by
  induction h with
  | broken asked came => simp [came]
  | last asked came => simp [came]
  | @next start exchange page next log result asked came follows rest ih =>
    rw [List.forall_mem_cons, ← ih]
    cases result <;> simp [came, Except.map]

/-- No two of the requests ask for the page at the same cursor. -/
def AsksOnce (asks : Option String → Request → Prop) (requests : List Request) : Prop :=
  requests.Pairwise fun request later => ∀ value, asks (some value) request →
    ¬ asks (some value) later

/-- Where a request names one cursor at most, requests ask once for each page if their cursors are
    different. -/
theorem asksOnce_iff (inj : ∀ a b request, asks a request → asks b request → a = b)
    {cursors : List (Option String)} {requests : List Request}
    (asked : List.Forall₂ asks cursors requests) :
    AsksOnce asks requests ↔
      cursors.Pairwise fun a b => ∀ value, b = some value → a ≠ some value := by
  have length := asked.length_eq
  -- Positions are compared: the request at each of them asks at the cursor there.
  have each := (List.forall₂_iff_get.1 asked).2
  simp only [List.get_eq_getElem] at each
  rw [AsksOnce, List.pairwise_iff_getElem, List.pairwise_iff_getElem]
  constructor
  · intro once i j hi hj lt value later first
    exact once i j (by omega) (by omega) lt value (first ▸ each i hi (by omega))
      (later ▸ each j hj (by omega))
  · intro other i j hi hj lt value first later
    exact other i j (by omega) (by omega) lt value (inj _ _ _ (each j (by omega) hj) later)
      (inj _ _ _ (each i (by omega) hi) first)

/-- The requests of a walk from the first page on ask once for each page if and only if no cursor is
    handed out twice. -/
theorem Walk.asksOnce_iff (h : Walk read cursor asks none log result)
    (inj : ∀ a b request, asks a request → asks b request → a = b) :
    AsksOnce asks (log.map (·.request)) ↔ (handedOut read cursor log).Nodup := by
  rw [Remote.asksOnce_iff inj h.asked]
  simp [List.Nodup, List.pairwise_map]

end

/-- The pages from one on are a walk. -/
theorem Paging.exists_walk (paging : Paging π) {c : Connection}
    {asks : Option String → Request → Prop}
    (built : ∀ cursor, ∃ request, paging.request? cursor = some request ∧
      asks cursor (request.complete c.userAgent))
    {network : Network} (reachable : network.reachable = true) {fuel : Nat}
    (enough : network.replies.length < fuel) (cursor : Option String) :
    let outcome := (paging.pagesFrom c fuel cursor).outcome network
    ∃ log, network.Exchanges log outcome.2 ∧
      Walk paging.read paging.cursor asks cursor log outcome.1 := by
  induction fuel generalizing network cursor with
  | zero => omega
  | succ fuel ih =>
    obtain ⟨request, named, asked⟩ := built cursor
    -- One request is exchanged, and its response tells how the walk goes on.
    obtain ⟨made, came⟩ := outcome_pageAt (c := c) named reachable
    rw [outcome_pagesFrom_succ]
    revert made came
    rcases (paging.pageAt c cursor).outcome network with ⟨error | page, after⟩ <;>
      intro made came
    · exact ⟨_, made, .broken asked ((answer_successMessage_eq_error_iff _).1 ⟨error, came.symm⟩)⟩
    · have arrived := (answer_successMessage_eq_ok_iff _).1 came.symm
      dsimp only
      cases follows : following (paging.cursor page) with
      | none => exact ⟨_, made, .last asked arrived follows⟩
      | some next =>
        -- A response that succeeds was scripted, so there is fuel left for the others.
        have left : after.replies.length < fuel := by
          have scripted := lt_of_success? arrived
          rw [made.replies, List.length_drop, List.length_singleton]
          omega
        obtain ⟨log, made', rest⟩ := ih (made.reachable.trans reachable) left (some next)
        exact ⟨_, made.append made', .next asked arrived follows rest⟩

/-- All pages, of which there are no more than replies to come. -/
def Paging.all (paging : Paging π) (c : Connection) : Session Network RemoteError (List π) := do
  paging.pagesFrom c (← Connection.pageLimit) none

/-- Every listing is a walk. -/
theorem Paging.converses_all (paging : Paging π) {c : Connection}
    {asks : Option String → Request → Prop}
    (built : ∀ cursor, ∃ request, paging.request? cursor = some request ∧
      asks cursor (request.complete c.userAgent)) :
    (paging.all c).Converses id (Walk paging.read paging.cursor asks none) := by
  intro network reachable
  rw [all, Session.outcome_bind, Connection.outcome_pageLimit]
  exact paging.exists_walk built reachable (Nat.lt_succ_self _) none

/-! ### Requests for pages -/

namespace Connection

variable {c : Connection} {path lockId : Option String} {ref : Option Api.Ref}
  {a b : Option String} {request : Request}

/-- A request for a page of the listed locks names one cursor at most. -/
theorem asksLocks_inj (first : c.AsksLocks path lockId ref a request)
    (second : c.AsksLocks path lockId ref b request) : a = b := by
  obtain ⟨url, read, asks⟩ := first
  obtain ⟨other, read', asks'⟩ := second
  obtain rfl : url = other := Option.some.inj (read.symm.trans read')
  have same := congrArg Url.query (asks.url.symm.trans asks'.url)
  exact Url.eq_of_query_withQuery same

/-- A request for a page of the locks that are told apart names one cursor at most. -/
theorem asksVerified_inj (first : c.AsksVerified ref a request)
    (second : c.AsksVerified ref b request) : a = b := by
  obtain ⟨url, read, asks⟩ := first
  obtain ⟨other, read', asks'⟩ := second
  -- What is written in the body is read back.
  have faithful := Api.VerifyRequest.faithful
  have same := congrArg Json.parse? (asks.body.symm.trans asks'.body)
  rw [Json.parse?_render (faithful.plain _), Json.parse?_render (faithful.plain _)] at same
  have message := congrArg Api.VerifyRequest.ofJson? (Option.some.inj same)
  rw [faithful.read_write, faithful.read_write, Option.some.injEq] at message
  exact congrArg Api.VerifyRequest.cursor message

/-- A listing of locks is a walk through its pages. -/
theorem converses_listLocks (builds : c.Builds) (path lockId : Option String)
    (ref : Option Api.Ref) :
    (c.listLocks path lockId ref).Converses id fun log result =>
      ∃ pages, Walk Api.LockPage.ofJson? (·.nextCursor) (c.AsksLocks path lockId ref) none log
        pages ∧ result = pages.map joinLocks := by
  have all : c.listLocks path lockId ref = joinLocks <$> (c.listing path lockId ref).all c := by
    simp only [listLocks, listFrom_eq, Paging.all, map_bind]
  rw [all]
  have walks := (c.listing path lockId ref).converses_all
    (exists_listRequest? builds path lockId ref)
  exact walks.map fun _ pages walk => ⟨pages, walk, rfl⟩

/-- The pages of locks told apart are asked for one after the other and joined. -/
theorem converses_verifyLocks (builds : c.Builds) (ref : Option Api.Ref) :
    (c.verifyLocks ref).Converses id fun log result =>
      ∃ pages, Walk Api.VerifyPage.ofJson? (·.nextCursor) (c.AsksVerified ref) none log pages ∧
        result = pages.map joinVerified := by
  have all : c.verifyLocks ref = joinVerified <$> (c.verification ref).all c := by
    simp only [verifyLocks, verifyFrom_eq, Paging.all, map_bind]
  rw [all]
  have walks := (c.verification ref).converses_all
    (fun cursor => exists_apiMessage? builds .locksVerify (Api.VerifyRequest.toJson ⟨ref, cursor⟩))
  exact walks.map fun _ pages walk => ⟨pages, walk, rfl⟩

end Connection

/-! ### Cursors that come again -/

/-- What a listing makes of the cursors that it is given. -/
structure Followed (read : Json → Option π) (cursor : π → Option String)
    (asks : Option String → Request → Prop) (together : List π → β) (log : List Exchange)
    (result : Except RemoteError β) : Prop where
  /-- It ends with the first page that names no cursor or with the first response that is no page,
      and puts all pages together that it was given. -/
  walk : ∃ pages, Walk read cursor asks none log pages ∧ result = pages.map together
  /-- The first request names no cursor, and each other one names the cursor that was handed out
      last. -/
  asked : List.Forall₂ asks (none :: (handedOut read cursor log).map some) (log.map (·.request))
  /-- A cursor is asked for twice if and only if it was handed out twice. -/
  once_iff : AsksOnce asks (log.map (·.request)) ↔ (handedOut read cursor log).Nodup

/-- A walk from the first page follows the cursors. -/
theorem Walk.followed {read : Json → Option π} {cursor : π → Option String}
    {asks : Option String → Request → Prop} {log : List Exchange}
    {pages : Except RemoteError (List π)} (h : Walk read cursor asks none log pages)
    (inj : ∀ a b request, asks a request → asks b request → a = b) (together : List π → β) :
    Followed read cursor asks together log (pages.map together) where
  walk := ⟨pages, h, rfl⟩
  asked := h.asked
  once_iff := h.asksOnce_iff inj

/-- Both listings follow the cursors that they are given.  They ask for one page after another, each
    at the cursor that the page before named, until a page names none or there is no page; so they
    ask for no cursor twice if and only if none is handed out twice. -/
theorem cursors_followed {c : Connection} (builds : c.Builds) {network : Network}
    (reachable : network.reachable = true) (path id : Option String) (ref : Option Api.Ref) :
    let listed := (c.listLocks path id ref).outcome network
    let verified := (c.verifyLocks ref).outcome network
    (∃ log, network.Exchanges log listed.2 ∧
      Followed Api.LockPage.ofJson? (·.nextCursor) (c.AsksLocks path id ref)
        Connection.joinLocks log listed.1) ∧
    ∃ log, network.Exchanges log verified.2 ∧
      Followed Api.VerifyPage.ofJson? (·.nextCursor) (c.AsksVerified ref)
        Connection.joinVerified log verified.1 := by
  constructor
  · obtain ⟨log, made, pages, walk, came⟩ :=
      Connection.converses_listLocks builds path id ref network reachable
    refine ⟨log, made, ?_⟩
    rw [came]
    exact walk.followed (fun _ _ _ => Connection.asksLocks_inj) _
  · obtain ⟨log, made, pages, walk, came⟩ :=
      Connection.converses_verifyLocks builds ref network reachable
    refine ⟨log, made, ?_⟩
    rw [came]
    exact walk.followed (fun _ _ _ => Connection.asksVerified_inj) _

/-- Three pages, of which the first two name the same cursor. -/
theorem cursors_followed_sameCursor :
    let c : Connection := ⟨"http://lfs.test", .anonymous, "lfs", 1024⟩
    let lock (id : String) : Json := Api.Lock.toJson ⟨id, "a", none, .epoch⟩
    let page (id cursor : String) : Http.Reply :=
      ⟨200, [(Json.ofMembers [("locks", .array [lock id]), ("ours", .array [lock id]),
        ("next_cursor", .ofString cursor)]).render], .whole⟩
    let network : Network := ⟨true, [page "1" "c", page "2" "c", page "3" ""], []⟩
    let listed := (c.listLocks (some "a") none (some ⟨"main"⟩)).outcome network
    let verified := (c.verifyLocks (some ⟨"main"⟩)).outcome network
    c.Builds ∧ network.reachable = true ∧
      (∃ log, network.Exchanges log listed.2 ∧
        Followed Api.LockPage.ofJson? (·.nextCursor) (c.AsksLocks (some "a") none (some ⟨"main"⟩))
          Connection.joinLocks log listed.1) ∧
      (∃ log, network.Exchanges log verified.2 ∧
        Followed Api.VerifyPage.ofJson? (·.nextCursor) (c.AsksVerified (some ⟨"main"⟩))
          Connection.joinVerified log verified.1) := by
  intro c lock page network listed verified
  have builds : c.Builds := by decide +kernel
  exact ⟨builds, rfl, cursors_followed builds rfl (some "a") none (some ⟨"main"⟩)⟩

/-- A service that names a cursor again is asked for the page again, by both listings, and what the
    page lists is listed again. -/
theorem repeated_cursor_sent_again :
    let c : Connection := ⟨"http://lfs.test", .anonymous, "lfs", 1024⟩
    let lock : Api.Lock := ⟨"1", "a", none, .epoch⟩
    let page (cursor : String) : Http.Reply :=
      ⟨200, [(Json.ofMembers [("locks", .array [lock.toJson]), ("ours", .array [lock.toJson]),
        ("next_cursor", .ofString cursor)]).render], .whole⟩
    let body (cursor : Option String) := (Api.VerifyRequest.toJson ⟨none, cursor⟩).render
    let network : Network := ⟨true, [page "c", page "c", page ""], []⟩
    let listed := (c.listLocks none none none).outcome network
    let verified := (c.verifyLocks none).outcome network
    listed.1 = .ok [lock, lock, lock] ∧
      listed.2.sent.map (·.url.query) = [none, some "cursor=c", some "cursor=c"] ∧
      verified.1 = .ok ⟨[lock, lock, lock], [], none⟩ ∧
      verified.2.sent.map (·.body) =
        [none, some "c", some "c"].map body := by
  -- The second page gives the cursor that led to it, and it is followed once more.
  decide +kernel

end Remote

end LargeFiles
