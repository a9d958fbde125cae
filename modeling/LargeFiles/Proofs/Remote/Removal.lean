import LargeFiles.Proofs.Remote.Acquisition
import LargeFiles.Proofs.Remote.Cursors

/-!
# Unlocking over HTTP

What a request to remove several locks makes of a service that may answer anything.  The targets
are dealt with one after another.  A target that names its lock takes one request; for any other
the locks on its path are listed, and the first of them is removed if it is on this very path.

* `Connection.converses_release`   one target;
* `Removal.exists_ok_iff`          it succeeds if all its responses say so;
* `Client.releaseAll_eq`           the locks of all targets are described at the end;
* `releaseAll_exchanges`           all targets.
-/

namespace LargeFiles.Remote

open Http (Exchange Network Request Response)
open Session (InTurn Turn)

/-! ### Responses -/

/-- A response that says that there is no such lock grants none. -/
theorem granted?_of_removal? {response : Option Response} {removed : Option Api.Lock}
    (told : removal? response = some removed) : granted? response = removed := by
  obtain ⟨arrived, rfl, read⟩ := Option.bind_eq_some_iff.1 told
  split at read
  · next absent =>
    cases read
    have failed : Http.Status.isSuccess Http.Status.notFound = false := by decide
    simp [granted?, success?, Response.isSuccess, absent, failed]
  · obtain ⟨lock, granted, rfl⟩ := Option.map_eq_some_iff.1 read
    exact granted

/-- An exchange went well: a lock is gone, or a page of locks came. -/
def Settled (exchange : Exchange) : Prop :=
  if exchange.request.method = .post then Removed exchange.response
  else (success? Api.LockPage.ofJson? exchange.response).isSome = true

/-- The lock whose removal an exchange reports. -/
def removed? (exchange : Exchange) : Option Api.Lock :=
  if exchange.request.method = .post then granted? exchange.response else none

/-! ### One target -/

namespace Connection

/-- The removal of a lock is asked for, and what comes of it is what the response tells. -/
structure Removes (c : Connection) (ref : Option Api.Ref) (force : Bool) (id : String)
    (remove : Exchange) (result : Except RemoteError (Option Api.Lock)) : Prop where
  asks : c.AsksRemoval ref force id remove.request
  ok_iff : ∀ removed, result = .ok removed ↔ removal? remove.response = some removed

/-- The locks on a path are listed. -/
def Lists (c : Connection) (ref : Option Api.Ref) (path : String) :
    List Exchange → Except RemoteError (List Api.LockPage) → Prop :=
  Walk Api.LockPage.ofJson? (·.nextCursor) (c.AsksLocks (some path) none ref) none

/-- What is exchanged to remove the lock that a target means, and what comes of it. -/
inductive Removal (c : Connection) (ref : Option Api.Ref) (force : Bool) (target : UnlockTarget) :
    List Exchange → Except RemoteError (Option Api.Lock) → Prop
  /-- The target names its lock. -/
  | named {id remove result} (names : target.token = some id)
      (removes : c.Removes ref force id remove result) :
      Removal c ref force target [remove] result
  /-- It does not, and the locks on its path cannot be listed. -/
  | unlisted {log error} (unnamed : target.token = none)
      (listed : c.Lists ref target.path log (.error error)) :
      Removal c ref force target log (.error error)
  /-- No lock is listed, or another path is locked by the first one. -/
  | elsewhere {log pages} (unnamed : target.token = none)
      (listed : c.Lists ref target.path log (.ok pages))
      (other : ∀ lock, (joinLocks pages).head? = some lock → lock.path ≠ target.path) :
      Removal c ref force target log (.ok none)
  /-- The first lock that is listed is on the path. -/
  | first {log pages lock remove result} (unnamed : target.token = none)
      (listed : c.Lists ref target.path log (.ok pages))
      (first : (joinLocks pages).head? = some lock) (same : lock.path = target.path)
      (removes : c.Removes ref force lock.id remove result) :
      Removal c ref force target (log ++ [remove]) result

variable {c : Connection} {ref : Option Api.Ref} {force : Bool} {target : UnlockTarget}
  {log : List Exchange}

section

variable {remove : Exchange} {lockId : String} {result : Except RemoteError (Option Api.Lock)}

/-- Removals are posted. -/
theorem AsksRemoval.method (h : c.AsksRemoval ref force lockId remove.request) :
    remove.request.method = .post := by
  obtain ⟨url, _, asks⟩ := h
  exact asks.method

/-- A removal succeeds if the lock is gone. -/
theorem Removes.exists_ok_iff (h : c.Removes ref force lockId remove result) :
    (∃ removed, result = .ok removed) ↔ Settled remove := by
  rw [Settled, if_pos h.asks.method, ← isSome_removal?_iff, Option.isSome_iff_exists]
  exact exists_congr h.ok_iff

/-- It gives the lock whose removal it reports. -/
theorem Removes.removed?_eq {removed : Option Api.Lock}
    (h : c.Removes ref force lockId remove (.ok removed)) : removed? remove = removed := by
  rw [removed?, if_pos h.asks.method]
  exact granted?_of_removal? ((h.ok_iff removed).1 rfl)

end

section

variable {pages : Except RemoteError (List Api.LockPage)}

/-- Nothing is removed by a listing. -/
theorem Lists.method (h : c.Lists ref target.path log pages) {exchange : Exchange}
    (mem : exchange ∈ log) : exchange.request.method = .get := by
  obtain ⟨cursor, url, _, asks⟩ := h.exists_asks mem
  exact asks.method

/-- A page is settled if it can be read. -/
theorem Lists.settled_iff (h : c.Lists ref target.path log pages) {exchange : Exchange}
    (mem : exchange ∈ log) :
    Settled exchange ↔ (success? Api.LockPage.ofJson? exchange.response).isSome = true := by
  rw [Settled, h.method mem, if_neg (by decide)]

/-- All pages but the last are settled, since each of them led further. -/
theorem Lists.settled_of_mem_dropLast (h : c.Lists ref target.path log pages)
    {exchange : Exchange} (mem : exchange ∈ log.dropLast) : Settled exchange :=
  (h.settled_iff (List.dropLast_subset _ mem)).2 (h.came_of_mem_dropLast exchange mem)

theorem Lists.exists_ok_iff (h : c.Lists ref target.path log pages) :
    (∃ all, pages = .ok all) ↔ ∀ exchange ∈ log, Settled exchange :=
  (Walk.exists_ok_iff h).trans (forall₂_congr fun _ mem => (h.settled_iff mem).symm)

/-- Asking for pages removes nothing. -/
theorem Lists.filterMap_removed? (h : c.Lists ref target.path log pages) :
    log.filterMap removed? = [] := by
  rw [List.filterMap_eq_nil_iff]
  intro exchange mem
  rw [removed?, h.method mem, if_neg (by decide)]

/-- Pages are not posted for. -/
theorem Lists.filter_post (h : c.Lists ref target.path log pages) :
    log.filter (·.request.method = .post) = [] := by
  rw [List.filter_eq_nil_iff]
  intro exchange mem
  rw [h.method mem]
  decide

end

namespace Removal

variable {result : Except RemoteError (Option Api.Lock)}

/-- No target leads to more than one removal. -/
theorem length_filter_post_le (h : c.Removal ref force target log result) :
    (log.filter (·.request.method = .post)).length ≤ 1 := by
  cases h with
  | named _ removes => exact List.length_filter_le _ _
  | unlisted _ listed => simp [listed.filter_post]
  | elsewhere _ listed => simp [listed.filter_post]
  | first _ listed _ _ removes =>
    rw [List.filter_append, listed.filter_post]
    exact List.length_filter_le _ _

/-- A target that names its lock leads to nothing else. -/
theorem length_eq_one (h : c.Removal ref force target log result)
    (names : target.token.isSome = true) : log.length = 1 := by
  cases h with
  | named => rfl
  | unlisted unnamed => simp [unnamed] at names
  | elsewhere unnamed => simp [unnamed] at names
  | first unnamed => simp [unnamed] at names

/-- Nothing follows an exchange that did not go well. -/
theorem settled_of_mem_dropLast (h : c.Removal ref force target log result) :
    ∀ exchange ∈ log.dropLast, Settled exchange := by
  cases h with
  | named => simp
  | unlisted _ listed => exact fun _ => listed.settled_of_mem_dropLast
  | elsewhere _ listed => exact fun _ => listed.settled_of_mem_dropLast
  | first _ listed =>
    rw [List.dropLast_concat]
    exact listed.exists_ok_iff.1 ⟨_, rfl⟩

/-- It succeeds if every exchange went well. -/
theorem exists_ok_iff (h : c.Removal ref force target log result) :
    (∃ removed, result = .ok removed) ↔ ∀ exchange ∈ log, Settled exchange := by
  cases h with
  | named _ removes => rw [removes.exists_ok_iff, List.forall_mem_singleton]
  | unlisted _ listed => simp [← listed.exists_ok_iff]
  | elsewhere _ listed => simp [← listed.exists_ok_iff]
  | first _ listed _ _ removes =>
    rw [removes.exists_ok_iff, List.forall_mem_append, List.forall_mem_singleton,
      ← listed.exists_ok_iff]
    simp

/-- It gives the lock whose removal is reported. -/
theorem filterMap_removed? {removed : Option Api.Lock}
    (h : c.Removal ref force target log (.ok removed)) :
    log.filterMap removed? = removed.toList := by
  cases h with
  | named _ removes =>
    rw [← removes.removed?_eq]
    cases told : removed? _ <;> simp [told]
  | elsewhere _ listed => exact listed.filterMap_removed?
  | first _ listed _ _ removes =>
    rw [List.filterMap_append, listed.filterMap_removed?, ← removes.removed?_eq]
    cases told : removed? _ <;> simp [told]

end Removal

/-- Removing a lock takes one request. -/
theorem converses_removes (builds : c.Builds) (lockId : String) (force : Bool)
    (ref : Option Api.Ref) :
    (c.unlock lockId force ref).Converses id fun log result =>
      ∃ remove, log = [remove] ∧ c.Removes ref force lockId remove result := by
  refine (converses_unlock builds lockId force ref).imp ?_
  rintro _ result ⟨remove, rfl, asks, ok_iff⟩
  exact ⟨remove, rfl, asks, ok_iff⟩

/-- A target is released by a removal, after its lock was looked up if that is needed. -/
theorem converses_release (builds : c.Builds) (ref : Option Api.Ref) (force : Bool)
    (target : UnlockTarget) :
    (c.client.release ref force target).Converses id (c.Removal ref force target) := by
  rw [Client.release, Client.resolve]
  cases named : target.token with
  | some lockId =>
    rw [pure_bind]
    refine (converses_removes builds lockId force ref).imp ?_
    rintro _ result ⟨remove, rfl, removes⟩
    exact .named named removes
  | none =>
    rw [bind_assoc]
    apply (converses_listLocks builds (some target.path) none ref).bind
    · rintro log error ⟨pages, listed, failed⟩
      cases pages with
      | ok pages => cases failed
      | error other =>
        cases failed
        exact .unlisted named listed
    · rintro log locks ⟨pages, listed, came⟩
      cases pages with
      | error other => cases came
      | ok pages =>
        obtain rfl : locks = joinLocks pages := Except.ok.inj came
        -- Only the first lock is looked at.
        cases given : joinLocks pages with
        | nil => exact .pure (by simpa using .elsewhere named listed (by simp [given]))
        | cons lock others =>
          have first : (joinLocks pages).head? = some lock := by rw [given, List.head?_cons]
          rw [pure_bind]
          by_cases same : lock.path = target.path
          · rw [if_pos same]
            refine (converses_removes builds lock.id force ref).imp ?_
            rintro _ result ⟨remove, rfl, removes⟩
            exact .first named listed first same removes
          -- A first lock on another path is passed over, even if a later one would fit.
          · rw [if_neg same]
            refine .pure ?_
            rw [List.append_nil]
            refine .elsewhere named listed fun other found => ?_
            cases first.symm.trans found
            exact same

end Connection

/-! ### All targets -/

/-- The locks of several targets are described when all targets have been dealt with. -/
theorem Client.releaseAll_eq {σ : Type} (client : Client σ) (branch : Option Branch)
    (force : Bool) (targets : List UnlockTarget) :
    client.releaseAll branch force targets = do
      let locks ← targets.mapM (client.release (branch.map (·.toRef)) force)
      return (locks.flatMap Option.toList).map (LockDescription.ofLock branch) := by
  induction targets with
  | nil => simp [releaseAll]
  | cons target targets ih =>
    simp only [releaseAll, List.mapM_cons, ih, bind_assoc, pure_bind, List.flatMap_cons,
      List.map_append]
    congr 1
    funext lock
    cases lock <;> rfl

/-- What a request to remove several locks makes of the turns of its targets. -/
structure Removals (c : Connection) (branch : Option Branch) (force : Bool)
    (targets : List UnlockTarget) (turns : List (Turn RemoteError UnlockTarget (Option Api.Lock)))
    (result : Except RemoteError (List LockDescription)) : Prop where
  /-- Each target is dealt with in its turn, until the first failure. -/
  inTurn : ∃ locks, InTurn (c.Removal (branch.map (·.toRef)) force) targets turns locks ∧
    result = locks.map fun locks =>
      (locks.flatMap Option.toList).map (LockDescription.ofLock branch)
  /-- No target leads to more than one removal, and one that names its lock to nothing else. -/
  few : ∀ turn ∈ turns, (turn.log.filter (·.request.method = .post)).length ≤ 1 ∧
    (turn.target.token.isSome = true → turn.log.length = 1)
  /-- Nothing follows an exchange that did not go well. -/
  settled : ∀ exchange ∈ (turns.flatMap (·.log)).dropLast, Settled exchange
  /-- It succeeds if each target had its turn and every exchange went well.  What it gives then is
      one description for each lock whose removal was reported, in the order of the reports. -/
  ok_iff : ∀ descriptions, result = .ok descriptions ↔
    (turns.map (·.target) = targets ∧ ∀ exchange ∈ turns.flatMap (·.log), Settled exchange) ∧
      List.Forall₂ (LockDescription.Describes branch) descriptions
        ((turns.flatMap (·.log)).filterMap removed?)

/-- The turns that a request to remove several locks was made of. -/
theorem removals_of_inTurn {c : Connection} {branch : Option Branch} {force : Bool}
    {targets : List UnlockTarget} {turns : List (Turn RemoteError UnlockTarget (Option Api.Lock))}
    {locks : Except RemoteError (List (Option Api.Lock))}
    (h : InTurn (c.Removal (branch.map (·.toRef)) force) targets turns locks) :
    Removals c branch force targets turns (locks.map fun locks =>
      (locks.flatMap Option.toList).map (LockDescription.ofLock branch)) where
  inTurn := ⟨locks, h, rfl⟩
  few turn mem := ⟨(h.fits_of_mem mem).length_filter_post_le, (h.fits_of_mem mem).length_eq_one⟩
  settled := h.fine_of_mem_dropLast (fun _ _ _ removal => removal.settled_of_mem_dropLast)
    fun _ _ b removal => removal.exists_ok_iff.1 ⟨b, rfl⟩
  ok_iff descriptions := by
    -- The run succeeds if every target has its turn, and none of them fails.
    have succeeds : (∃ all, locks = .ok all) ↔
        ∀ exchange ∈ turns.flatMap (·.log), Settled exchange := by
      have each : ∀ target log result, c.Removal (branch.map (·.toRef)) force target log result →
          ((∃ removed, result = .ok removed) ↔ True ∧ ∀ exchange ∈ log, Settled exchange) :=
        fun _ _ _ removal => by rw [true_and, removal.exists_ok_iff]
      rw [h.exists_ok_iff each]
      simp
    rw [← succeeds, LockDescription.forall₂_describes_iff]
    cases locks with
    | error error => simp [Except.map]
    | ok all =>
      have targeted := ((h.eq_ok_iff all).1 rfl).1
      -- What the responses report is what the targets have come to, in the same order.
      have given : (turns.flatMap (·.log)).filterMap removed? = all.flatMap Option.toList :=
        h.filterMap_log (fun _ _ _ removal => removal.filterMap_removed?) rfl
      simp [Except.map, targeted, given, eq_comm]

/-- The targets are released one after the other, until one of them fails. -/
theorem converses_releaseAll {c : Connection} (builds : c.Builds) (branch : Option Branch)
    (force : Bool) (targets : List UnlockTarget) :
    (c.client.releaseAll branch force targets).Converses id fun log result =>
      ∃ turns : List (Turn RemoteError UnlockTarget (Option Api.Lock)),
        log = turns.flatMap (·.log) ∧ Removals c branch force targets turns result := by
  rw [Client.releaseAll_eq]
  have each : ∀ target ∈ targets,
      (c.client.release (branch.map (·.toRef)) force target).Converses id
        (c.Removal (branch.map (·.toRef)) force target) :=
    fun target _ => Connection.converses_release builds _ force target
  apply (Session.Converses.mapM each).bind
  · rintro _ error ⟨turns, rfl, inTurn⟩
    exact ⟨turns, rfl, removals_of_inTurn inTurn⟩
  · rintro _ locks ⟨turns, rfl, inTurn⟩
    exact .pure ⟨turns, List.append_nil _, removals_of_inTurn inTurn⟩

/-- A request to remove several locks deals with its targets one after another.  A target that
    names its lock leads to its removal and nothing else; for any other the locks on its path are
    listed, and the first one is removed if it is on this very path.  A lock that is gone already is
    left out, nothing follows any other failure, and the request gives the locks whose removal was
    reported, in the order of the targets. -/
theorem releaseAll_exchanges {c : Connection} (builds : c.Builds) (branch : Option Branch)
    (force : Bool) (targets : List UnlockTarget) {network : Network}
    (reachable : network.reachable = true) :
    let outcome := (c.client.releaseAll branch force targets).outcome network
    ∃ turns : List (Turn RemoteError UnlockTarget (Option Api.Lock)),
      network.Exchanges (turns.flatMap (·.log)) outcome.2 ∧
        Removals c branch force targets turns outcome.1 := by
  obtain ⟨_, exchanges, turns, rfl, removals⟩ :=
    converses_releaseAll builds branch force targets network reachable
  exact ⟨turns, exchanges, removals⟩

/-- A lock that is gone is left out, the lock on the second path is found on the second page, and
    the lock on the third path is not removed, since another path is listed first.  Two locks are
    described. -/
theorem releaseAll_exchanges_listed :
    let c : Connection := ⟨"http://lfs.test", .anonymous, "lfs", 1024⟩
    let main : Branch := ⟨"main", by decide⟩
    let lock (id path : String) : Api.Lock := ⟨id, path, some ⟨"bob"⟩, .epoch⟩
    let page (locks : List Api.Lock) (cursor : String) : Http.Reply :=
      ⟨200, [(Json.ofMembers [("locks", .array (locks.map Api.Lock.toJson)),
        ("next_cursor", .ofString cursor)]).render], .whole⟩
    let removed (lock : Api.Lock) : Http.Reply :=
      ⟨200, [(Api.LockResponse.toJson ⟨lock⟩).render], .whole⟩
    let network : Network :=
      ⟨true, [⟨404, [], .whole⟩, page [] "2", page [lock "5" "b"] "", removed (lock "5" "b"),
        page [lock "6" "c/d", lock "7" "c"] "", removed (lock "8" "e")], []⟩
    let targets : List UnlockTarget := [⟨"a", some "4"⟩, ⟨"b", none⟩, ⟨"c", none⟩, ⟨"e", some "8"⟩]
    let outcome := (c.client.releaseAll (some main) true targets).outcome network
    let list (query : String) := (["locks"], some query, Bytes.ofString "")
    let remove (id : String) := (["locks", id, "unlock"], none, Bytes.ofString <|
      "\x7b\"force\":true,\"ref\":\x7b\"name\":\"main\"\x7d\x7d")
    c.Builds ∧
      (∃ turns : List (Turn RemoteError UnlockTarget (Option Api.Lock)),
        network.Exchanges (turns.flatMap (·.log)) outcome.2 ∧
          Removals c (some main) true targets turns outcome.1) ∧
      outcome.1 = .ok [⟨"b", some "main", "5", some "bob", none, .epoch⟩,
        ⟨"e", some "main", "8", some "bob", none, .epoch⟩] ∧
      outcome.2.sent.map (fun request => (request.url.path, request.url.query, request.body)) =
        [remove "4", list "path=b&refspec=main", list "path=b&refspec=main&cursor=2", remove "5",
          list "path=c&refspec=main", remove "8"] := by
  intro c main lock page removed network targets outcome list remove
  -- The third target is passed over because the first listed lock has another path.
  have builds : c.Builds := by decide +kernel
  exact ⟨builds, releaseAll_exchanges builds (some main) true _ rfl, by decide +kernel,
    by decide +kernel⟩

end LargeFiles.Remote
