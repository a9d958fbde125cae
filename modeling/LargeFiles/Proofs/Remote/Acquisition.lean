import LargeFiles.Proofs.LockDescription
import LargeFiles.Proofs.Remote.Answer
import LargeFiles.Remote.Locking

/-!
# Locking over HTTP

What a request for several locks makes of a service that may answer anything.  The targets are
dealt with one after another, each by one request or, if a lock is stolen, by three: the lock is
asked for, the lock that is in the way is removed, and the lock is asked for once more.

* `Connection.converses_lock`, `Connection.converses_unlock`   single calls;
* `Client.acquireAll_eq`                    the locks of all targets are described at the end;
* `Connection.converses_acquire`            one target;
* `Attempt.eq_ok_iff`                       it succeeds if the last request for the lock does;
* `acquireAll_exchanges`                    all targets.
-/

namespace LargeFiles.Remote

open Http (Exchange Network Request Response)
open Session (InTurn Turn)

/-- What comes of a request for a lock is what the response reports. -/
structure Reports (response : Option Response) (result : Except RemoteError Api.Lock) : Prop where
  ok_iff : ∀ lock, result = .ok lock ↔ granted? response = some lock
  conflict_iff : ∀ conflict,
    result = .error (.lockConflict conflict) ↔ conflict? response = some conflict

/-- A response that is reported as an error grants nothing. -/
theorem Reports.granted?_eq_none {response : Option Response} {error : RemoteError}
    (h : Reports response (.error error)) : granted? response = none := by
  rw [Option.eq_none_iff_forall_ne_some]
  intro lock granted
  cases (h.ok_iff lock).2 granted

/-- A response that is reported as a lock tells of no conflict. -/
theorem Reports.conflict?_eq_none {response : Option Response} {lock : Api.Lock}
    (h : Reports response (.ok lock)) : conflict? response = none := by
  rw [Option.eq_none_iff_forall_ne_some]
  intro conflict reported
  cases (h.conflict_iff conflict).2 reported

namespace Connection

/-! ### Single calls -/

/-- A request asks for a lock on a path. -/
def AsksLock (c : Connection) (ref : Option Api.Ref) (path : String) : Request → Prop :=
  c.Posts Endpoint.locks (Api.CreateLockRequest.toJson ⟨path, ref⟩)

/-- A request asks for the removal of the lock with an id. -/
def AsksRemoval (c : Connection) (ref : Option Api.Ref) (force : Bool) (id : String) :
    Request → Prop :=
  c.Posts (Endpoint.unlock id) (Api.DeleteLockRequest.toJson ⟨force, ref⟩)

variable {c : Connection}

/-- Asking for a lock takes one request, and its response is what is reported. -/
theorem converses_lock (builds : c.Builds) (path : String) (ref : Option Api.Ref) :
    (c.lock path ref).Converses id fun log result =>
      ∃ create, log = [create] ∧ c.AsksLock ref path create.request ∧
        Reports create.response result := by
  obtain ⟨request, built, posts⟩ := exists_apiMessage? builds .locks
    (Api.CreateLockRequest.toJson ⟨path, ref⟩)
  refine (c.converses_ask built _ _).imp ?_
  rintro _ _ ⟨response, rfl, rfl⟩
  exact ⟨_, rfl, posts, fun _ => lockOf_eq_ok_iff _, fun _ => lockOf_eq_conflict_iff _⟩

/-- Removing a lock takes one request, and the lock is given if the response has it. -/
theorem converses_unlock (builds : c.Builds) (lockId : String) (force : Bool)
    (ref : Option Api.Ref) :
    (c.unlock lockId force ref).Converses id fun log result =>
      ∃ remove, log = [remove] ∧ c.AsksRemoval ref force lockId remove.request ∧
        ∀ removed, result = .ok removed ↔ removal? remove.response = some removed := by
  obtain ⟨request, built, posts⟩ := exists_apiMessage? builds (.unlock lockId)
    (Api.DeleteLockRequest.toJson ⟨force, ref⟩)
  have asked := c.converses_ask built (c.address (Endpoint.unlock lockId))
    (optionalMessage Api.LockResponse.ofJson? · (c.address (Endpoint.unlock lockId)))
  rw [unlock, ← bind_assoc, bind_pure_comp]
  refine asked.map ?_
  rintro _ _ ⟨response, rfl, rfl⟩
  exact ⟨_, rfl, posts, fun removed => optionalMessage_eq_ok_iff _⟩

/-! ### One target -/

/-- What is exchanged to lock one path, and what comes of it. -/
inductive Attempt (c : Connection) (ref : Option Api.Ref) (steal : Bool) (path : String) :
    List Exchange → Except RemoteError Api.Lock → Prop
  /-- The lock is asked for.  If there is a conflict, it is not to be overcome. -/
  | once {create result} (asks : c.AsksLock ref path create.request)
      (last : steal = true → conflict? create.response = none)
      (reports : Reports create.response result) : Attempt c ref steal path [create] result
  /-- The lock that is in the way cannot be removed. -/
  | kept {create remove conflict error} (stealing : steal = true)
      (asks : c.AsksLock ref path create.request)
      (held : conflict? create.response = some conflict)
      (removes : c.AsksRemoval ref true conflict.lock.id remove.request)
      (kept : ¬ Removed remove.response) :
      Attempt c ref steal path [create, remove] (.error error)
  /-- The lock that was in the way is gone, and the lock is asked for once more. -/
  | again {create remove again conflict result} (stealing : steal = true)
      (asks : c.AsksLock ref path create.request)
      (held : conflict? create.response = some conflict)
      (removes : c.AsksRemoval ref true conflict.lock.id remove.request)
      (gone : Removed remove.response)
      (asks_again : c.AsksLock ref path again.request)
      (reports : Reports again.response result) :
      Attempt c ref steal path [create, remove, again] result

/-- The last request for the lock among the exchanges for one path. -/
def lastCreate? : List Exchange → Option Exchange
  | [create] => some create
  | [create, _] => some create
  | [_, _, again] => some again
  | _ => none

/-- The lock that was granted to the last request for it. -/
def lastGrant? (log : List Exchange) : Option Api.Lock :=
  (lastCreate? log).bind fun create => granted? create.response

variable {ref : Option Api.Ref} {steal : Bool} {path : String}

/-- A conflict grants nothing. -/
theorem granted?_of_conflict {response : Option Response} {conflict : Api.LockConflict}
    (held : conflict? response = some conflict) : granted? response = none := by
  have reports : Reports response (answer "" (lockOf · "") response) :=
    ⟨fun _ => lockOf_eq_ok_iff _, fun _ => lockOf_eq_conflict_iff _⟩
  rw [(reports.conflict_iff conflict).2 held] at reports
  exact reports.granted?_eq_none

namespace Attempt

variable {log : List Exchange} {result : Except RemoteError Api.Lock}

/-- An attempt succeeds if the last request for the lock does, and gives what was granted then. -/
theorem eq_ok_iff (h : c.Attempt ref steal path log result) (lock : Api.Lock) :
    result = .ok lock ↔ lastGrant? log = some lock := by
  cases h with
  | once _ _ reports => exact reports.ok_iff lock
  | @kept create remove conflict error _ _ held =>
    have refused : lastGrant? [create, remove] = none := granted?_of_conflict held
    rw [refused]
    simp
  | again _ _ _ _ _ _ reports => exact reports.ok_iff lock

/-- One target takes three requests at most: for the lock, its removal, and the lock again. -/
theorem length_le (h : c.Attempt ref steal path log result) : log.length ≤ 3 := by
  cases h <;> simp

/-- Without stealing, one target takes one request. -/
theorem length_eq_one (h : c.Attempt ref false path log result) : log.length = 1 := by
  cases h with
  | once => rfl
  | kept stealing => cases stealing
  | again stealing => cases stealing

/-- A second conflict is reported. -/
theorem eq_conflict {create remove again : Exchange} {conflict : Api.LockConflict}
    (h : c.Attempt ref steal path [create, remove, again] result)
    (held : conflict? again.response = some conflict) :
    result = .error (.lockConflict conflict) := by
  cases h with
  | again _ _ _ _ _ _ reports => exact (reports.conflict_iff conflict).2 held

end Attempt

/-- One target is acquired by an attempt. -/
theorem converses_acquire (builds : c.Builds) (ref : Option Api.Ref) (steal : Bool)
    (path : String) :
    (c.client.acquire ref steal path).Converses id (c.Attempt ref steal path) := by
  rw [Client.acquire]
  apply (converses_lock builds path ref).tryCatch
  · rintro _ lock ⟨create, rfl, asks, reports⟩
    exact .once asks (fun _ => reports.conflict?_eq_none) reports
  · rintro _ error ⟨create, rfl, asks, reports⟩
    split
    -- Only a conflict that is to be overcome leads to further requests.
    · next conflict =>
      have held := (reports.conflict_iff conflict).1 rfl
      apply (converses_unlock builds conflict.lock.id true ref).bind
      · rintro _ failure ⟨remove, rfl, removes, removed_iff⟩
        refine .kept rfl asks held removes fun removed => ?_
        obtain ⟨lock, told⟩ := Option.isSome_iff_exists.1 (isSome_removal?_iff.2 removed)
        cases (removed_iff lock).2 told
      · rintro _ removed ⟨remove, rfl, removes, removed_iff⟩
        refine (converses_lock builds path ref).imp ?_
        rintro _ result ⟨again, rfl, asks_again, reports_again⟩
        have told := Option.isSome_iff_exists.2 ⟨_, (removed_iff removed).1 rfl⟩
        exact .again rfl asks held removes (isSome_removal?_iff.1 told) asks_again reports_again
    · next other =>
      refine .throw (.once asks (fun stealing => ?_) reports)
      rw [Option.eq_none_iff_forall_ne_some]
      intro conflict held
      cases (reports.conflict_iff conflict).2 held
      exact other conflict rfl stealing

end Connection

/-! ### All targets -/

/-- The locks of several targets are described when all of them have been acquired. -/
theorem Client.acquireAll_eq {σ : Type} (client : Client σ) (branch : Option Branch)
    (steal : Bool) (targets : List LockTarget) :
    client.acquireAll branch steal targets = do
      let locks ← targets.mapM fun target =>
        client.acquire (branch.map (·.toRef)) steal target.path
      return locks.map (LockDescription.ofLock branch) := by
  rw [acquireAll]
  induction targets with
  | nil => simp
  | cons target targets ih => simp only [List.mapM_cons, ih, bind_assoc, pure_bind, List.map_cons]

/-- What a request for several locks makes of the turns of its targets. -/
structure Acquisition (c : Connection) (branch : Option Branch) (steal : Bool)
    (targets : List LockTarget) (turns : List (Turn RemoteError LockTarget Api.Lock))
    (result : Except RemoteError (List LockDescription)) : Prop where
  /-- Each target is attempted in its turn, until the first failure. -/
  inTurn : ∃ locks : Except RemoteError (List Api.Lock),
    InTurn (fun target => c.Attempt (branch.map (·.toRef)) steal target.path) targets turns locks ∧
      result = locks.map (·.map (LockDescription.ofLock branch))
  /-- No target takes more than three requests, or one if nothing is stolen. -/
  few : ∀ turn ∈ turns, turn.log.length ≤ 3 ∧ (steal = false → turn.log.length = 1)
  /-- A second conflict is the error of the request. -/
  second : ∀ turn ∈ turns, ∀ create remove again conflict, turn.log = [create, remove, again] →
    conflict? again.response = some conflict → result = .error (.lockConflict conflict)
  /-- It succeeds if each target had its turn and the last request for its lock was granted.  What
      it gives then is one description for each target, in their order: that of the lock which was
      granted last, in the branch of the request. -/
  ok_iff : ∀ descriptions, result = .ok descriptions ↔ turns.map (·.target) = targets ∧
    List.Forall₂ (fun turn description => ∃ lock, Connection.lastGrant? turn.log = some lock ∧
      LockDescription.Describes branch description lock) turns descriptions

/-- The turns that a request for several locks was made of. -/
theorem acquisition_of_inTurn {c : Connection} {branch : Option Branch} {steal : Bool}
    {targets : List LockTarget} {turns : List (Turn RemoteError LockTarget Api.Lock)}
    {locks : Except RemoteError (List Api.Lock)}
    (h : InTurn (fun target => c.Attempt (branch.map (·.toRef)) steal target.path) targets turns
      locks) :
    Acquisition c branch steal targets turns
      (locks.map (·.map (LockDescription.ofLock branch))) where
  inTurn := ⟨locks, h, rfl⟩
  few turn mem := by
    have attempt := h.fits_of_mem mem
    refine ⟨attempt.length_le, ?_⟩
    rintro rfl
    exact attempt.length_eq_one
  -- A second conflict ends the attempt, and with it the whole run.
  second turn mem create remove again conflict shape held := by
    have attempt := h.fits_of_mem mem
    rw [shape] at attempt
    rw [h.eq_error_of_mem mem (attempt.eq_conflict held)]
    rfl
  ok_iff descriptions := by
    -- Whether a turn succeeded is told by the last response for its lock.
    have given := h.eq_ok_iff_of (fun turn => Connection.lastGrant? turn.log)
      fun turn mem => (h.fits_of_mem mem).eq_ok_iff
    rw [LockDescription.forall₂_yielded_iff]
    cases locks with
    | error error =>
      simp only [reduceCtorEq, false_iff, Except.map] at given ⊢
      rintro ⟨targets, locks, grants, -⟩
      exact given locks ⟨targets, grants⟩
    | ok locks =>
      simp only [Except.ok.injEq, Except.map] at given ⊢
      constructor
      · rintro rfl
        obtain ⟨targets, grants⟩ := (given locks).1 rfl
        exact ⟨targets, locks, grants, rfl⟩
      · rintro ⟨targets, others, grants, rfl⟩
        rw [(given others).2 ⟨targets, grants⟩]

/-- The targets are acquired one after the other, until one of them fails. -/
theorem converses_acquireAll {c : Connection} (builds : c.Builds) (branch : Option Branch)
    (steal : Bool) (targets : List LockTarget) :
    (c.client.acquireAll branch steal targets).Converses id fun log result =>
      ∃ turns : List (Turn RemoteError LockTarget Api.Lock), log = turns.flatMap (·.log) ∧
        Acquisition c branch steal targets turns result := by
  rw [Client.acquireAll_eq]
  -- Turns are attempts, whichever of the targets they are for.
  have each : ∀ target ∈ targets,
      (c.client.acquire (branch.map (·.toRef)) steal target.path).Converses id
        (c.Attempt (branch.map (·.toRef)) steal target.path) :=
    fun target _ => Connection.converses_acquire builds _ steal target.path
  apply (Session.Converses.mapM each).bind
  · rintro _ error ⟨turns, rfl, inTurn⟩
    exact ⟨turns, rfl, acquisition_of_inTurn inTurn⟩
  · rintro _ locks ⟨turns, rfl, inTurn⟩
    exact .pure ⟨turns, List.append_nil _, acquisition_of_inTurn inTurn⟩

/-- A request for several locks deals with its targets one after another.  For each of them it
    asks for the lock; only if it is to steal, and the response reports a conflict, it asks for
    the removal of the lock that is in the way and then, if this does not fail, for the lock once
    more.  Nothing follows a target that failed, and the request succeeds if the last request for
    every lock was granted. -/
theorem acquireAll_exchanges {c : Connection} (builds : c.Builds) (branch : Option Branch)
    (steal : Bool) (targets : List LockTarget) {network : Network}
    (reachable : network.reachable = true) :
    let outcome := (c.client.acquireAll branch steal targets).outcome network
    ∃ turns : List (Turn RemoteError LockTarget Api.Lock),
      network.Exchanges (turns.flatMap (·.log)) outcome.2 ∧
        Acquisition c branch steal targets turns outcome.1 := by
  obtain ⟨_, exchanges, turns, rfl, acquisition⟩ :=
    converses_acquireAll builds branch steal targets network reachable
  exact ⟨turns, exchanges, acquisition⟩

/-- A lock that another user holds is stolen, and the locks on both paths are described.  With
    another answer to the last request, a lock that is held again in the meantime is not stolen
    twice, and nothing is asked about the path after it. -/
theorem acquireAll_exchanges_stolen :
    let c : Connection := ⟨"http://lfs.test", .anonymous, "lfs", 1024⟩
    let main : Branch := ⟨"main", by decide⟩
    let lock (id path owner : String) : Api.Lock := ⟨id, path, some ⟨owner⟩, .epoch⟩
    let conflict (lock : Api.Lock) : Http.Reply :=
      ⟨409, [(Api.LockConflict.toJson ⟨lock, "held"⟩).render], .whole⟩
    let granted (lock : Api.Lock) : Http.Reply :=
      ⟨201, [(Api.LockResponse.toJson ⟨lock⟩).render], .whole⟩
    let stolen : List Http.Reply :=
      [conflict (lock "17" "a" "bob"), ⟨404, [], .whole⟩, granted (lock "18" "a" "ada")]
    let network : Network := ⟨true, stolen ++ [granted (lock "19" "b" "ada")], []⟩
    let network' : Network := ⟨true, stolen ++ [conflict (lock "4" "b" "bob"),
      granted (lock "4" "b" "bob"), conflict (lock "20" "b" "eve")], []⟩
    let outcome := (c.client.acquireAll (some main) true [⟨"a"⟩, ⟨"b"⟩]).outcome network
    let outcome' := (c.client.acquireAll (some main) true [⟨"a"⟩, ⟨"b"⟩, ⟨"c"⟩]).outcome network'
    let ask (path : String) := (["locks"], Bytes.ofString <|
      "\x7b\"path\":\"" ++ path ++ "\",\"ref\":\x7b\"name\":\"main\"\x7d\x7d")
    let remove (id : String) := (["locks", id, "unlock"], Bytes.ofString <|
      "\x7b\"force\":true,\"ref\":\x7b\"name\":\"main\"\x7d\x7d")
    c.Builds ∧
      (∃ turns : List (Turn RemoteError LockTarget Api.Lock),
        network.Exchanges (turns.flatMap (·.log)) outcome.2 ∧
          Acquisition c (some main) true [⟨"a"⟩, ⟨"b"⟩] turns outcome.1) ∧
      outcome.1 = .ok [⟨"a", some "main", "18", some "ada", none, .epoch⟩,
        ⟨"b", some "main", "19", some "ada", none, .epoch⟩] ∧
      outcome.2.sent.map (fun request => (request.url.path, request.body)) =
        [ask "a", remove "17", ask "a", ask "b"] ∧
      (∃ turns : List (Turn RemoteError LockTarget Api.Lock),
        network'.Exchanges (turns.flatMap (·.log)) outcome'.2 ∧
          Acquisition c (some main) true [⟨"a"⟩, ⟨"b"⟩, ⟨"c"⟩] turns outcome'.1) ∧
      outcome'.1 = .error (.lockConflict ⟨lock "20" "b" "eve", "held"⟩) ∧
      outcome'.2.sent.map (fun request => (request.url.path, request.body)) =
        [ask "a", remove "17", ask "a", ask "b", remove "4", ask "b"] := by
  intro c main lock conflict granted stolen network network' outcome outcome' ask remove
  -- In the first run the removal is answered with 404, so the lock is asked for again at once.
  have builds : c.Builds := by decide +kernel
  exact ⟨builds, acquireAll_exchanges builds (some main) true _ rfl, by decide +kernel,
    by decide +kernel, acquireAll_exchanges builds (some main) true _ rfl, by decide +kernel⟩

end LargeFiles.Remote
