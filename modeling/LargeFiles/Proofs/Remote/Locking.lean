import LargeFiles.Proofs.Session
import LargeFiles.Remote.Locking
import LargeFiles.Remote.Service

/-!
# Calls about locks

All that clients ask about locks, for several targets at once or for a single one.  Calls of the
first kind are made of calls of the second, so what these keep those keep too, however they end.

* `Service.lock_cases`, `Service.unlock_cases`   what single calls do to the service;
* `Client.Upholds.keeps_perform`                 what single calls keep, every call keeps;
* `Client.Mirrors.matches_perform`               what single calls do alike, every call does alike.
-/

namespace LargeFiles.Remote

/-- A call about locks. -/
inductive LockCall
  /-- Locks several paths in a branch, or in the whole repository. -/
  | acquireAll (branch : Option Branch) (steal : Bool) (targets : List LockTarget)
  /-- Removes the locks that several targets mean. -/
  | releaseAll (branch : Option Branch) (force : Bool) (targets : List UnlockTarget)
  | describeLocks (branch : Option Branch) (path id : Option String)
  | describeVerified (branch : Option Branch)
  /-- Locks a single path, in any scope. -/
  | lock (path : String) (ref : Option Api.Ref)
  /-- Removes a single lock by its id. -/
  | unlock (id : String) (force : Bool) (ref : Option Api.Ref)
  | listLocks (path id : Option String) (ref : Option Api.Ref)
  | verifyLocks (ref : Option Api.Ref)

namespace LockCall

/-- Makes the call through a client. -/
def perform {σ : Type} (client : Client σ) : LockCall → Session σ RemoteError Unit
  | acquireAll branch steal targets => do let _ ← client.acquireAll branch steal targets; return
  | releaseAll branch force targets => do let _ ← client.releaseAll branch force targets; return
  | describeLocks branch path id => do let _ ← client.describeLocks branch path id; return
  | describeVerified branch => do let _ ← client.describeVerified branch; return
  | lock path ref => do let _ ← client.lock path ref; return
  | unlock id force ref => do let _ ← client.unlock id force ref; return
  | listLocks path id ref => do let _ ← client.listLocks path id ref; return
  | verifyLocks ref => do let _ ← client.verifyLocks ref; return

/-- Whether the call may remove locks of others: it steals, or unlocks by force. -/
def isForcing : LockCall → Bool
  | acquireAll _ steal _ => steal
  | releaseAll _ force _ => force
  | unlock _ force _ => force
  | _ => false

/-- What the call asks locks on. -/
def wanted : LockCall → List LockKey
  | acquireAll branch _ targets => targets.map fun target => ⟨branch.map (·.short), target.path⟩
  | lock path ref => [⟨ref.map (·.name), path⟩]
  | _ => []

end LockCall

/-! ### Single calls to the service -/

namespace Service

/-- A path that is locked is not locked again; one that is not gets a lock with the next number. -/
theorem lock_cases (s : Service) (owner path : String) (ref : Option Api.Ref) :
    (∃ held, s.locks.get? ⟨ref.map (·.name), path⟩ = some held ∧
      s.lock owner path ref = (.error (.lockConflict ⟨held, "already created lock"⟩), s)) ∨
    (s.locks.get? ⟨ref.map (·.name), path⟩ = none ∧
      ∃ made : Api.Lock, made = ⟨toString (s.lastLock + 1), path, some ⟨owner⟩, s.clock⟩ ∧
        s.lock owner path ref = (.ok made, { s with
          locks := s.locks.insert ⟨ref.map (·.name), path⟩ made
          lastLock := s.lastLock + 1 })) := by
  rw [lock]
  cases found : s.locks.get? ⟨ref.map (·.name), path⟩ with
  | some held => exact .inl ⟨held, rfl, rfl⟩
  | none => exact .inr ⟨rfl, _, rfl, rfl⟩

/-- A path without a lock gets the one that is asked for. -/
theorem exists_lock (s : Service) (owner : String) {path : String} {ref : Option Api.Ref}
    (absent : s.locks.get? ⟨ref.map (·.name), path⟩ = none) :
    ∃ lock, (s.lock owner path ref).1 = .ok lock ∧
      (s.lock owner path ref).2.locks.get? ⟨ref.map (·.name), path⟩ = some lock := by
  obtain ⟨held, found, -⟩ | ⟨-, made, -, outcome⟩ := s.lock_cases owner path ref
  · rw [absent] at found
    cases found
  · rw [outcome]
    exact ⟨made, rfl, SortedMap.get?_insert_self ..⟩

/-- A removal leaves the service as it is, or without one lock, which was the owner's if it was
    not removed by force. -/
theorem unlock_cases (s : Service) (owner id : String) (force : Bool) (ref : Option Api.Ref) :
    (s.unlock owner id force ref).2 = s ∨
    ∃ key held, s.locks.get? key = some held ∧ (isOwnedBy owner held = true ∨ force = true) ∧
      (s.unlock owner id force ref).2 = { s with locks := s.locks.erase key } := by
  rw [unlock]
  split
  · exact .inl rfl
  · next key held found =>
    split
    · next allowed =>
      -- What the search finds is an entry of the table.
      have present := SortedMap.mem_toList_iff.1 (List.mem_of_find?_eq_some found)
      exact .inr ⟨key, held, present, by simpa using allowed, rfl⟩
    · exact .inl rfl

end Service

/-! ### What calls keep -/

namespace Client

variable {σ τ : Type}

/-- What a client's single calls keep: removals by force where they are allowed, and requests for
    locks, which are granted only where the last argument says so. -/
structure Upholds (client : Client σ) (inv : σ → Prop) (forcing : Prop) (may : LockKey → Prop) :
    Prop where
  lock : ∀ path ref, (client.lock path ref).Keeps inv fun _ => may ⟨ref.map (·.name), path⟩
  unlock : ∀ id force ref, (force = true → forcing) →
    (client.unlock id force ref).Keeps inv fun _ => True
  listLocks : ∀ path id ref, (client.listLocks path id ref).Keeps inv fun _ => True
  verifyLocks : ∀ ref, (client.verifyLocks ref).Keeps inv fun _ => True

namespace Upholds

variable {client : Client σ} {inv : σ → Prop} {forcing : Prop} {may : LockKey → Prop}

/-- Acquiring one target upholds what its calls uphold. -/
theorem keeps_acquire (h : client.Upholds inv forcing may) (ref : Option Api.Ref) {steal : Bool}
    (allowed : steal = true → forcing) (path : String) :
    (client.acquire ref steal path).Keeps inv fun _ => may ⟨ref.map (·.name), path⟩ := by
  apply Session.Keeps.tryCatch (h.lock path ref)
  intro error
  split
  · -- A conflict, and the lock is to be stolen.
    exact (h.unlock _ true ref fun _ => allowed rfl).bind fun _ _ => h.lock path ref
  · exact .throw _

/-- Acquiring targets upholds what the calls uphold. -/
theorem keeps_acquireAll (h : client.Upholds inv forcing may) (branch : Option Branch)
    {steal : Bool} (allowed : steal = true → forcing) (targets : List LockTarget) :
    (client.acquireAll branch steal targets).Keeps inv fun _ =>
      ∀ target ∈ targets, may ⟨branch.map (·.short), target.path⟩ := by
  have scope : (branch.map (·.toRef)).map (·.name) = branch.map (·.short) := by
    cases branch <;> rfl
  -- One target after the other, each asks for the lock on its path.
  have single (target : LockTarget) : (do
      let lock ← client.acquire (branch.map (·.toRef)) steal target.path
      return LockDescription.ofLock branch lock : Session σ RemoteError LockDescription).Keeps inv
        fun _ => may ⟨branch.map (·.short), target.path⟩ := by
    apply (h.keeps_acquire (branch.map (·.toRef)) allowed target.path).bind
    intro _ granted
    rw [scope] at granted
    exact .pure granted
  exact (Session.Keeps.mapM fun target _ => single target).imp fun _ granted target mem =>
    (granted target mem).elim fun _ granted => granted

/-- Releasing one target upholds what its calls uphold. -/
theorem keeps_release (h : client.Upholds inv forcing may) (ref : Option Api.Ref) {force : Bool}
    (allowed : force = true → forcing) (target : UnlockTarget) :
    (client.release ref force target).Keeps inv fun _ => True := by
  -- A target is found by asking, which changes nothing.
  have resolved : (client.resolve ref target).Keeps inv fun _ => True := by
    rw [resolve]
    split
    · exact .pure trivial
    · apply (h.listLocks _ _ _).bind
      intro listed _
      split
      · exact .pure trivial
      · exact .pure trivial
  apply resolved.bind
  intro id _
  cases id with
  | some id => exact h.unlock id force ref allowed
  | none => exact .pure trivial

/-- Releasing targets upholds what the calls uphold. -/
theorem keeps_releaseAll (h : client.Upholds inv forcing may) (branch : Option Branch)
    {force : Bool} (allowed : force = true → forcing) (targets : List UnlockTarget) :
    (client.releaseAll branch force targets).Keeps inv fun _ => True := by
  induction targets with
  | nil => exact .pure trivial
  | cons target rest ih =>
    exact (h.keeps_release _ allowed target).bind fun _ _ => ih.bind fun _ _ => .pure trivial

/-- A call keeps what single calls keep, however it ends.  If it succeeds, every lock that it
    asked for was granted. -/
theorem keeps_perform (h : client.Upholds inv forcing may) {call : LockCall}
    (allowed : call.isForcing = true → forcing) :
    (call.perform client).Keeps inv fun _ => ∀ key ∈ call.wanted, may key := by
  -- Most calls ask for no lock at all.
  have nothing {α : Type} {s : Session σ RemoteError α} (hs : s.Keeps inv fun _ => True) :
      (do let _ ← s; return : Session σ RemoteError Unit).Keeps inv fun _ =>
        ∀ key ∈ ([] : List LockKey), may key :=
    hs.bind fun _ _ => .pure fun _ mem => nomatch mem
  cases call with
  | acquireAll branch steal targets =>
    apply (h.keeps_acquireAll branch allowed targets).bind
    intro _ granted
    apply Session.Keeps.pure
    simpa [LockCall.wanted] using granted
  | releaseAll branch force targets => exact nothing (h.keeps_releaseAll branch allowed targets)
  | describeLocks branch path id =>
    exact nothing ((h.listLocks path id _).bind fun _ _ => .pure trivial)
  | describeVerified branch => exact nothing ((h.verifyLocks _).bind fun _ _ => .pure trivial)
  | lock path ref =>
    apply (h.lock path ref).bind
    intro _ granted
    apply Session.Keeps.pure
    simpa [LockCall.wanted] using granted
  | unlock id force ref => exact nothing (h.unlock id force ref allowed)
  | listLocks path id ref => exact nothing (h.listLocks path id ref)
  | verifyLocks ref => exact nothing (h.verifyLocks ref)

end Upholds

/-! ### What two clients do alike -/

/-- Started in related states, the single calls of the two clients have the same answers and lead
    to related states. -/
structure Mirrors (client : Client σ) (other : Client τ) (rel : σ → τ → Prop) : Prop where
  lock : ∀ path ref, (client.lock path ref).Matches (other.lock path ref) rel
  unlock : ∀ id force ref, (client.unlock id force ref).Matches (other.unlock id force ref) rel
  listLocks : ∀ path id ref,
    (client.listLocks path id ref).Matches (other.listLocks path id ref) rel
  verifyLocks : ∀ ref, (client.verifyLocks ref).Matches (other.verifyLocks ref) rel

namespace Mirrors

variable {client : Client σ} {other : Client τ} {rel : σ → τ → Prop}

/-- Acquiring one target does the same through clients that mirror each other. -/
theorem matches_acquire (h : client.Mirrors other rel) (ref : Option Api.Ref) (steal : Bool)
    (path : String) :
    (client.acquire ref steal path).Matches (other.acquire ref steal path) rel := by
  apply Session.Matches.tryCatch (h.lock path ref)
  intro error
  split
  · exact (h.unlock _ true ref).bind fun _ => h.lock path ref
  · exact .throw _

/-- Acquiring targets does the same through clients that mirror each other. -/
theorem matches_acquireAll (h : client.Mirrors other rel) (branch : Option Branch) (steal : Bool)
    (targets : List LockTarget) :
    (client.acquireAll branch steal targets).Matches (other.acquireAll branch steal targets)
      rel := by
  apply Session.Matches.mapM
  intro target
  exact (h.matches_acquire _ steal target.path).bind fun _ => .pure _

/-- Releasing one target does the same through clients that mirror each other. -/
theorem matches_release (h : client.Mirrors other rel) (ref : Option Api.Ref) (force : Bool)
    (target : UnlockTarget) :
    (client.release ref force target).Matches (other.release ref force target) rel := by
  -- Both clients find the same lock for the target, or none.
  have resolved : (client.resolve ref target).Matches (other.resolve ref target) rel := by
    rw [resolve, resolve]
    split
    · exact .pure _
    · apply (h.listLocks _ _ _).bind
      intro listed
      split
      · exact .pure _
      · exact .pure _
  apply resolved.bind
  intro id
  cases id with
  | some id => exact h.unlock id force ref
  | none => exact .pure _

/-- Releasing targets does the same through clients that mirror each other. -/
theorem matches_releaseAll (h : client.Mirrors other rel) (branch : Option Branch) (force : Bool)
    (targets : List UnlockTarget) :
    (client.releaseAll branch force targets).Matches (other.releaseAll branch force targets)
      rel := by
  induction targets with
  | nil => exact .pure _
  | cons target rest ih =>
    exact (h.matches_release _ force target).bind fun _ => ih.bind fun _ => .pure _

/-- Calls through two clients do alike what their single calls do alike. -/
theorem matches_perform (h : client.Mirrors other rel) (call : LockCall) :
    (call.perform client).Matches (call.perform other) rel := by
  -- What a call answers is not looked at any further.
  have nothing {α : Type} {s : Session σ RemoteError α} {t : Session τ RemoteError α}
      (hs : s.Matches t rel) :
      (do let _ ← s; return : Session σ RemoteError Unit).Matches (do let _ ← t; return) rel :=
    hs.bind fun _ => .pure _
  cases call with
  | acquireAll branch steal targets => exact nothing (h.matches_acquireAll branch steal targets)
  | releaseAll branch force targets => exact nothing (h.matches_releaseAll branch force targets)
  | describeLocks branch path id => exact nothing ((h.listLocks path id _).bind fun _ => .pure _)
  | describeVerified branch => exact nothing ((h.verifyLocks _).bind fun _ => .pure _)
  | lock path ref => exact nothing (h.lock path ref)
  | unlock id force ref => exact nothing (h.unlock id force ref)
  | listLocks path id ref => exact nothing (h.listLocks path id ref)
  | verifyLocks ref => exact nothing (h.verifyLocks ref)

end Mirrors

/-- A client that works on a part of a state. -/
theorem mirrors_onPart (client : Client σ) {part : τ → σ} {update : τ → σ → τ}
    (kept : ∀ state s, part (update state s) = s) :
    (client.onPart part update).Mirrors client fun state s => part state = s := by
  have single {α : Type} (s : Session σ RemoteError α) :
      (s.onPart part update).Matches s fun state s => part state = s := by
    rintro state _ rfl
    rw [Session.outcome_onPart]
    exact ⟨rfl, kept _ _⟩
  exact ⟨fun _ _ => single _, fun _ _ _ => single _, fun _ _ _ => single _, fun _ => single _⟩

end Client

/-! ### Runs -/

/-- What may happen to a service that keeps locks. -/
inductive LockEvent
  | call (who : Principal) (call : LockCall)
  /-- It gets later. -/
  | tick (time : Timestamp)

namespace Service

/-- The service after an event. -/
def step (s : Service) : LockEvent → Service
  | .call who call => ((call.perform (client who.login)).outcome s).2
  | .tick time => { s with clock := time }

/-- The service after some events. -/
def run (s : Service) (events : List LockEvent) : Service := events.foldl step s

end Service

end LargeFiles.Remote
