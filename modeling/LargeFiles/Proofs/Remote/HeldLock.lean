import LargeFiles.Proofs.Remote.Locking
import Mathlib.Data.List.Induction

/-!
# Held locks

A lock is safe from all who neither steal nor unlock by force: as long as its owner does not
remove it, it stays in the table as it is, and nobody else gets a lock on its path and scope.

* `Service.upholds_client_of_ne`   a client of somebody else spares the lock, call by call;
* `Service.held_or_removed`        the lock is held until a call of its owner removes it;
* `held_lock_stays`                what is true of it until then.
-/

namespace LargeFiles.Remote

/-- Whether an event spares the locks of an owner, unless it is the owner's own call. -/
def LockEvent.isGentle (owner : String) : LockEvent → Bool
  | .call who request => who.login == owner || !request.isForcing
  | .tick _ => true

/-- A gentle call of somebody else is not forcing. -/
theorem LockEvent.isForcing_of_isGentle {owner : String} {who : Principal} {call : LockCall}
    (gentle : (LockEvent.call who call).isGentle owner = true) (ne : who.login ≠ owner) :
    call.isForcing = false := by
  simpa [isGentle, ne] using gentle

namespace Service

variable {key : LockKey} {lock : Api.Lock} {owner : String}

/-- Somewhere in a run a call of the owner takes the lock out of the table. -/
def Removed (s : Service) (key : LockKey) (lock : Api.Lock) (owner : String)
    (events : List LockEvent) : Prop :=
  ∃ before who call, before ++ [.call who call] <+: events ∧ who.login = owner ∧
    (s.run before).locks.get? key = some lock ∧
    (s.run (before ++ [.call who call])).locks.get? key ≠ some lock

theorem run_concat (s : Service) (events : List LockEvent) (event : LockEvent) :
    s.run (events ++ [event]) = (s.run events).step event := by
  simp [run]

/-- A lock that was removed during some events was removed during more of them. -/
theorem Removed.append {s : Service} {events : List LockEvent}
    (h : s.Removed key lock owner events) (more : List LockEvent) :
    s.Removed key lock owner (events ++ more) := by
  obtain ⟨before, who, call, start, removed⟩ := h
  exact ⟨before, who, call, start.trans (List.prefix_append ..), removed⟩

/-- The single calls of somebody else keep the lock in the table, unless they are by force, and
    they do not lock what it is on. -/
theorem upholds_client_of_ne (owned : lock.owner = some ⟨owner⟩) {other : String}
    (ne : other ≠ owner) :
    (client other).Upholds (fun s => s.locks.get? key = some lock) False (· ≠ key) where
  lock path ref := by
    intro s held
    obtain ⟨conflicting, -, outcome⟩ | ⟨absent, made, -, outcome⟩ := s.lock_cases other path ref
    · simp only [client, Session.outcome_ofFunction, outcome]
      exact ⟨held, fun _ made => nomatch made⟩
    -- Where a lock was granted none was held, so it is not here.
    · have apart : (⟨ref.map (·.name), path⟩ : LockKey) ≠ key := by
        rintro rfl
        rw [held] at absent
        cases absent
      simp only [client, Session.outcome_ofFunction, outcome]
      exact ⟨(SortedMap.get?_insert_of_ne _ apart.symm _).trans held, fun _ _ => apart⟩
  unlock id force ref gentle := by
    intro s held
    refine ⟨?_, fun _ _ => trivial⟩
    show (s.unlock other id force ref).2.locks.get? key = some lock
    obtain same | ⟨removed, found, present, allowed, after⟩ := s.unlock_cases other id force ref
    · rw [same]
      exact held
    · -- What is removed belongs to the other owner, so it is another lock.
      have apart : key ≠ removed := by
        rintro rfl
        cases held.symm.trans present
        rw [isOwnedBy, owned, or_iff_left gentle] at allowed
        exact ne (beq_iff_eq.1 allowed).symm
      rw [after]
      exact (SortedMap.get?_erase_of_ne _ apart).trans held
  listLocks path id ref := fun _ held => ⟨held, fun _ _ => trivial⟩
  verifyLocks ref := fun _ held => ⟨held, fun _ _ => trivial⟩

variable {s : Service}

/-- A gentle call of somebody else keeps the lock, and does not succeed if it is to lock the same
    path and scope. -/
theorem perform_of_ne (held : s.locks.get? key = some lock) (owned : lock.owner = some ⟨owner⟩)
    {who : Principal} (ne : who.login ≠ owner) {call : LockCall}
    (gentle : call.isForcing = false) :
    (s.step (.call who call)).locks.get? key = some lock ∧
      (key ∈ call.wanted →
        ∃ error, ((call.perform (client who.login)).outcome s).1 = .error error) := by
  have allowed : call.isForcing = true → False := by simp [gentle]
  obtain ⟨kept, answered⟩ :=
    (upholds_client_of_ne owned ne).keeps_perform allowed s held
  refine ⟨kept, fun wanted => ?_⟩
  cases answer : ((call.perform (client who.login)).outcome s).1 with
  | error e => exact ⟨e, rfl⟩
  | ok value => exact absurd rfl (answered value answer key wanted)

/-- The lock is held as long as no call of its owner has removed it. -/
theorem held_or_removed (held : s.locks.get? key = some lock)
    (owned : lock.owner = some ⟨owner⟩) {events : List LockEvent}
    (gentle : ∀ event ∈ events, event.isGentle owner = true) :
    s.Removed key lock owner events ∨ (s.run events).locks.get? key = some lock := by
  -- From the end of the run: whether the last event does harm depends on whose call it is.
  induction events using List.reverseRecOn with
  | nil => exact .inr held
  | append_singleton before event ih =>
    obtain removed | still := ih fun e mem => gentle e (List.mem_append_left _ mem)
    · exact .inl (removed.append [event])
    · have spared := gentle event (by simp)
      rw [run_concat]
      cases event with
      | tick time => exact .inr still
      | call who call =>
        -- The owner may remove the lock, and then this is the call that did; others may not.
        by_cases own : who.login = owner
        · by_cases after : ((s.run before).step (.call who call)).locks.get? key = some lock
          · exact .inr after
          · exact .inl ⟨before, who, call, List.prefix_rfl, own, still, by rwa [run_concat]⟩
        · have unforced := LockEvent.isForcing_of_isGentle spared own
          exact .inr (perform_of_ne still owned own unforced).1

end Service

/-- In a run in which nobody but the owner of a held lock steals or unlocks by force, the lock
    stays in the table as it is until a call of its owner removes it.  Until then no call of
    anybody else that is to lock its path in its scope succeeds, whatever else it is to lock. -/
theorem held_lock_stays {s : Service} {key : LockKey} {lock : Api.Lock} {owner : String}
    (held : s.locks.get? key = some lock) (owned : lock.owner = some ⟨owner⟩)
    {events : List LockEvent} (gentle : ∀ event ∈ events, event.isGentle owner = true) :
    ∀ before, before <+: events →
      s.Removed key lock owner before ∨
        (s.run before).locks.get? key = some lock ∧
          ∀ who call, before ++ [.call who call] <+: events → who.login ≠ owner →
            key ∈ call.wanted →
              ∃ error, ((call.perform (Service.client who.login)).outcome (s.run before)).1 =
                .error error := by
  intro before start
  obtain removed | still := Service.held_or_removed held owned fun e mem =>
    gentle e (start.subset mem)
  · exact .inl removed
  · refine .inr ⟨still, fun who call next ne wanted => ?_⟩
    have spared := gentle (.call who call) (next.subset (by simp))
    have unforced := LockEvent.isForcing_of_isGentle spared ne
    exact (Service.perform_of_ne still owned ne unforced).2 wanted

/-- Alice's lock, while Bob tries to remove it by path and by id, and to lock two paths. -/
theorem held_lock_stays_alice :
    let s := Service.run {} [.call (.user "alice") (.lock "/a" none)]
    let lock : Api.Lock := ⟨"1", "/a", some ⟨"alice"⟩, .epoch⟩
    let events : List LockEvent :=
      [.call (.user "bob") (.releaseAll none false [⟨"/a", none⟩]),
        .call (.user "bob") (.unlock "1" false none),
        .call (.user "bob") (.acquireAll none false [⟨"/b"⟩, ⟨"/a"⟩]),
        .call (.user "alice") (.releaseAll none false [⟨"/a", none⟩])]
    s.locks.get? ⟨none, "/a"⟩ = some lock ∧ lock.owner = some ⟨"alice"⟩ ∧
      (∀ event ∈ events, event.isGentle "alice" = true) ∧
      (s.run events).locks.get? ⟨none, "/a"⟩ = none ∧
      ∀ before, before <+: events →
        s.Removed ⟨none, "/a"⟩ lock "alice" before ∨
          (s.run before).locks.get? ⟨none, "/a"⟩ = some lock ∧
            ∀ who call, before ++ [.call who call] <+: events → who.login ≠ "alice" →
              ⟨none, "/a"⟩ ∈ call.wanted →
                ∃ error, ((call.perform (Service.client who.login)).outcome (s.run before)).1 =
                  .error error := by
  intro s lock events
  have held : s.locks.get? ⟨none, "/a"⟩ = some lock := by decide
  -- Bob tries to remove the lock in three ways, and then alice releases it herself.
  have gentle : ∀ event ∈ events, event.isGentle "alice" = true := by decide
  exact ⟨held, rfl, gentle, by decide, held_lock_stays held rfl gentle⟩

end LargeFiles.Remote
