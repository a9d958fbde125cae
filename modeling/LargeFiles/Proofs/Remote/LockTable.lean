import LargeFiles.Proofs.Remote.Locking
import LargeFiles.Text.Decimal

/-!
# The lock table

Whatever clients do, the service keeps at most one lock on a path in a scope, under the path that
the lock names, and no two of the locks that it ever grants have the same id.  The service itself
forgets a lock that is removed, so the second part is about a `Ledger`, in which every lock is
entered that is granted.

* `Ledger.service_run`      keeping a ledger changes nothing;
* `Ledger.Sound`            the invariant;
* `Ledger.Sound.step`       every event keeps it;
* `lock_ids_never_reused`   the table and the grants in every reachable state.
-/

namespace LargeFiles.Remote

/-! ### Ledgers -/

/-- A service, and the locks that it has granted so far in the order of the grants. -/
structure Ledger where
  service : Service := {}
  granted : List Api.Lock := []

namespace Ledger

/-- The client of an owner of locks.  What is granted through it is entered into the ledger. -/
def client (owner : String) : Client Ledger :=
  { (Service.client owner).onPart (·.service) fun ledger s => { ledger with service := s } with
    lock path ref := .ofFunction fun ledger =>
      let (answer, s) := ledger.service.lock owner path ref
      (answer, ⟨s, ledger.granted ++ answer.toOption.toList⟩) }

/-- The ledger after an event. -/
def step (ledger : Ledger) : LockEvent → Ledger
  | .call who call => ((call.perform (client who.login)).outcome ledger).2
  | .tick time => { ledger with service := { ledger.service with clock := time } }

/-- The ledger after some events. -/
def run (ledger : Ledger) (events : List LockEvent) : Ledger := events.foldl step ledger

/-- A client of the ledger does the same as one of the service. -/
theorem mirrors_client (owner : String) :
    (client owner).Mirrors (Service.client owner) fun ledger s => ledger.service = s :=
  { (Service.client owner).mirrors_onPart fun _ _ => rfl with
    lock := by
      rintro path ref ledger _ rfl
      exact ⟨rfl, rfl⟩ }

/-- A call has the answer and the effect on the service that it has without a ledger. -/
theorem perform_client (owner : String) (call : LockCall) (ledger : Ledger) :
    ((call.perform (client owner)).outcome ledger).1 =
        ((call.perform (Service.client owner)).outcome ledger.service).1 ∧
      ((call.perform (client owner)).outcome ledger).2.service =
        ((call.perform (Service.client owner)).outcome ledger.service).2 :=
  (mirrors_client owner).matches_perform call ledger ledger.service rfl

/-- Keeping a ledger changes nothing for the service. -/
theorem service_run (ledger : Ledger) (events : List LockEvent) :
    (ledger.run events).service = ledger.service.run events := by
  induction events generalizing ledger with
  | nil => rfl
  | cons event rest ih =>
    -- Keeping the ledger does not change what a call does.
    have first : (ledger.step event).service = ledger.service.step event := by
      cases event with
      | call who call => exact (perform_client who.login call ledger).2
      | tick time => rfl
    rw [run, List.foldl_cons, ← run, ih, first]
    rfl

/-! ### The invariant -/

/-- Locks are kept under the path that they name; the grants are numbered, and the locks in the
    table are among them, no two with the same id. -/
structure Sound (ledger : Ledger) : Prop where
  path : ∀ key lock, ledger.service.locks.get? key = some lock → lock.path = key.path
  numbered : ledger.granted.map (·.id) =
    (List.range ledger.service.lastLock).map fun n => toString (n + 1)
  granted : ∀ key lock, ledger.service.locks.get? key = some lock → lock ∈ ledger.granted
  distinct : ∀ key key' lock lock', ledger.service.locks.get? key = some lock →
    ledger.service.locks.get? key' = some lock' → lock.id = lock'.id → key = key'

variable {ledger : Ledger}

/-- A service that has made no lock yet. -/
theorem sound_new {start : Service} (empty : start.locks = .empty) (unused : start.lastLock = 0) :
    Sound ⟨start, []⟩ := by
  -- In a table that is empty there is nothing to check.
  have absent (key : LockKey) (lock : Api.Lock) : start.locks.get? key ≠ some lock := by
    rw [empty]
    nofun
  constructor
  case path => exact fun key lock found => absurd found (absent key lock)
  case numbered =>
    show [] = (List.range start.lastLock).map fun n => toString (n + 1)
    rw [unused]
    rfl
  case granted => exact fun key lock found => absurd found (absent key lock)
  case distinct => exact fun key _ lock _ found => absurd found (absent key lock)

theorem sound_empty : Sound {} := sound_new rfl rfl

namespace Sound

/-- The id of a granted lock is one of the numbers that were used. -/
theorem exists_number (h : ledger.Sound) {lock : Api.Lock} (mem : lock ∈ ledger.granted) :
    ∃ n ≤ ledger.service.lastLock, lock.id = toString n := by
  have listed := List.mem_map_of_mem (f := Api.Lock.id) mem
  rw [h.numbered, List.mem_map] at listed
  obtain ⟨n, below, same⟩ := listed
  exact ⟨n + 1, List.mem_range.1 below, same.symm⟩

/-- A number that was not used yet is the id of no granted lock. -/
theorem ne_later (h : ledger.Sound) {lock : Api.Lock} (mem : lock ∈ ledger.granted) {n : Nat}
    (later : ledger.service.lastLock < n) : lock.id ≠ toString n := by
  intro same
  obtain ⟨m, bound, used⟩ := h.exists_number mem
  have clash := Text.Decimal.toString_injective (used.symm.trans same)
  omega

/-- A lock with the next number, on what has no lock. -/
theorem grant (h : ledger.Sound) {key : LockKey} {made : Api.Lock}
    (absent : ledger.service.locks.get? key = none) (path : made.path = key.path)
    (id : made.id = toString (ledger.service.lastLock + 1)) :
    Sound ⟨{ ledger.service with
      locks := ledger.service.locks.insert key made
      lastLock := ledger.service.lastLock + 1 }, ledger.granted ++ [made]⟩ := by
  -- What is found afterwards is the new lock, or was found before.
  have look (other : LockKey) (lock : Api.Lock)
      (found : (ledger.service.locks.insert key made).get? other = some lock) :
      other = key ∧ lock = made ∨ ledger.service.locks.get? other = some lock := by
    by_cases same : other = key
    · subst same
      rw [SortedMap.get?_insert_self] at found
      exact .inl ⟨rfl, (Option.some.inj found).symm⟩
    · rw [SortedMap.get?_insert_of_ne _ same] at found
      exact .inr found
  -- No lock held has the new number, as all of them have smaller ones.
  have new (other : LockKey) (lock : Api.Lock)
      (found : ledger.service.locks.get? other = some lock) : lock.id ≠ made.id :=
    fun same => h.ne_later (h.granted other lock found) (Nat.lt_succ_self _) (same.trans id)
  constructor
  case path =>
    intro other lock found
    obtain ⟨rfl, rfl⟩ | found := look other lock found
    · exact path
    · exact h.path other lock found
  case numbered =>
    rw [List.range_succ, List.map_append, List.map_append, h.numbered, List.map_singleton,
      List.map_singleton, id]
  case granted =>
    intro other lock found
    obtain ⟨-, rfl⟩ | found := look other lock found
    · exact List.mem_append_right _ List.mem_cons_self
    · exact List.mem_append_left _ (h.granted other lock found)
  case distinct =>
    intro one two lock lock' found found' same
    obtain ⟨rfl, rfl⟩ | old := look one lock found <;>
      obtain ⟨rfl, rfl⟩ | old' := look two lock' found'
    · rfl
    · exact absurd same.symm (new two lock' old')
    · exact absurd same (new one lock old)
    · exact h.distinct one two lock lock' old old' same

/-- One lock less. -/
theorem remove (h : ledger.Sound) (key : LockKey) :
    Sound { ledger with
      service := { ledger.service with locks := ledger.service.locks.erase key } } := by
  -- What is found after the removal was there before it.
  have look (other : LockKey) (lock : Api.Lock)
      (found : (ledger.service.locks.erase key).get? other = some lock) :
      ledger.service.locks.get? other = some lock := by
    by_cases same : other = key
    · rw [same, SortedMap.get?_erase_self] at found
      cases found
    · rwa [SortedMap.get?_erase_of_ne _ same] at found
  constructor
  case path => exact fun other lock found => h.path other lock (look other lock found)
  case numbered => exact h.numbered
  case granted => exact fun other lock found => h.granted other lock (look other lock found)
  case distinct =>
    exact fun one two lock lock' found found' =>
      h.distinct one two lock lock' (look one lock found) (look two lock' found')

/-- Single calls keep the invariant. -/
theorem upholds_client (owner : String) : (client owner).Upholds Sound True fun _ => True where
  lock path ref := by
    intro ledger h
    refine ⟨?_, fun _ _ => trivial⟩
    show Sound ⟨(ledger.service.lock owner path ref).2,
      ledger.granted ++ (ledger.service.lock owner path ref).1.toOption.toList⟩
    obtain ⟨held, -, outcome⟩ | ⟨absent, made, rfl, outcome⟩ :=
      ledger.service.lock_cases owner path ref
    -- A lock in the way is reported, and nothing is granted.
    · rw [outcome]
      show Sound ⟨ledger.service, ledger.granted ++ []⟩
      rwa [List.append_nil]
    · rw [outcome]
      exact h.grant absent rfl rfl
  unlock id force ref _ := by
    intro ledger h
    refine ⟨?_, fun _ _ => trivial⟩
    show Sound ⟨(ledger.service.unlock owner id force ref).2, ledger.granted⟩
    obtain same | ⟨key, held, -, -, removed⟩ :=
      ledger.service.unlock_cases owner id force ref
    · rwa [same]
    -- What is left after a removal was there before.
    · rw [removed]
      exact h.remove key
  listLocks path id ref := fun _ h => ⟨h, fun _ _ => trivial⟩
  verifyLocks ref := fun _ h => ⟨h, fun _ _ => trivial⟩

/-- Every event keeps the invariant. -/
theorem step (h : ledger.Sound) (event : LockEvent) : (ledger.step event).Sound := by
  cases event with
  | call who call =>
    exact ((upholds_client who.login).keeps_perform (fun _ => trivial) ledger h).1
  | tick time => exact ⟨h.path, h.numbered, h.granted, h.distinct⟩

/-- Lock events keep a ledger sound. -/
theorem run (h : ledger.Sound) (events : List LockEvent) : (ledger.run events).Sound := by
  induction events generalizing ledger with
  | nil => exact h
  | cons event rest ih => exact ih (h.step event)

/-- No two locks that were ever granted have the same id. -/
theorem nodup_granted (h : ledger.Sound) : (ledger.granted.map (·.id)).Nodup := by
  rw [h.numbered, List.Nodup, List.pairwise_map]
  exact List.nodup_range.imp fun ne same => ne (Nat.succ.inj (Text.Decimal.toString_injective same))

/-- What is granted next has an id of its own. -/
theorem id_notMem (h : ledger.Sound) (owner path : String) (ref : Option Api.Ref)
    (lock : Api.Lock) (made : (ledger.service.lock owner path ref).1 = .ok lock) :
    lock.id ∉ ledger.granted.map (·.id) := by
  obtain ⟨held, -, outcome⟩ | ⟨-, _, rfl, outcome⟩ := ledger.service.lock_cases owner path ref
  · rw [outcome] at made
    cases made
  · rw [outcome] at made
    cases made
    intro mem
    obtain ⟨old, mem, same⟩ := List.mem_map.1 mem
    exact h.ne_later mem (Nat.lt_succ_self _) same

/-- No two locks in the table have the same id. -/
theorem nodup_live (h : ledger.Sound) : (ledger.service.locks.values.map (·.id)).Nodup := by
  -- Equal ids would mean equal keys, and keys do not repeat.
  have keys := ledger.service.locks.nodup_keys
  rw [SortedMap.keys, List.Nodup, List.pairwise_map] at keys
  rw [SortedMap.values, List.map_map, List.Nodup, List.pairwise_map]
  refine keys.imp_of_mem fun {one two} mem mem' ne same => ne ?_
  exact h.distinct one.1 two.1 one.2 two.2 (SortedMap.mem_toList_iff.1 mem)
    (SortedMap.mem_toList_iff.1 mem') same

end Sound

/-- The invariant in every state that a service reaches which started without locks. -/
theorem sound_run {start : Service} (empty : start.locks = .empty) (unused : start.lastLock = 0)
    (events : List LockEvent) :
    Sound ⟨start.run events, ((Ledger.mk start []).run events).granted⟩ := by
  have sound := (sound_new empty unused).run events
  have same : ((Ledger.mk start []).run events).service = start.run events := service_run _ events
  rwa [← same]

end Ledger

/-- What is promised of the lock table and of the ids of locks. -/
structure Ledger.Orderly (ledger : Ledger) : Prop where
  /-- Every lock is kept under the path that it names. -/
  path : ∀ key lock, ledger.service.locks.get? key = some lock → lock.path = key.path
  /-- There is at most one entry for a path in a scope. -/
  single : ledger.service.locks.keys.Nodup
  /-- The locks in the table have distinct ids, whatever their scopes. -/
  distinct : (ledger.service.locks.values.map (·.id)).Nodup
  /-- Their ids are numbers up to the number of locks made. -/
  bounded : ∀ lock ∈ ledger.service.locks.values,
    ∃ n ≤ ledger.service.lastLock, lock.id = toString n
  /-- They are among the locks granted. -/
  granted : ∀ lock ∈ ledger.service.locks.values, lock ∈ ledger.granted
  /-- No id was ever granted twice. -/
  fresh : (ledger.granted.map (·.id)).Nodup
  /-- Nor will the next grant be of an id that was granted before. -/
  next : ∀ owner path ref lock, (ledger.service.lock owner path ref).1 = .ok lock →
    lock.id ∉ ledger.granted.map (·.id)
  /-- There is a next grant for every path that has no lock in the scope. -/
  free : ∀ owner path ref, ledger.service.locks.get? ⟨ref.map (·.name), path⟩ = none →
    ∃ lock, (ledger.service.lock owner path ref).1 = .ok lock ∧
      (ledger.service.lock owner path ref).2.locks.get? ⟨ref.map (·.name), path⟩ = some lock

/-- In a sound ledger identifiers are given out in increasing order and never twice. -/
theorem Ledger.Sound.orderly {ledger : Ledger} (h : ledger.Sound) : ledger.Orderly := by
  -- A lock in the table was granted at some time, so what holds of those holds of it.
  have live (lock : Api.Lock) (mem : lock ∈ ledger.service.locks.values) :
      lock ∈ ledger.granted := by
    obtain ⟨⟨key, lock⟩, entry, rfl⟩ := List.mem_map.1 mem
    exact h.granted key lock (SortedMap.mem_toList_iff.1 entry)
  exact {
    path := h.path
    single := ledger.service.locks.nodup_keys
    distinct := h.nodup_live
    bounded := fun lock mem => h.exists_number (live lock mem)
    granted := live
    fresh := h.nodup_granted
    next := h.id_notMem
    free := fun owner path ref absent => ledger.service.exists_lock owner absent }

/-- Whatever is asked of a new service about locks, by whom and in which scopes ever: its lock
    table is in order at any time, and an id that was granted once is granted to no other lock,
    not even after the first was removed or stolen. -/
theorem lock_ids_never_reused (events : List LockEvent) :
    (Ledger.run {} events).service = Service.run {} events ∧ (Ledger.run {} events).Orderly :=
  ⟨Ledger.service_run {} events, (Ledger.sound_empty.run events).orderly⟩

example : (Ledger.run {} [.call (.user "alice") (.lock "/a" none),
    .call (.user "bob") (.acquireAll none true [⟨"/a"⟩])]).granted.map (·.id) = ["1", "2"] := by
  decide

end LargeFiles.Remote
