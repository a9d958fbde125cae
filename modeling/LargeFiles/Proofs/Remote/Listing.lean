import LargeFiles.Proofs.Bytes.Order
import LargeFiles.Proofs.Remote.Readers
import LargeFiles.Proofs.Remote.Release

/-!
# Listings of locks

The lock table is ordered by its keys, and a listing looks at the locks.  As every lock is kept
under the path that it names, whatever has happened to the service, a listing shows the locks of a
scope in the order of the paths that stand in them, and none of them twice.

* `Service.SameLocks`              objects are no concern of the lock table;
* `Service.exists_sound_later`     the table is in order in every reachable state;
* `Service.pairwise_live`          the locks of a scope, by the bytes of their paths;
* `Service.lists_listLocks`        what a listing shows;
* `listings_show_live_locks`       listings and verifications in every reachable state.
-/

namespace LargeFiles.Remote

namespace Service

variable {s t : Service} {granted : List Api.Lock}

/-! ### Reachable states -/

/-- Two states that differ in their objects at most have the same locks. -/
structure SameLocks (s t : Service) : Prop where
  locks : t.locks = s.locks
  count : t.lastLock = s.lastLock

theorem SameLocks.refl (s : Service) : s.SameLocks s := ⟨rfl, rfl⟩

/-- The invariant is about the locks only. -/
theorem SameLocks.sound (same : s.SameLocks t) (sound : Ledger.Sound ⟨s, granted⟩) :
    Ledger.Sound ⟨t, granted⟩ := by
  obtain ⟨path, numbered, member, distinct⟩ := sound
  constructor
  · rwa [same.locks]
  · rwa [same.count]
  · rwa [same.locks]
  · rwa [same.locks]

/-- Uploading an object leaves the locks alone. -/
theorem sameLocks_putObject (s : Service) (who : Principal) (source : Source) (hash : String)
    (size : UInt64) :
    s.SameLocks ((provider.putObject who source hash size).outcome s).2 := by
  obtain same | ⟨content, -, -, -, stored⟩ := s.snd_putObject_cases who source hash size
  · rw [same]
    exact .refl s
  · rw [stored]
    exact ⟨rfl, rfl⟩

/-- Storing objects leaves the locks alone. -/
theorem sameLocks_store (s : Service) (event : StorageEvent) : s.SameLocks (s.store event) := by
  cases event with
  | insert content => exact ⟨rfl, rfl⟩
  | upload who source hash size => exact s.sameLocks_putObject who source hash size
  | commit writer =>
    obtain same | ⟨source, hash, size, uploaded⟩ := writer.snd_finish_cases provider s
    · rw [store, same]
      exact .refl s
    · rw [store, uploaded]
      exact s.sameLocks_putObject writer.who source hash size
  | refuse hash error => exact ⟨rfl, rfl⟩
  | setEmptyBatches on => exact ⟨rfl, rfl⟩

/-- A transfer leaves the locks alone. -/
theorem sameLocks_transfer (s : Service) (source : Source) (object : Api.ObjectMeta)
    (links : Api.Links) : s.SameLocks (s.putObject source object links).2 := by
  obtain same | ⟨content, -, inserted⟩ := s.snd_transfer_cases source object links
  · rw [same]
    exact .refl s
  · rw [inserted]
    exact ⟨rfl, rfl⟩

/-- Every event keeps the lock table in order. -/
theorem exists_sound_next (sound : Ledger.Sound ⟨s, granted⟩) (event : ServiceEvent) :
    ∃ granted', Ledger.Sound ⟨s.next event, granted'⟩ := by
  cases event with
  | objects event => exact ⟨granted, (s.sameLocks_store event).sound sound⟩
  -- A call for locks takes the ledger one step further.
  | locks event =>
    have same : ((Ledger.mk s granted).step event).service = s.step event :=
      Ledger.service_run ⟨s, granted⟩ [event]
    refine ⟨((Ledger.mk s granted).step event).granted, ?_⟩
    have after := sound.step event
    rwa [next, ← same]
  | transfer who source object links =>
    exact ⟨granted, (s.sameLocks_transfer source object links).sound sound⟩
  | invalidate who =>
    have same : s.SameLocks (s.next (.invalidate who)) := ⟨rfl, rfl⟩
    exact ⟨granted, same.sound sound⟩

/-- The lock table is in order in every reachable state. -/
theorem exists_sound_later (events : List ServiceEvent) :
    ∃ granted, Ledger.Sound ⟨later {} events, granted⟩ := by
  have run (s : Service) (granted : List Api.Lock) (sound : Ledger.Sound ⟨s, granted⟩) :
      ∃ granted', Ledger.Sound ⟨s.later events, granted'⟩ := by
    induction events generalizing s granted with
    | nil => exact ⟨granted, sound⟩
    | cons event rest ih =>
      obtain ⟨granted', after⟩ := exists_sound_next sound event
      exact ih (s.next event) granted' after
  exact run {} [] Ledger.sound_empty

/-! ### Listings -/

/-- The locks of a scope are in the order of the bytes of their paths. -/
theorem pairwise_live (sound : Ledger.Sound ⟨s, granted⟩) (scope : Option String) :
    (s.live scope).Pairwise fun a b => Bytes.ofString a.path < Bytes.ofString b.path := by
  rw [live, List.pairwise_map]
  refine (s.locks.ascending.filter _).imp_of_mem fun {one two} mem mem' less => ?_
  obtain ⟨entry, within⟩ := List.mem_filter.1 mem
  obtain ⟨entry', within'⟩ := List.mem_filter.1 mem'
  rw [sound.path _ _ (SortedMap.mem_toList_iff.1 entry),
    sound.path _ _ (SortedMap.mem_toList_iff.1 entry'), ← Bytes.compare_eq_lt_iff]
  -- Within a scope the keys are compared by their paths.
  have scopes : one.1.scope = two.1.scope := (beq_iff_eq.1 within).trans (beq_iff_eq.1 within').symm
  have keys : (compare one.1.scope two.1.scope).then (compare one.1.path two.1.path) = .lt := less
  rwa [scopes, Std.ReflOrd.compare_self, Ordering.eq_then] at keys

/-- Whether a lock is on a path and has an id, where these are given. -/
def asked (path id : Option String) (lock : Api.Lock) : Bool :=
  path.all (lock.path == ·) && id.all (lock.id == ·)

/-- A lock is asked for if it has the path and the identifier that are given. -/
theorem asked_eq_true_iff {path id : Option String} {lock : Api.Lock} :
    asked path id lock = true ↔ (∀ p ∈ path, lock.path = p) ∧ ∀ i ∈ id, lock.id = i := by
  rw [asked, Bool.and_eq_true]
  cases path <;> cases id <;> simp

/-- The listing has those live locks of the scope that are asked for. -/
theorem listLocks_eq_filter (s : Service) (branch : Option Branch) (path id : Option String) :
    s.listLocks path id (branch.map (·.toRef)) =
      (s.live (scopeOf branch)).filter (asked path id) := by
  rw [listLocks, name_toRef]
  rfl

/-- A listing of the locks of a scope, of those on a path and with an id where these are given. -/
structure Lists (s : Service) (scope path id : Option String) (listed : List Api.Lock) : Prop where
  /-- It shows the live locks that are asked for, and nothing else. -/
  mem : ∀ lock, lock ∈ listed ↔
    (∃ path, s.locks.get? ⟨scope, path⟩ = some lock) ∧ (∀ p ∈ path, lock.path = p) ∧
      ∀ i ∈ id, lock.id = i
  /-- It shows none of them twice. -/
  once : listed.Nodup
  /-- Their paths are in ascending order of their bytes. -/
  ascending : listed.Pairwise fun a b => Bytes.ofString a.path < Bytes.ofString b.path

/-- The listing has every lock that is asked for once, and no other. -/
theorem lists_listLocks (sound : Ledger.Sound ⟨s, granted⟩) (branch : Option Branch)
    (path id : Option String) :
    s.Lists (scopeOf branch) path id (s.listLocks path id (branch.map (·.toRef))) := by
  rw [listLocks_eq_filter]
  have ascending := (pairwise_live sound (scopeOf branch)).filter (asked path id)
  refine ⟨fun lock => ?_, ascending.imp fun less same => ?_, ascending⟩
  -- A lock of the scope lies on its own path, as the ledger is sound.
  · have held : s.Holds (scopeOf branch) lock ↔
        ∃ path, s.locks.get? ⟨scopeOf branch, path⟩ = some lock := by
      refine ⟨fun held => ⟨_, held⟩, fun ⟨path, found⟩ => ?_⟩
      rw [Holds, sound.path _ _ found]
      exact found
    rw [List.mem_filter, mem_live_iff sound, held, asked_eq_true_iff]
  · exact List.lt_irrefl _ (same ▸ less)

/-! ### Verification -/

/-- A description tells whose the lock is. -/
theorem owner_ofLock_beq (branch : Option Branch) (lock : Api.Lock) (owner : String) :
    ((LockDescription.ofLock branch lock).owner == some owner) = isOwnedBy owner lock := by
  rw [LockDescription.ofLock, isOwnedBy]
  cases lock.owner with
  | none => rfl
  | some holder => rfl

end Service

/-- Whatever has happened to the service, a listing for anybody shows exactly the live locks of the
    scope that are asked for, each of them once and in ascending order of the bytes of their paths.
    A verification is made of the listing that nothing else is asked of: ours is what belongs to the
    caller's login name, theirs is the rest, and together they are the whole of it.  Nothing is
    changed by either. -/
theorem listings_show_live_locks (events : List ServiceEvent) (who : Principal)
    (branch : Option Branch) :
    let s := Service.later {} events
    let listing (path id : Option String) :=
      (Service.provider.locks who branch path id).outcome s
    (∀ path id, ∃ listed, s.Lists (scopeOf branch) path id listed ∧
      listing path id = (.ok (listed.map (.ofLock branch)), s)) ∧
    ∃ all ours theirs, listing none none = (.ok all, s) ∧
      (Service.provider.verifyLocks who branch).outcome s = (.ok ⟨ours, theirs⟩, s) ∧
      ours = all.filter (·.owner == some who.login) ∧
      theirs = all.filter (·.owner != some who.login) ∧
      (ours ++ theirs).Perm all := by
  intro s listing
  obtain ⟨granted, sound⟩ := Service.exists_sound_later events
  refine ⟨fun path id => ⟨_, Service.lists_listLocks sound branch path id, rfl⟩,
    _, _, _, rfl, rfl, ?_, ?_, ?_⟩
  · rw [Service.verifyLocks, List.partition_eq_filter_filter, List.filter_map]
    exact congrArg _ (List.filter_congr fun lock _ => (Service.owner_ofLock_beq ..).symm)
  · rw [Service.verifyLocks, List.partition_eq_filter_filter, List.filter_map]
    exact congrArg _ (List.filter_congr fun lock _ =>
      congrArg (!·) (Service.owner_ofLock_beq ..).symm)
  -- The two parts together are the whole listing in another order.
  · rw [Service.verifyLocks, List.partition_eq_filter_filter, ← List.map_append]
    exact (List.filter_append_perm _ _).map _

end LargeFiles.Remote
