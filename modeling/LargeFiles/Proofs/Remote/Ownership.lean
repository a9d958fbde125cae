import LargeFiles.Proofs.Remote.HeldLock

/-!
# Whose locks they are

A lock belongs to the login name of the principal whose call made it.  Principals with different
login names have different locks.  There is one pair of principals with the same login name, the
anonymous one and the user who is called `$anonymous`, and these share their locks.

* `Principal.login_eq_iff`        which principals have the same login name;
* `Service.owner_of_createdBy`    a lock belongs to who made it;
* `locks_belong_to_login`         who does not share the login name cannot remove a lock without
                                  force, and finds it among the locks of others;
* `shared_login_shares_locks`     the pair that shares a login name.
-/

namespace LargeFiles

/-- Different principals have different login names, with one exception. -/
theorem Principal.login_eq_iff {p q : Principal} :
    p.login = q.login ↔ p = q ∨ p = .anonymous ∧ q = .user "$anonymous" ∨
      p = .user "$anonymous" ∧ q = .anonymous := by
  cases p <;> cases q <;> simp [login, eq_comm]

namespace Remote.Service

variable {key : LockKey} {lock : Api.Lock}

/-! ### Who made a lock -/

/-- Somewhere in a run a call of the principal puts the lock into the table. -/
def CreatedBy (start : Service) (events : List LockEvent) (who : Principal) (key : LockKey)
    (lock : Api.Lock) : Prop :=
  ∃ before call, before ++ [.call who call] <+: events ∧
    (start.run before).locks.get? key ≠ some lock ∧
    (start.run (before ++ [.call who call])).locks.get? key = some lock

/-- All locks of the second service are in the first too, or are the owner's. -/
def AddsOwn (s : Service) (owner : String) (t : Service) : Prop :=
  ∀ key lock, t.locks.get? key = some lock →
    s.locks.get? key = some lock ∨ lock.owner = some ⟨owner⟩

/-- Single calls of an owner add locks of the owner only. -/
theorem upholds_client_owner (s : Service) (owner : String) :
    (client owner).Upholds (s.AddsOwn owner) True fun _ => True where
  lock path ref := by
    intro t known
    refine ⟨?_, fun _ _ => trivial⟩
    show s.AddsOwn owner (t.lock owner path ref).2
    obtain ⟨held, -, outcome⟩ | ⟨-, made, rfl, outcome⟩ := t.lock_cases owner path ref
    · rwa [outcome]
    · rw [outcome]
      intro key lock found
      -- The new lock is the caller's own, and all others were there.
      by_cases same : key = ⟨ref.map (·.name), path⟩
      · rw [same, SortedMap.get?_insert_self] at found
        cases found
        exact .inr rfl
      · rw [SortedMap.get?_insert_of_ne _ same] at found
        exact known key lock found
  unlock id force ref _ := by
    intro t known
    refine ⟨?_, fun _ _ => trivial⟩
    show s.AddsOwn owner (t.unlock owner id force ref).2
    obtain same | ⟨removed, held, -, -, after⟩ := t.unlock_cases owner id force ref
    · rwa [same]
    · rw [after]
      intro key lock found
      -- Nothing is found where a lock was removed.
      by_cases same : key = removed
      · rw [same, SortedMap.get?_erase_self] at found
        cases found
      · rw [SortedMap.get?_erase_of_ne _ same] at found
        exact known key lock found
  listLocks path id ref := fun _ known => ⟨known, fun _ _ => trivial⟩
  verifyLocks ref := fun _ known => ⟨known, fun _ _ => trivial⟩

/-- A lock belongs to the login name of the principal whose call made it. -/
theorem owner_of_createdBy {start : Service} {events : List LockEvent} {who : Principal}
    (created : start.CreatedBy events who key lock) : lock.owner = some ⟨who.login⟩ := by
  obtain ⟨before, call, -, absent, present⟩ := created
  rw [run_concat] at present
  have kept : (call.perform (client who.login)).Keeps ((start.run before).AddsOwn who.login) _ :=
    (upholds_client_owner (start.run before) who.login).keeps_perform fun _ => trivial
  have known := (kept (start.run before) fun _ _ found => .inl found).1
  exact (known key lock present).resolve_left absent

/-! ### Verification -/

/-- A lock is owned by the login that it names. -/
theorem isOwnedBy_iff {owner : String} :
    isOwnedBy owner lock = true ↔ lock.owner = some ⟨owner⟩ := by
  cases owned : lock.owner with
  | none => simp [isOwnedBy, owned]
  | some holder =>
    obtain ⟨name⟩ := holder
    simp [isOwnedBy, owned]

/-- Of the listed locks those that name the login are ours. -/
theorem mem_ours_iff (s : Service) (owner : String) (ref : Option Api.Ref) :
    lock ∈ (s.verifyLocks owner ref).ours ↔
      lock ∈ s.listLocks none none ref ∧ lock.owner = some ⟨owner⟩ := by
  rw [verifyLocks, List.partition_eq_filter_filter, List.mem_filter, isOwnedBy_iff]

/-- Of the listed locks those that do not name the login are theirs. -/
theorem mem_theirs_iff (s : Service) (owner : String) (ref : Option Api.Ref) :
    lock ∈ (s.verifyLocks owner ref).theirs ↔
      lock ∈ s.listLocks none none ref ∧ lock.owner ≠ some ⟨owner⟩ := by
  rw [verifyLocks, List.partition_eq_filter_filter, List.mem_filter, Ne, ← isOwnedBy_iff]
  simp

/-- An unfiltered listing shows all locks of the scope. -/
theorem mem_listLocks (s : Service) {ref : Option Api.Ref} (found : s.locks.get? key = some lock)
    (scope : key.scope = ref.map (·.name)) : lock ∈ s.listLocks none none ref := by
  have entry := SortedMap.mem_toList_iff.2 found
  simp only [listLocks, List.mem_filter, List.mem_map]
  exact ⟨⟨(key, lock), ⟨entry, by simp [scope]⟩, rfl⟩, rfl⟩

end Service

/-! ### Principals and their locks -/

/-- What another principal can do about a lock. -/
structure Service.OutOfReach (s : Service) (key : LockKey) (lock : Api.Lock) (who : Principal) :
    Prop where
  /-- No call without force, by path or by id, takes the lock out of the table. -/
  stays : ∀ call : LockCall, call.isForcing = false →
    (s.step (.call who call)).locks.get? key = some lock
  /-- A verification of its scope shows it among the locks of others. -/
  theirs : ∀ branch : Option Branch, branch.map (·.short) = key.scope →
    ∃ verified, (provider.verifyLocks who branch).outcome s = (.ok verified, s) ∧
      .ofLock branch lock ∈ verified.theirs
  /-- No verification shows it among the principal's own. -/
  ours : ∀ branch verified, ((provider.verifyLocks who branch).outcome s).1 = .ok verified →
    .ofLock branch lock ∉ verified.ours

/-- A lock is out of reach for everyone with another login. -/
theorem Service.outOfReach {s : Service} {key : LockKey} {lock : Api.Lock} {owner : String}
    (held : s.locks.get? key = some lock) (owned : lock.owner = some ⟨owner⟩) {who : Principal}
    (ne : who.login ≠ owner) : s.OutOfReach key lock who := by
  -- The lock names another owner than the one who asks.
  have notOwn : lock.owner ≠ some ⟨who.login⟩ := by
    rw [owned]
    rintro ⟨⟩
    exact ne rfl
  constructor
  case stays => exact fun call gentle => (perform_of_ne held owned ne gentle).1
  case theirs =>
    intro branch scope
    refine ⟨_, rfl, List.mem_map_of_mem ((mem_theirs_iff s _ _).2 ⟨?_, notOwn⟩)⟩
    exact s.mem_listLocks held (scope.symm.trans (by cases branch <;> rfl))
  case ours =>
    rintro branch verified ⟨⟩ mem
    obtain ⟨own, listed, same⟩ := List.mem_map.1 mem
    -- A description tells the owner, so it cannot be that of a lock of one's own.
    have name : lock.owner.map (·.name) = own.owner.map (·.name) :=
      (congrArg LockDescription.owner same).symm
    rw [((mem_ours_iff s _ _).1 listed).2, owned] at name
    exact ne (Option.some.inj name).symm

/-- A lock that a call of one principal has made, and that is still held, is out of reach for every
    other principal, the two apart that are called `$anonymous`. -/
theorem locks_belong_to_login {p q : Principal} (ne : p ≠ q)
    (named : ¬ (p = .anonymous ∧ q = .user "$anonymous"))
    (named' : ¬ (p = .user "$anonymous" ∧ q = .anonymous)) {start : Service}
    {events : List LockEvent} {key : LockKey} {lock : Api.Lock}
    (created : start.CreatedBy events p key lock)
    (held : (start.run events).locks.get? key = some lock) :
    (start.run events).OutOfReach key lock q := by
  have apart : q.login ≠ p.login := by
    intro same
    obtain eq | pair | pair := Principal.login_eq_iff.1 same.symm
    · exact ne eq
    · exact named pair
    · exact named' pair
  exact Service.outOfReach held (Service.owner_of_createdBy created) apart

/-- Alice's lock and Bob. -/
theorem locks_belong_to_login_alice :
    let events : List LockEvent := [.call (.user "alice") (.acquireAll none false [⟨"/a"⟩])]
    let lock : Api.Lock := ⟨"1", "/a", some ⟨"alice"⟩, .epoch⟩
    Principal.user "alice" ≠ .user "bob" ∧
      Service.CreatedBy {} events (.user "alice") ⟨none, "/a"⟩ lock ∧
      (Service.run {} events).OutOfReach ⟨none, "/a"⟩ lock (.user "bob") := by
  intro events lock
  have created : Service.CreatedBy {} events (.user "alice") ⟨none, "/a"⟩ lock :=
    ⟨[], _, List.prefix_rfl, by decide, by decide⟩
  exact ⟨by decide, created,
    locks_belong_to_login (by decide) (by decide) (by decide) created (by decide)⟩

/-- The user who is called `$anonymous` removes a lock of the anonymous principal, by its path and
    without force, and finds it among their own. -/
theorem shared_login_shares_locks :
    let events : List LockEvent := [.call .anonymous (.acquireAll none false [⟨"/a"⟩])]
    let s := Service.run {} events
    let lock : Api.Lock := ⟨"1", "/a", some ⟨"$anonymous"⟩, .epoch⟩
    let other : Principal := .user "$anonymous"
    Principal.anonymous ≠ other ∧
      Service.CreatedBy {} events .anonymous ⟨none, "/a"⟩ lock ∧
      s.locks.get? ⟨none, "/a"⟩ = some lock ∧
      (s.step (.call other (.releaseAll none false [⟨"/a", none⟩]))).locks.get? ⟨none, "/a"⟩ =
        none ∧
      ((Service.provider.verifyLocks other none).outcome s).1 =
        .ok ⟨[.ofLock none lock], []⟩ ∧
      ¬ s.OutOfReach ⟨none, "/a"⟩ lock other := by
  intro events s lock other
  -- The user has the login that is sent for nobody.
  have gone : (s.step (.call other (.releaseAll none false [⟨"/a", none⟩]))).locks.get?
      ⟨none, "/a"⟩ = none := by decide
  refine ⟨by decide, ⟨[], _, List.prefix_rfl, by decide, by decide⟩, by decide, gone, rfl, ?_⟩
  intro reach
  cases gone.symm.trans (reach.stays _ rfl)

end Remote

end LargeFiles
