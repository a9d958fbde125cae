import LargeFiles.Proofs.List
import LargeFiles.Proofs.LockDescription
import LargeFiles.Proofs.Remote.Ownership
import LargeFiles.Proofs.Remote.Scope

/-!
# Unlocking several targets

A request to unlock goes through its targets in their order, and looks up what a target means in
the table that the earlier targets have left.  So a lock that is meant twice is removed once.  The
first target that means somebody else's lock ends the request, unless it is made by force.

* `Service.meant?_eq_some_iff`   which lock a target means, if there is one;
* `Service.meantInTurn`          the locks that targets mean one after the other;
* `Service.outcome_release`      a single target;
* `Service.Releases`             how a request ends;
* `releaseAll_removes_meant`     it ends so in every reachable state.
-/

namespace LargeFiles

/-- Whether a target means a lock: with a token the one with this id, without one the one on exactly
    this path. -/
def UnlockTarget.means (target : UnlockTarget) (lock : Api.Lock) : Bool :=
  match target.token with
  | some token => lock.id == token
  | none => lock.path == target.path

namespace Remote

/-- The lock that the first target means is removed, and the others follow unless this fails. -/
theorem Client.outcome_releaseAll_cons {σ : Type} (client : Client σ) (branch : Option Branch)
    (force : Bool) (target : UnlockTarget) (rest : List UnlockTarget) (state : σ) :
    (client.releaseAll branch force (target :: rest)).outcome state =
      match (client.release (branch.map (·.toRef)) force target).outcome state with
      | (.ok lock, next) =>
        let later := (client.releaseAll branch force rest).outcome next
        (later.1.map ((lock.map (.ofLock branch)).toList ++ ·), later.2)
      | (.error error, next) => (.error error, next) := by
  rw [releaseAll, Session.outcome_bind]
  cases released : (client.release (branch.map (·.toRef)) force target).outcome state with
  | mk result next =>
    cases result with
    | error error => rfl
    | ok lock =>
      dsimp only
      rw [Session.outcome_bind]
      rcases (client.releaseAll branch force rest).outcome next with ⟨error | others, last⟩ <;> rfl

namespace Service

variable {s : Service} {scope : Option String} {lock : Api.Lock} {target : UnlockTarget}
  {granted : List Api.Lock}

/-! ### Live locks -/

/-- The lock is in the table, on its path in the scope. -/
def Holds (s : Service) (scope : Option String) (lock : Api.Lock) : Prop :=
  s.locks.get? ⟨scope, lock.path⟩ = some lock

/-- The locks of a scope, in ascending order of their paths. -/
def live (s : Service) (scope : Option String) : List Api.Lock :=
  (s.locks.toList.filter (·.1.scope == scope)).map (·.2)

/-- The live lock of a scope that a target means. -/
def meant? (s : Service) (scope : Option String) (target : UnlockTarget) : Option Api.Lock :=
  (s.live scope).find? target.means

/-- The live locks of a scope are those that are held there. -/
theorem mem_live_iff (sound : Ledger.Sound ⟨s, granted⟩) :
    lock ∈ s.live scope ↔ s.Holds scope lock := by
  simp only [live, List.mem_map, List.mem_filter, Holds]
  constructor
  · rintro ⟨⟨⟨_, path⟩, lock⟩, ⟨mem, same⟩, rfl⟩
    obtain rfl := beq_iff_eq.1 same
    have found := SortedMap.mem_toList_iff.1 mem
    -- The path in the table is that of the lock.
    rwa [sound.path _ _ found]
  · intro found
    have entry := SortedMap.mem_toList_iff.2 found
    exact ⟨(⟨scope, lock.path⟩, lock), ⟨entry, beq_self_eq_true scope⟩, rfl⟩

/-- Held locks on one path are the same. -/
theorem Holds.eq_of_path {other : Api.Lock} (held : s.Holds scope lock)
    (held' : s.Holds scope other) (same : other.path = lock.path) : other = lock := by
  rw [Holds, same, held] at held'
  exact (Option.some.inj held').symm

/-- Held locks with one id are the same. -/
theorem Holds.eq_of_id (sound : Ledger.Sound ⟨s, granted⟩) {other : Api.Lock}
    (held : s.Holds scope lock) (held' : s.Holds scope other) (same : other.id = lock.id) :
    other = lock :=
  held.eq_of_path held' (congrArg LockKey.path (sound.distinct _ _ _ _ held' held same))

/-- A target means at most one held lock. -/
theorem Holds.eq_of_means (sound : Ledger.Sound ⟨s, granted⟩) {other : Api.Lock}
    (held : s.Holds scope lock) (means : target.means lock = true) (held' : s.Holds scope other)
    (means' : target.means other = true) : other = lock := by
  obtain ⟨path, token⟩ := target
  cases token with
  | some token =>
    exact held.eq_of_id sound held' ((beq_iff_eq.1 means').trans (beq_iff_eq.1 means).symm)
  | none => exact held.eq_of_path held' ((beq_iff_eq.1 means').trans (beq_iff_eq.1 means).symm)

/-- A target means the lock of the scope that is held and has the token, or the path. -/
theorem meant?_eq_some_iff (sound : Ledger.Sound ⟨s, granted⟩) :
    s.meant? scope target = some lock ↔ s.Holds scope lock ∧ target.means lock = true := by
  constructor
  · intro found
    exact ⟨(mem_live_iff sound).1 (List.mem_of_find?_eq_some found), List.find?_some found⟩
  · rintro ⟨held, means⟩
    refine find?_of_unique ((mem_live_iff sound).2 held) means fun other mem means' => ?_
    exact held.eq_of_means sound means ((mem_live_iff sound).1 mem) means'

theorem meant?_eq_none_iff (sound : Ledger.Sound ⟨s, granted⟩) :
    s.meant? scope target = none ↔ ∀ lock, s.Holds scope lock → target.means lock = false := by
  simp only [meant?, List.find?_eq_none, mem_live_iff sound, Bool.not_eq_true]

/-! ### Fewer locks -/

/-- The service without some locks of a scope. -/
def without (s : Service) (scope : Option String) (locks : List Api.Lock) : Service :=
  { s with locks := locks.foldl (fun table lock => table.erase ⟨scope, lock.path⟩) s.locks }

theorem without_cons (s : Service) (scope : Option String) (lock : Api.Lock)
    (locks : List Api.Lock) :
    s.without scope (lock :: locks) = (s.without scope [lock]).without scope locks := rfl

/-- What is left is what was there, but for what is on the paths of the locks. -/
theorem get?_without_eq_some_iff {key : LockKey} {locks : List Api.Lock} :
    (s.without scope locks).locks.get? key = some lock ↔
      s.locks.get? key = some lock ∧ ∀ gone ∈ locks, key ≠ ⟨scope, gone.path⟩ := by
  induction locks generalizing s with
  | nil => simp [without]
  | cons first rest ih =>
    rw [without_cons, ih, List.forall_mem_cons, ← and_assoc]
    refine and_congr_left fun _ => ?_
    show (s.locks.erase _).get? key = some lock ↔ _
    -- Nothing is found where the first lock was, and elsewhere its removal does not count.
    by_cases same : key = ⟨scope, first.path⟩
    · simp [same]
    · simp [SortedMap.get?_erase_of_ne _ same, same]

/-- The locks that are left are those that were held and not removed. -/
theorem holds_without_iff {locks : List Api.Lock} (gone : ∀ lock ∈ locks, s.Holds scope lock) :
    (s.without scope locks).Holds scope lock ↔ s.Holds scope lock ∧ lock ∉ locks := by
  rw [Holds, get?_without_eq_some_iff, ← Holds]
  refine and_congr_right fun held => ⟨fun apart mem => apart lock mem rfl, ?_⟩
  intro apart other mem same
  exact apart (held.eq_of_path (gone other mem) (congrArg LockKey.path same).symm ▸ mem)

/-- Removing locks keeps the ledger sound. -/
theorem sound_without (sound : Ledger.Sound ⟨s, granted⟩) (scope : Option String)
    (locks : List Api.Lock) : Ledger.Sound ⟨s.without scope locks, granted⟩ := by
  induction locks generalizing s with
  | nil => exact sound
  | cons lock rest ih => exact ih (s := s.without scope [lock]) (sound.remove ⟨scope, lock.path⟩)

/-- When some locks are gone, targets mean what they meant, or one of these. -/
theorem meant?_without_eq_some_iff (sound : Ledger.Sound ⟨s, granted⟩) {locks : List Api.Lock}
    (gone : ∀ lock ∈ locks, s.Holds scope lock) :
    (s.without scope locks).meant? scope target = some lock ↔
      s.meant? scope target = some lock ∧ lock ∉ locks := by
  rw [meant?_eq_some_iff (sound_without sound scope locks), meant?_eq_some_iff sound,
    holds_without_iff gone, and_right_comm]

/-! ### Targets in a row -/

/-- The locks of a scope that targets mean one after the other.  A lock is gone when the next target
    is looked up; a target that means none is passed over. -/
def meantInTurn (s : Service) (scope : Option String) : List UnlockTarget → List Api.Lock
  | [] => []
  | target :: rest =>
    match s.meant? scope target with
    | some lock => lock :: (s.without scope [lock]).meantInTurn scope rest
    | none => s.meantInTurn scope rest

/-- A lock that is meant is gone for the targets after it. -/
theorem meantInTurn_of_some (found : s.meant? scope target = some lock)
    (rest : List UnlockTarget) :
    s.meantInTurn scope (target :: rest) =
      lock :: (s.without scope [lock]).meantInTurn scope rest := by
  rw [meantInTurn, found]

theorem meantInTurn_of_none (absent : s.meant? scope target = none) (rest : List UnlockTarget) :
    s.meantInTurn scope (target :: rest) = s.meantInTurn scope rest := by
  rw [meantInTurn, absent]

/-- The locks that are met are held from the start. -/
theorem holds_of_mem_meantInTurn (sound : Ledger.Sound ⟨s, granted⟩) {targets : List UnlockTarget}
    (mem : lock ∈ s.meantInTurn scope targets) : s.Holds scope lock := by
  induction targets generalizing s with
  | nil => cases mem
  | cons target rest ih =>
    cases found : s.meant? scope target with
    | none =>
      rw [meantInTurn_of_none found] at mem
      exact ih sound mem
    | some first =>
      have held := ((meant?_eq_some_iff sound).1 found).1
      rw [meantInTurn_of_some found] at mem
      -- What is meant later is held after the removal, so it was held before.
      obtain rfl | later := List.mem_cons.1 mem
      · exact held
      · have left := ih (sound_without sound scope [first]) later
        exact ((holds_without_iff (List.forall_mem_singleton.2 held)).1 left).1

/-- No lock is met twice. -/
theorem nodup_meantInTurn (sound : Ledger.Sound ⟨s, granted⟩) (targets : List UnlockTarget) :
    ((s.meantInTurn scope targets).map (·.id)).Nodup := by
  induction targets generalizing s with
  | nil => exact .nil
  | cons target rest ih =>
    cases found : s.meant? scope target with
    | none =>
      rw [meantInTurn_of_none found]
      exact ih sound
    | some first =>
      have held := ((meant?_eq_some_iff sound).1 found).1
      have after := sound_without sound scope [first]
      rw [meantInTurn_of_some found, List.map_cons, List.nodup_cons]
      refine ⟨fun again => ?_, ih after⟩
      -- A later lock with the id of the first would be the first, but that is gone by then.
      obtain ⟨other, mem, same⟩ := List.mem_map.1 again
      obtain ⟨held', apart⟩ := (holds_without_iff (List.forall_mem_singleton.2 held)).1
        (holds_of_mem_meantInTurn after mem)
      exact apart (List.mem_singleton.2 (held.eq_of_id sound held' same))

/-- The locks that are met are those that the targets mean in the table as it is at first. -/
theorem mem_meantInTurn_iff (sound : Ledger.Sound ⟨s, granted⟩) {targets : List UnlockTarget} :
    lock ∈ s.meantInTurn scope targets ↔ ∃ target ∈ targets, s.meant? scope target = some lock := by
  induction targets generalizing s with
  | nil => simp [meantInTurn]
  | cons target rest ih =>
    rw [List.exists_mem_cons_iff]
    cases found : s.meant? scope target with
    | none => simp [meantInTurn_of_none found, ih sound]
    | some first =>
      have held := ((meant?_eq_some_iff sound).1 found).1
      rw [meantInTurn_of_some found, List.mem_cons, ih (sound_without sound scope [first])]
      -- Without the first lock, later targets mean what they meant, unless they mean this lock.
      simp only [meant?_without_eq_some_iff sound (List.forall_mem_singleton.2 held),
        List.mem_singleton, Option.some_inj]
      by_cases same : lock = first
      · simp [same]
      · simp [same, Ne.symm same]

/-! ### Single removals -/

/-- The lock may be removed: by force, or because it is the owner's. -/
def MayRemove (owner : String) (force : Bool) (lock : Api.Lock) : Prop :=
  force = true ∨ lock.owner = some ⟨owner⟩

/-- The answer to the removal of somebody else's lock. -/
def foreignLock (id : String) : RemoteError :=
  .api ("locks/" ++ id ++ "/unlock") 403 ("lock " ++ id ++ " is owned by another user")

variable {branch : Option Branch} {owner : String} {force : Bool}

/-- A lock may be removed by its owner or by force, which is what the service checks. -/
theorem mayRemove_iff : MayRemove owner force lock ↔ (isOwnedBy owner lock || force) = true := by
  rw [MayRemove, Bool.or_eq_true, isOwnedBy_iff, or_comm]

/-- A held lock is found by its id. -/
theorem find?_id_of_holds (sound : Ledger.Sound ⟨s, granted⟩) (held : s.Holds scope lock) :
    (s.locks.toList.find? fun entry => entry.1.scope == scope && entry.2.id == lock.id) =
      some (⟨scope, lock.path⟩, lock) := by
  refine find?_of_unique (SortedMap.mem_toList_iff.2 held) (by simp) ?_
  rintro ⟨key, other⟩ mem same
  simp only [Bool.and_eq_true, beq_iff_eq] at same
  have found := SortedMap.mem_toList_iff.1 mem
  obtain rfl := sound.distinct key ⟨scope, lock.path⟩ other lock found held same.2
  rw [Holds, found] at held
  rw [Option.some.inj held]

/-- A lock that may be removed is removed and returned. -/
theorem unlock_of_mayRemove (sound : Ledger.Sound ⟨s, granted⟩)
    (held : s.Holds (scopeOf branch) lock) (may : MayRemove owner force lock) :
    s.unlock owner lock.id force (branch.map (·.toRef)) =
      (.ok (some lock), s.without (scopeOf branch) [lock]) := by
  simp only [unlock, name_toRef, find?_id_of_holds sound held, mayRemove_iff.1 may]
  rfl

/-- Somebody else's lock is refused, and the service stays as it is. -/
theorem unlock_of_not_mayRemove (sound : Ledger.Sound ⟨s, granted⟩)
    (held : s.Holds (scopeOf branch) lock) (foreign : ¬ MayRemove owner force lock) :
    s.unlock owner lock.id force (branch.map (·.toRef)) = (.error (foreignLock lock.id), s) := by
  rw [mayRemove_iff, Bool.not_eq_true] at foreign
  simp only [unlock, name_toRef, find?_id_of_holds sound held, foreign]
  rfl

/-- An identifier that no lock of the scope has removes nothing. -/
theorem unlock_of_unknown (sound : Ledger.Sound ⟨s, granted⟩) {id : String}
    (unknown : ∀ lock, s.Holds (scopeOf branch) lock → lock.id ≠ id) :
    s.unlock owner id force (branch.map (·.toRef)) = (.ok none, s) := by
  have absent : (s.locks.toList.filter (·.1.scope == scopeOf branch)).find? (·.2.id == id) =
      none := by
    refine List.find?_eq_none.2 fun entry mem same => ?_
    exact unknown entry.2 ((mem_live_iff sound).1 (List.mem_map_of_mem mem)) (beq_iff_eq.1 same)
  rw [unlock, find?_unlock, absent]

/-- What is listed for a path is the live lock on it. -/
theorem listLocks_path (s : Service) (path : String) (branch : Option Branch) :
    s.listLocks (some path) none (branch.map (·.toRef)) =
      (s.live (scopeOf branch)).filter (·.path == path) := by
  rw [listLocks, name_toRef, live]
  simp

/-- A target stands for the id of the lock that it means. -/
theorem outcome_release (sound : Ledger.Sound ⟨s, granted⟩) (owner : String)
    (branch : Option Branch) (force : Bool) (target : UnlockTarget) :
    ((client owner).release (branch.map (·.toRef)) force target).outcome s =
      match s.meant? (scopeOf branch) target with
      | some lock => s.unlock owner lock.id force (branch.map (·.toRef))
      | none => (.ok none, s) := by
  obtain ⟨path, token⟩ := target
  cases token with
  | some token =>
    -- A token goes to the service unseen, which answers the same if it knows no such lock.
    show s.unlock owner token force _ = _
    cases found : s.meant? (scopeOf branch) ⟨path, some token⟩ with
    | some lock =>
      obtain rfl : lock.id = token := beq_iff_eq.1 ((meant?_eq_some_iff sound).1 found).2
      rfl
    | none =>
      refine unlock_of_unknown sound fun lock held same => ?_
      have other := (meant?_eq_none_iff sound).1 found lock held
      simp [UnlockTarget.means, same] at other
  | none =>
    have listed : ((client owner).listLocks (some path) none (branch.map (·.toRef))).outcome s =
        (.ok ((s.live (scopeOf branch)).filter (·.path == path)), s) := by
      rw [← listLocks_path]
      rfl
    -- A path is looked up in a listing, whose first lock is the one meant.
    have meant : s.meant? (scopeOf branch) ⟨path, none⟩ =
        ((s.live (scopeOf branch)).filter (·.path == path)).head? := List.head?_filter.symm
    simp only [Client.release, Client.resolve, Session.outcome_bind, listed, meant]
    cases shown : (s.live (scopeOf branch)).filter (·.path == path) with
    | nil => rfl
    | cons lock _ =>
      have mem : lock ∈ (s.live (scopeOf branch)).filter (·.path == path) := by simp [shown]
      have same : lock.path = path := beq_iff_eq.1 (List.mem_filter.1 mem).2
      simp only [if_pos same]
      rfl

/-! ### Requests -/

/-- A target that means no lock is skipped. -/
theorem releaseAll_of_none (sound : Ledger.Sound ⟨s, granted⟩)
    (absent : s.meant? (scopeOf branch) target = none) (rest : List UnlockTarget) :
    ((client owner).releaseAll branch force (target :: rest)).outcome s =
      ((client owner).releaseAll branch force rest).outcome s := by
  have first := outcome_release sound owner branch force target
  rw [absent] at first
  rw [Client.outcome_releaseAll_cons, first]
  dsimp only
  rcases ((client owner).releaseAll branch force rest).outcome s with ⟨error | others, after⟩ <;>
    rfl

/-- A lock that may be removed is removed, and its description comes first. -/
theorem releaseAll_of_mayRemove (sound : Ledger.Sound ⟨s, granted⟩)
    (found : s.meant? (scopeOf branch) target = some lock) (may : MayRemove owner force lock)
    (rest : List UnlockTarget) :
    ((client owner).releaseAll branch force (target :: rest)).outcome s =
      let later := ((client owner).releaseAll branch force rest).outcome
        (s.without (scopeOf branch) [lock])
      (later.1.map (.ofLock branch lock :: ·), later.2) := by
  have first := outcome_release sound owner branch force target
  simp only [found, unlock_of_mayRemove sound ((meant?_eq_some_iff sound).1 found).1 may] at first
  rw [Client.outcome_releaseAll_cons, first]
  rfl

/-- Somebody else's lock ends the run. -/
theorem releaseAll_of_foreign (sound : Ledger.Sound ⟨s, granted⟩)
    (found : s.meant? (scopeOf branch) target = some lock) (foreign : ¬ MayRemove owner force lock)
    (rest : List UnlockTarget) :
    ((client owner).releaseAll branch force (target :: rest)).outcome s =
      (.error (foreignLock lock.id), s) := by
  have first := outcome_release sound owner branch force target
  simp only [found, unlock_of_not_mayRemove sound ((meant?_eq_some_iff sound).1 found).1 foreign]
    at first
  rw [Client.outcome_releaseAll_cons, first]

/-- If all locks that the targets mean may be removed, they are. -/
theorem outcome_releaseAll (sound : Ledger.Sound ⟨s, granted⟩) {targets : List UnlockTarget}
    (may : ∀ lock ∈ s.meantInTurn (scopeOf branch) targets, MayRemove owner force lock) :
    ((client owner).releaseAll branch force targets).outcome s =
      (.ok ((s.meantInTurn (scopeOf branch) targets).map (.ofLock branch)),
        s.without (scopeOf branch) (s.meantInTurn (scopeOf branch) targets)) := by
  induction targets generalizing s with
  | nil => rfl
  | cons target rest ih =>
    cases found : s.meant? (scopeOf branch) target with
    | none =>
      rw [meantInTurn_of_none found] at may ⊢
      rw [releaseAll_of_none sound found, ih sound may]
    | some lock =>
      rw [meantInTurn_of_some found] at may ⊢
      -- After the first removal the others are still to be met, in the service without that lock.
      obtain ⟨first, later⟩ := List.forall_mem_cons.1 may
      rw [releaseAll_of_mayRemove sound found first,
        ih (sound_without sound (scopeOf branch) [lock]) later]
      rfl

/-- A request ends with a target that means a lock which may not be removed.  The targets before it
    mean locks that may be, and these are gone. -/
structure StopsAt (s : Service) (owner : String) (branch : Option Branch) (force : Bool)
    (earlier : List UnlockTarget) (target : UnlockTarget) (lock : Api.Lock)
    (outcome : Except RemoteError (List LockDescription) × Service) : Prop where
  may : ∀ lock ∈ s.meantInTurn (scopeOf branch) earlier, MayRemove owner force lock
  means : (s.without (scopeOf branch) (s.meantInTurn (scopeOf branch) earlier)).meant?
    (scopeOf branch) target = some lock
  foreign : ¬ MayRemove owner force lock
  ends : outcome = (.error (foreignLock lock.id),
    s.without (scopeOf branch) (s.meantInTurn (scopeOf branch) earlier))

/-- A request that meets a lock which may not be removed stops at the first one. -/
theorem exists_stopsAt (sound : Ledger.Sound ⟨s, granted⟩) {targets : List UnlockTarget}
    (foreign : ∃ lock ∈ s.meantInTurn (scopeOf branch) targets, ¬ MayRemove owner force lock) :
    ∃ earlier target later lock, targets = earlier ++ target :: later ∧
      s.StopsAt owner branch force earlier target lock
        (((client owner).releaseAll branch force targets).outcome s) := by
  induction targets generalizing s with
  | nil =>
    obtain ⟨_, mem, -⟩ := foreign
    cases mem
  | cons first rest ih =>
    cases found : s.meant? (scopeOf branch) first with
    | none =>
      rw [meantInTurn_of_none found] at foreign
      -- The first target is passed over, and the request goes on as without it.
      obtain ⟨earlier, target, later, lock, rfl, may, means, other, ends⟩ := ih sound foreign
      have skipped := meantInTurn_of_none found earlier
      refine ⟨first :: earlier, target, later, lock, rfl, ?_, ?_, other, ?_⟩
      · rwa [skipped]
      · rwa [skipped]
      · rw [releaseAll_of_none sound found, ends, skipped]
    | some removed =>
      by_cases own : MayRemove owner force removed
      · rw [meantInTurn_of_some found, List.exists_mem_cons_iff,
          or_iff_right (not_not_intro own)] at foreign
        obtain ⟨earlier, target, later, lock, rfl, may, means, other, ends⟩ :=
          ih (sound_without sound (scopeOf branch) [removed]) foreign
        have met := meantInTurn_of_some found earlier
        refine ⟨first :: earlier, target, later, lock, rfl, ?_, ?_, other, ?_⟩
        · rw [met]
          exact List.forall_mem_cons.2 ⟨own, may⟩
        · rwa [met, without_cons]
        · rw [releaseAll_of_mayRemove sound found own, ends, met, without_cons]
          rfl
      · -- The first target is the one at which the request stops.
        exact ⟨[], first, rest, removed, rfl, (fun _ mem => nomatch mem), found, own,
          releaseAll_of_foreign sound found own rest⟩

/-- How a request ends that removes what targets mean. -/
structure Releases (s : Service) (owner : String) (branch : Option Branch) (force : Bool)
    (targets : List UnlockTarget)
    (outcome : Except RemoteError (List LockDescription) × Service) : Prop where
  /-- A target means the live lock that has its token or, without a token, its path. -/
  means : ∀ target lock, s.meant? (scopeOf branch) target = some lock ↔
    s.Holds (scopeOf branch) lock ∧ target.means lock = true
  /-- Every lock that is meant is met, and is met once. -/
  meets : ∀ lock, lock ∈ s.meantInTurn (scopeOf branch) targets ↔
    ∃ target ∈ targets, s.meant? (scopeOf branch) target = some lock
  distinct : ((s.meantInTurn (scopeOf branch) targets).map (·.id)).Nodup
  /-- If all of them may be removed they are, and they are described in this order.  No token is
      given twice. -/
  all : (∀ lock ∈ s.meantInTurn (scopeOf branch) targets, MayRemove owner force lock) →
    ∃ descriptions,
      outcome = (.ok descriptions,
        s.without (scopeOf branch) (s.meantInTurn (scopeOf branch) targets)) ∧
      List.Forall₂ (LockDescription.Describes branch) descriptions
        (s.meantInTurn (scopeOf branch) targets) ∧
      (descriptions.map (·.token)).Nodup
  /-- Otherwise the request stops at the first that may not be.  This one is still there, and so
      is what later targets mean, unless an earlier one means it too. -/
  stops : ¬ (∀ lock ∈ s.meantInTurn (scopeOf branch) targets, MayRemove owner force lock) →
    ∃ earlier target later lock, targets = earlier ++ target :: later ∧
      s.StopsAt owner branch force earlier target lock outcome ∧
      outcome.2.Holds (scopeOf branch) lock ∧
      ∀ target ∈ later, ∀ lock, s.meant? (scopeOf branch) target = some lock →
        (∀ target ∈ earlier, s.meant? (scopeOf branch) target ≠ some lock) →
          outcome.2.Holds (scopeOf branch) lock

/-- A run releases the locks that are meant in turn, up to one that may not be removed. -/
theorem releases_releaseAll (sound : Ledger.Sound ⟨s, granted⟩) (owner : String)
    (branch : Option Branch) (force : Bool) (targets : List UnlockTarget) :
    s.Releases owner branch force targets
      (((client owner).releaseAll branch force targets).outcome s) where
  means _ _ := meant?_eq_some_iff sound
  meets _ := mem_meantInTurn_iff sound
  distinct := nodup_meantInTurn sound targets
  all may := by
    have described := LockDescription.forall₂_describes_map branch
      (s.meantInTurn (scopeOf branch) targets)
    refine ⟨_, outcome_releaseAll sound may, described, ?_⟩
    rw [LockDescription.map_token described]
    exact nodup_meantInTurn sound targets
  stops foreign := by
    simp only [not_forall, exists_prop] at foreign
    -- The first lock that may not be removed stops the run, after the targets before it.
    obtain ⟨earlier, target, later, lock, split, stops⟩ := exists_stopsAt sound foreign
    have met (lock : Api.Lock) (mem : lock ∈ s.meantInTurn (scopeOf branch) earlier) :=
      holds_of_mem_meantInTurn sound mem
    have after := sound_without sound (scopeOf branch) (s.meantInTurn (scopeOf branch) earlier)
    refine ⟨earlier, target, later, lock, split, stops, ?_, fun other _ kept meant apart => ?_⟩
    · rw [stops.ends]
      exact ((meant?_eq_some_iff after).1 stops.means).1
    · rw [stops.ends]
      -- Removed was only what the targets before meant, so what none of those meant is held.
      refine (holds_without_iff met).2 ⟨((meant?_eq_some_iff sound).1 meant).1, fun mem => ?_⟩
      obtain ⟨first, early, same⟩ := (mem_meantInTurn_iff sound).1 mem
      exact apart first early same

end Service

/-- In every state that a service reaches which started without locks, a request to unlock removes
    the locks that its targets mean one after the other, each once, and describes them in this
    order.  If it is not made by force, it is refused at the first of these that is somebody
    else's; then those before it are gone, and it and all others are still there. -/
theorem releaseAll_removes_meant {start : Service} (empty : start.locks = .empty)
    (unused : start.lastLock = 0) (events : List LockEvent) (who : Principal)
    (branch : Option Branch) (force : Bool) (targets : List UnlockTarget) :
    (start.run events).Releases who.login branch force targets
      ((Service.provider.unlock who branch force targets).outcome (start.run events)) :=
  Service.releases_releaseAll (Ledger.sound_run empty unused events) who.login branch force targets

/-- Alice asks for Bob's lock between two of her own, and for one of hers twice.  What she names
    before his is removed once, what she names after it stays.  By force all three are removed, and
    described once each. -/
theorem releaseAll_removes_meant_foreign :
    let start : Service := { emptyBatches := true }
    let main : Branch := ⟨"main", by decide⟩
    let events : List LockEvent :=
      [.call (.user "alice") (.acquireAll (some main) false [⟨"/a"⟩, ⟨"/b"⟩]),
        .call (.user "bob") (.lock "/c" (some ⟨"main"⟩))]
    let s := start.run events
    let targets : List UnlockTarget := [⟨"/a", none⟩, ⟨"/x", some "1"⟩, ⟨"/c", none⟩, ⟨"/b", none⟩]
    let ask (force : Bool) :=
      (Service.provider.unlock (.user "alice") (some main) force targets).outcome s
    start.locks = .empty ∧ start.lastLock = 0 ∧
      (s.meantInTurn (some "main") targets).map (·.id) = ["1", "3", "2"] ∧
      s.Releases "alice" (some main) false targets (ask false) ∧
      (ask false).1 = .error (Service.foreignLock "3") ∧
      (ask false).2.locks.keys = [⟨some "main", "/b"⟩, ⟨some "main", "/c"⟩] ∧
      s.Releases "alice" (some main) true targets (ask true) ∧
      (ask true).1 = .ok [⟨"/a", some "main", "1", some "alice", none, .epoch⟩,
        ⟨"/c", some "main", "3", some "bob", none, .epoch⟩,
        ⟨"/b", some "main", "2", some "alice", none, .epoch⟩] ∧
      (ask true).2.locks.keys = [] := by
  intro start main events s targets ask
  -- Bob's lock stops alice at the third target, unless she forces it.
  have released (force : Bool) : s.Releases "alice" (some main) force targets (ask force) :=
    @releaseAll_removes_meant start rfl rfl events (.user "alice") (some main) force
      targets
  exact ⟨rfl, rfl, by decide +kernel, released false, by decide +kernel, by decide +kernel,
    released true, by decide +kernel, by decide +kernel⟩

end Remote

end LargeFiles
