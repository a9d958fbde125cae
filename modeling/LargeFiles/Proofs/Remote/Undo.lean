import LargeFiles.Proofs.Remote.Stealing
import Mathlib.Data.List.Perm.Basic

/-!
# Unlocking what was locked

A request to unlock takes back a request for locks on paths that were free.  The locks may be named
in any order, each with its token or by its path.

* `UnlockTarget.names`               a target that names a lock as it was described;
* `Service.meantInTurn_of_forall₂`   targets that mean one held lock each;
* `Service.without_withLocks`        removing all new locks restores the table;
* `unlock_undoes_lock`               the two requests, in every reachable state.
-/

namespace LargeFiles

namespace UnlockTarget

/-- Whether a target names a lock as it was described: with a token by this token, without one by
    its path. -/
def names (target : UnlockTarget) (description : LockDescription) : Bool :=
  match target.token with
  | some token => description.token == token
  | none => description.path == target.path

/-- A target that names a lock means it. -/
theorem names_ofLock (target : UnlockTarget) (branch : Option Branch) (lock : Api.Lock) :
    target.names (.ofLock branch lock) = target.means lock := by
  rw [names, means]
  rfl

/-- Targets that name several locks mean them. -/
theorem forall₂_means_of_names {branch : Option Branch} {targets : List UnlockTarget}
    {locks : List Api.Lock}
    (h : List.Forall₂ (fun target description => target.names description = true) targets
      (locks.map (.ofLock branch))) :
    List.Forall₂ (fun target lock => target.means lock = true) targets locks := by
  rw [List.forall₂_map_right_iff] at h
  exact h.imp fun target lock names => by rwa [names_ofLock] at names

end UnlockTarget

namespace Remote

namespace Service

variable {s : Service} {scope : Option String} {owner : String} {granted : List Api.Lock}

/-- Targets that mean different held locks mean them one after the other. -/
theorem meantInTurn_of_forall₂ (sound : Ledger.Sound ⟨s, granted⟩) {targets : List UnlockTarget}
    {locks : List Api.Lock}
    (means : List.Forall₂ (fun target lock => target.means lock = true) targets locks)
    (held : ∀ lock ∈ locks, s.Holds scope lock) (distinct : locks.Nodup) :
    s.meantInTurn scope targets = locks := by
  induction means generalizing s with
  | nil => rfl
  | @cons target lock targets locks first means ih =>
    obtain ⟨here, later⟩ := List.forall_mem_cons.1 held
    obtain ⟨other, distinct⟩ := List.nodup_cons.1 distinct
    rw [meantInTurn_of_some ((meant?_eq_some_iff sound).2 ⟨here, first⟩)]
    congr 1
    -- The later locks are still held when the first is gone.
    refine ih (sound_without sound scope [lock]) (fun next mem => ?_) distinct
    refine (holds_without_iff (List.forall_mem_singleton.2 here)).2 ⟨later next mem, fun same => ?_⟩
    exact other (List.mem_singleton.1 same ▸ mem)

/-- New locks on different paths are all held. -/
theorem holds_of_mem_nextLocks {paths : List String} (distinct : paths.Nodup) {lock : Api.Lock}
    (mem : lock ∈ s.nextLocks owner paths) :
    (s.withLocks scope (s.nextLocks owner paths)).Holds scope lock := by
  refine holds_withLocks ?_
  rw [← s.map_path_nextLocks owner paths] at distinct
  obtain ⟨before, rest, split⟩ := List.append_of_mem mem
  rw [split] at distinct ⊢
  exact lastOn_append_of_notMem before (notMem_map_of_nodup distinct)

/-- If new locks on free paths are removed again, nothing is left of them but their numbers. -/
theorem without_withLocks {paths : List String} (free : s.Free scope paths)
    {order : List Api.Lock} (perm : order.Perm (s.nextLocks owner paths)) :
    (s.withLocks scope (s.nextLocks owner paths)).without scope order =
      { s with lastLock := s.lastLock + paths.length } := by
  -- It is enough to compare the tables, key by key.
  have table : ((s.withLocks scope (s.nextLocks owner paths)).without scope order).locks =
      s.locks := by
    refine SortedMap.ext_get? fun ⟨within, path⟩ => Option.ext fun lock => ?_
    rw [get?_without_eq_some_iff]
    by_cases new : within = scope ∧ path ∈ paths
    · -- The new lock on the path is removed, and there was none before.
      obtain ⟨rfl, mem⟩ := new
      rw [free.absent path mem]
      rw [← s.map_path_nextLocks owner paths, List.mem_map] at mem
      obtain ⟨made, listed, rfl⟩ := mem
      exact ⟨fun left => absurd rfl (left.2 made (perm.mem_iff.2 listed)), nofun⟩
    · rw [get?_withLocks_nextLocks_of_not new, and_iff_left]
      rintro gone mem ⟨⟩
      refine new ⟨rfl, ?_⟩
      rw [← s.map_path_nextLocks owner paths]
      exact List.mem_map_of_mem (perm.mem_iff.1 mem)
  calc (s.withLocks scope (s.nextLocks owner paths)).without scope order
    _ = { s.withLocks scope (s.nextLocks owner paths) with locks := s.locks } :=
      congrArg (fun table => { s.withLocks scope (s.nextLocks owner paths) with locks := table })
        table
    _ = { s with lastLock := s.lastLock + paths.length } := by rw [withLocks_nextLocks_eq]

end Service

/-- In every state that a service reaches which started without locks, a request for locks on
    different paths that are free succeeds, and describes new locks.  A request to unlock that is
    for these locks, each named once by its token or its path, then removes them all.  It gives the
    same descriptions, in the order in which it names the locks, and the lock table is what it was
    before. -/
theorem unlock_undoes_lock {start : Service} (empty : start.locks = .empty)
    (unused : start.lastLock = 0) (events : List LockEvent) (who : Principal)
    (branch : Option Branch) (steal force : Bool) {targets : List LockTarget}
    (free : (start.run events).Free (scopeOf branch) (targets.map (·.path))) :
    let s := start.run events
    ∃ descriptions after,
      (Service.provider.lock who branch steal targets).outcome s = (.ok descriptions, after) ∧
      s.DescribesNew who.login branch (targets.map (·.path)) descriptions ∧
      ∀ (order : List LockDescription) (unlocks : List UnlockTarget), order.Perm descriptions →
        List.Forall₂ (fun target description => target.names description = true) unlocks order →
          (Service.provider.unlock who branch force unlocks).outcome after =
            (.ok order, { s with lastLock := s.lastLock + targets.length }) := by
  intro s
  have sound := Ledger.sound_run empty unused events
  refine ⟨_, _, Service.outcome_acquireAll sound who.login (.inr free),
    s.describesNew_nextLocks who.login branch _, fun order unlocks rearranged names => ?_⟩
  -- The descriptions in the new order are those of the locks in some order.
  obtain ⟨locks, described, perm⟩ :=
    List.perm_comp_forall₂ rearranged (LockDescription.forall₂_describes_map branch _)
  obtain rfl := LockDescription.forall₂_describes_iff.1 described
  have means := UnlockTarget.forall₂_means_of_names names
  have after := Service.sound_withLocks sound (scopeOf branch) who.login (targets.map (·.path))
  -- However a lock is named, it is met in its turn, since all of them are held and different.
  have met : (s.withLocks (scopeOf branch)
      (s.nextLocks who.login (targets.map (·.path)))).meantInTurn (scopeOf branch) unlocks =
        locks := by
    refine Service.meantInTurn_of_forall₂ after means (fun lock mem => ?_) ?_
    · exact Service.holds_of_mem_nextLocks free.distinct (perm.mem_iff.1 mem)
    · exact perm.nodup_iff.2 (s.nodup_id_nextLocks who.login _).of_map
  have own : ∀ lock ∈ locks, Service.MayRemove who.login force lock := fun lock mem =>
    .inr (Service.owner_of_mem_nextLocks (perm.mem_iff.1 mem))
  rw [← met] at own
  have removed := Service.outcome_releaseAll after own
  rw [met, Service.without_withLocks free perm, List.length_map] at removed
  exact removed

/-- Beside a lock of Bob's, Alice makes two and removes the second by its token and then the first
    by its path. -/
theorem unlock_undoes_lock_reversed :
    let start : Service := { emptyBatches := true }
    let main : Branch := ⟨"main", by decide⟩
    let s := start.run [.call (.user "bob") (.lock "/b" (some ⟨"main"⟩))]
    let outcome :=
      (Service.provider.lock (.user "alice") (some main) false [⟨"/a"⟩, ⟨"/c"⟩]).outcome s
    let first : LockDescription := ⟨"/a", some "main", "2", some "alice", none, .epoch⟩
    let second : LockDescription := ⟨"/c", some "main", "3", some "alice", none, .epoch⟩
    let undone := (Service.provider.unlock (.user "alice") (some main) false
      [⟨"/x", some "3"⟩, ⟨"/a", none⟩]).outcome outcome.2
    start.locks = .empty ∧ start.lastLock = 0 ∧ s.Free (some "main") ["/a", "/c"] ∧
      (∃ descriptions after, outcome = (.ok descriptions, after) ∧
        s.DescribesNew "alice" (some main) ["/a", "/c"] descriptions ∧
        ∀ (order : List LockDescription) (unlocks : List UnlockTarget), order.Perm descriptions →
          List.Forall₂ (fun target description => target.names description = true) unlocks order →
            (Service.provider.unlock (.user "alice") (some main) false unlocks).outcome after =
              (.ok order, { s with lastLock := s.lastLock + 2 })) ∧
      outcome.1 = .ok [first, second] ∧ undone.1 = .ok [second, first] ∧
      undone.2.locks.values.map (·.id) = ["1"] := by
  intro start main s outcome first second undone
  -- The two are released in the other order, one by its token and one by its path.
  have free : s.Free (some "main") ["/a", "/c"] := ⟨by decide, by decide +kernel⟩
  exact ⟨rfl, rfl, free, @unlock_undoes_lock start rfl rfl _ (.user "alice") (some main)
    false false [⟨"/a"⟩, ⟨"/c"⟩] free, by decide +kernel, by decide +kernel,
    by decide +kernel⟩

end Remote

end LargeFiles
