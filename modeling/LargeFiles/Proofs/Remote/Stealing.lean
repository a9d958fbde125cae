import LargeFiles.Proofs.Remote.Conflict
import LargeFiles.Proofs.Remote.Release

/-!
# Stealing locks

A request for locks that may steal them always succeeds.  What stands in the way of a target is
removed by force, so each target takes the place of what was held on its path, be it a lock that
the request itself has made for an earlier target.  Of several targets with the same path only the
last one's lock is held in the end.

* `Service.withLocks`            a service with new locks in the place of old ones;
* `Service.get?_withLocks`       the last of the locks on a path is the one that is held;
* `Service.outcome_acquire`      a target whose path is free or may be stolen;
* `Service.outcome_acquireAll`   several targets;
* `acquireAll_takes_over`        what a request that steals does in every reachable state;
* `acquired_locks_held`          which of the described locks are held in the end;
* `repeated_path_ousts_first`    a request that steals from itself.
-/

namespace LargeFiles.Remote

namespace Service

variable {s : Service} {scope : Option String} {branch : Option Branch} {owner : String}
  {steal : Bool} {granted : List Api.Lock}

/-! ### New locks -/

/-- The lock that an owner is granted next. -/
def nextLock (s : Service) (owner path : String) : Api.Lock :=
  ⟨toString (s.lastLock + 1), path, some ⟨owner⟩, s.clock⟩

/-- The locks that an owner is granted next, on some paths in a row. -/
def nextLocks (s : Service) (owner : String) (paths : List String) : List Api.Lock :=
  (paths.zipIdx (s.lastLock + 1)).map fun (path, number) =>
    ⟨toString number, path, some ⟨owner⟩, s.clock⟩

/-- The first lock has the next number, and the others follow it. -/
theorem nextLocks_cons (s : Service) (scope : Option String) (owner path : String)
    (rest : List String) :
    s.nextLocks owner (path :: rest) =
      s.nextLock owner path :: (s.withLock scope (s.nextLock owner path)).nextLocks owner rest := by
  simp only [nextLocks, List.zipIdx_cons, List.map_cons]
  rfl

/-- The next locks are for the paths that are asked for. -/
theorem map_path_nextLocks (s : Service) (owner : String) (paths : List String) :
    (s.nextLocks owner paths).map (·.path) = paths := by
  rw [nextLocks, List.map_map]
  exact List.zipIdx_map_fst _ _

/-- The next locks have the next numbers. -/
theorem map_id_nextLocks (s : Service) (owner : String) (paths : List String) :
    (s.nextLocks owner paths).map (·.id) =
      (List.range' (s.lastLock + 1) paths.length).map toString := by
  rw [← List.zipIdx_map_snd, nextLocks, List.map_map, List.map_map]
  rfl

/-- The next locks belong to the caller. -/
theorem owner_of_mem_nextLocks {paths : List String} {lock : Api.Lock}
    (mem : lock ∈ s.nextLocks owner paths) : lock.owner = some ⟨owner⟩ := by
  obtain ⟨_, -, rfl⟩ := List.mem_map.1 mem
  rfl

/-- The next locks are made at the time of the service. -/
theorem lockedAt_of_mem_nextLocks {paths : List String} {lock : Api.Lock}
    (mem : lock ∈ s.nextLocks owner paths) : lock.lockedAt = s.clock := by
  obtain ⟨_, -, rfl⟩ := List.mem_map.1 mem
  rfl

/-- The locks that are granted next are numbered from the last one on. -/
theorem newIds_nextLocks (s : Service) (owner : String) (paths : List String) :
    s.NewIds ((s.nextLocks owner paths).map (·.id)) :=
  ⟨_, s.map_id_nextLocks owner paths, List.pairwise_lt_range', fun _ mem =>
    (List.mem_range'_1.1 mem).1⟩

theorem nodup_id_nextLocks (s : Service) (owner : String) (paths : List String) :
    ((s.nextLocks owner paths).map (·.id)).Nodup :=
  (s.newIds_nextLocks owner paths).nodup

/-- The ids of the locks that are granted next were never granted before. -/
theorem ne_id_of_mem_nextLocks (sound : Ledger.Sound ⟨s, granted⟩) {paths : List String}
    {lock old : Api.Lock} (mem : lock ∈ s.nextLocks owner paths) (known : old ∈ granted) :
    old.id ≠ lock.id := by
  intro same
  refine (s.newIds_nextLocks owner paths).notMem_granted sound (List.mem_map_of_mem mem) ?_
  exact same ▸ List.mem_map_of_mem known

/-- They are described as new ones. -/
theorem describesNew_nextLocks (s : Service) (owner : String) (branch : Option Branch)
    (paths : List String) :
    s.DescribesNew owner branch paths ((s.nextLocks owner paths).map (.ofLock branch)) :=
  describesNew_of_describes (s.map_path_nextLocks owner paths)
    (fun _ => owner_of_mem_nextLocks) (s.newIds_nextLocks owner paths)
    (fun _ => lockedAt_of_mem_nextLocks) (LockDescription.forall₂_describes_map branch _)

/-! ### New locks in the place of old ones -/

/-- The last of some locks that is on a path. -/
def lastOn (locks : List Api.Lock) (path : String) : Option Api.Lock :=
  locks.reverse.find? (·.path == path)

/-- A later lock of the same path counts, if there is one. -/
theorem lastOn_cons (lock : Api.Lock) (locks : List Api.Lock) (path : String) :
    lastOn (lock :: locks) path =
      (lastOn locks path).or (if lock.path = path then some lock else none) := by
  by_cases same : lock.path = path <;> simp [lastOn, same]

/-- The last lock of a path is one of the locks, and it has that path. -/
theorem mem_of_lastOn {locks : List Api.Lock} {path : String} {lock : Api.Lock}
    (found : lastOn locks path = some lock) : lock ∈ locks ∧ lock.path = path := by
  have found : locks.reverse.find? (·.path == path) = some lock := found
  have same := List.find?_some found
  exact ⟨List.mem_reverse.1 (List.mem_of_find?_eq_some found), beq_iff_eq.1 same⟩

/-- There is no last lock of a path if no lock has it. -/
theorem lastOn_eq_none_iff {locks : List Api.Lock} {path : String} :
    lastOn locks path = none ↔ path ∉ locks.map (·.path) := by
  simp [lastOn, List.find?_eq_none]

/-- A lock is the last on its path if none of those after it is on the path. -/
theorem lastOn_append_of_notMem (before : List Api.Lock) {lock : Api.Lock} {rest : List Api.Lock}
    (last : lock.path ∉ rest.map (·.path)) :
    lastOn (before ++ lock :: rest) lock.path = some lock := by
  have none : rest.reverse.find? (·.path == lock.path) = none := lastOn_eq_none_iff.2 last
  simp [lastOn, none]

/-- Otherwise one of those after it is the last. -/
theorem lastOn_append_of_mem (before : List Api.Lock) (lock : Api.Lock) {rest : List Api.Lock}
    {path : String} (again : path ∈ rest.map (·.path)) :
    lastOn (before ++ lock :: rest) path = lastOn rest path := by
  cases found : lastOn rest path with
  | none => exact absurd again (lastOn_eq_none_iff.1 found)
  | some last =>
    have found : rest.reverse.find? (·.path == path) = some last := found
    simp [lastOn, found]

/-- The service with some more locks, each in the place of what was on its path. -/
def withLocks (s : Service) (scope : Option String) (locks : List Api.Lock) : Service :=
  locks.foldl (fun s lock => s.withLock scope lock) s

theorem withLocks_cons (s : Service) (scope : Option String) (lock : Api.Lock)
    (locks : List Api.Lock) :
    s.withLocks scope (lock :: locks) = (s.withLock scope lock).withLocks scope locks := rfl

/-- What is held afterwards is the last lock on the path, or what was held before. -/
theorem get?_withLocks (s : Service) (scope : Option String) (locks : List Api.Lock)
    (key : LockKey) :
    (s.withLocks scope locks).locks.get? key =
      if key.scope = scope then (lastOn locks key.path).or (s.locks.get? key)
      else s.locks.get? key := by
  induction locks generalizing s with
  | nil => simp [withLocks, lastOn]
  | cons lock rest ih =>
    rw [withLocks_cons, ih, lastOn_cons]
    show (if _ then Option.or _ ((s.locks.insert _ _).get? key)
      else (s.locks.insert _ _).get? key) = _
    -- The first lock is what was held before the others are made.
    by_cases same : key = ⟨scope, lock.path⟩
    · simp [same]
    · rw [SortedMap.get?_insert_of_ne _ same]
      have apart : key.scope = scope → lock.path ≠ key.path := by
        rintro rfl eq
        exact same (eq ▸ rfl)
      split
      · next within => rw [if_neg (apart within), Option.or_none]
      · rfl

/-- New locks change the table and the counter, and nothing else. -/
theorem withLocks_eq (s : Service) (scope : Option String) (locks : List Api.Lock) :
    s.withLocks scope locks = { s with
      locks := (s.withLocks scope locks).locks, lastLock := s.lastLock + locks.length } := by
  induction locks generalizing s with
  | nil => rfl
  | cons lock rest ih =>
    rw [withLocks_cons, ih]
    simp only [withLock, List.length_cons]
    congr 1
    omega

/-- A lock may be removed first from the place that a new one takes. -/
theorem withLock_without (s : Service) (scope : Option String) {old made : Api.Lock}
    (same : old.path = made.path) :
    (s.without scope [old]).withLock scope made = s.withLock scope made := by
  simp only [without, withLock, List.foldl_cons, List.foldl_nil, same, SortedMap.insert_erase]

/-- Granting the next lock keeps the ledger sound. -/
theorem sound_withLock (sound : Ledger.Sound ⟨s, granted⟩) (scope : Option String)
    (owner path : String) :
    Ledger.Sound
      ⟨s.withLock scope (s.nextLock owner path), granted ++ [s.nextLock owner path]⟩ := by
  -- What is on the path is removed first, so that the new lock is granted on a free one.
  have cleared := sound.remove ⟨scope, path⟩
  have made : Ledger.Sound ⟨(s.without scope [s.nextLock owner path]).withLock scope
      (s.nextLock owner path), granted ++ [s.nextLock owner path]⟩ :=
    cleared.grant (SortedMap.get?_erase_self ..) rfl rfl
  rwa [withLock_without s scope rfl] at made

/-! ### Single targets -/

/-- Where there is no lock the next one is granted. -/
theorem lock_of_absent {path : String} (absent : s.locks.get? ⟨scopeOf branch, path⟩ = none) :
    s.lock owner path (branch.map (·.toRef)) =
      (.ok (s.nextLock owner path), s.withLock (scopeOf branch) (s.nextLock owner path)) := by
  simp only [lock, name_toRef, absent]
  rfl

/-- Where there is a lock it is reported, and nothing changes. -/
theorem lock_of_held {path : String} {held : Api.Lock}
    (found : s.locks.get? ⟨scopeOf branch, path⟩ = some held) :
    s.lock owner path (branch.map (·.toRef)) =
      (.error (.lockConflict ⟨held, "already created lock"⟩), s) := by
  simp only [lock, name_toRef, found]

/-- A path that is free is locked, and one that is not is locked anew if locks may be stolen. -/
theorem outcome_acquire (sound : Ledger.Sound ⟨s, granted⟩) (owner : String) {path : String}
    (may : steal = true ∨ s.locks.get? ⟨scopeOf branch, path⟩ = none) :
    ((client owner).acquire (branch.map (·.toRef)) steal path).outcome s =
      (.ok (s.nextLock owner path), s.withLock (scopeOf branch) (s.nextLock owner path)) := by
  have asks (t : Service) : ((client owner).lock path (branch.map (·.toRef))).outcome t =
      t.lock owner path (branch.map (·.toRef)) := rfl
  rw [Client.acquire, Session.outcome_tryCatch, asks]
  cases found : s.locks.get? ⟨scopeOf branch, path⟩ with
  | none => rw [lock_of_absent found]
  | some held =>
    obtain rfl : steal = true := may.resolve_right (by simp [found])
    -- The conflict names the lock on the path, which is removed by its id.
    have same : held.path = path := sound.path _ _ found
    have holds : s.Holds (scopeOf branch) held := by rwa [Holds, same]
    have removed : ((client owner).unlock held.id true (branch.map (·.toRef))).outcome s =
        (.ok (some held), s.without (scopeOf branch) [held]) :=
      unlock_of_mayRemove sound holds (.inl rfl)
    -- Once that lock is gone, the path is free, and asking again succeeds.
    have absent :
        (s.without (scopeOf branch) [held]).locks.get? ⟨scopeOf branch, path⟩ = none := by
      subst same
      exact SortedMap.get?_erase_self ..
    rw [lock_of_held found]
    dsimp only
    rw [Session.outcome_bind, removed]
    dsimp only
    rw [asks, lock_of_absent absent]
    exact congrArg (Prod.mk _) (withLock_without s _ same)

/-! ### Several targets -/

/-- The other paths are free after the first one is held. -/
theorem Free.tail {path : String} {rest : List String} (free : s.Free scope (path :: rest))
    (made : Api.Lock) (same : made.path = path) : (s.withLock scope made).Free scope rest where
  distinct := (List.nodup_cons.1 free.distinct).2
  absent other mem := by
    have ne : (⟨scope, other⟩ : LockKey) ≠ ⟨scope, made.path⟩ := by
      rintro ⟨⟩
      exact (List.nodup_cons.1 free.distinct).1 (same ▸ mem)
    exact (SortedMap.get?_insert_of_ne _ ne _).trans
      (free.absent other (List.mem_cons_of_mem _ mem))

/-- A request makes the next locks if it may steal, or if there is nothing to steal. -/
theorem outcome_acquireAll (sound : Ledger.Sound ⟨s, granted⟩) (owner : String)
    {targets : List LockTarget}
    (may : steal = true ∨ s.Free (scopeOf branch) (targets.map (·.path))) :
    ((client owner).acquireAll branch steal targets).outcome s =
      (.ok ((s.nextLocks owner (targets.map (·.path))).map (.ofLock branch)),
        s.withLocks (scopeOf branch) (s.nextLocks owner (targets.map (·.path)))) := by
  induction targets generalizing s granted with
  | nil => rfl
  | cons target rest ih =>
    have first : steal = true ∨ s.locks.get? ⟨scopeOf branch, target.path⟩ = none :=
      may.imp_right fun free => free.absent _ List.mem_cons_self
    -- After the first target the same leave holds for the rest.
    have later := ih (sound_withLock sound (scopeOf branch) owner target.path)
      (may.imp_right fun free => free.tail _ rfl)
    rw [Client.outcome_acquireAll_cons, outcome_acquire sound owner first, List.map_cons,
      s.nextLocks_cons (scopeOf branch), withLocks_cons]
    dsimp only
    rw [later]
    rfl

/-- Granting the next locks keeps the ledger sound. -/
theorem sound_withLocks (sound : Ledger.Sound ⟨s, granted⟩) (scope : Option String)
    (owner : String) (paths : List String) :
    Ledger.Sound ⟨s.withLocks scope (s.nextLocks owner paths),
      granted ++ s.nextLocks owner paths⟩ := by
  induction paths generalizing s granted with
  | nil => rwa [nextLocks, List.zipIdx_nil, List.map_nil, List.append_nil]
  | cons path rest ih =>
    rw [s.nextLocks_cons scope, withLocks_cons, List.append_cons]
    exact ih (sound_withLock sound scope owner path)

/-- A request that steals nothing succeeds only if its paths are free. -/
theorem free_of_acquireAll {targets : List LockTarget} {described : List LockDescription}
    (answer : (((client owner).acquireAll branch false targets).outcome s).1 = .ok described) :
    s.Free (scopeOf branch) (targets.map (·.path)) := by
  obtain ⟨locks, asked, result, acquires, recorded⟩ :=
    s.acquires_acquireAll owner branch targets []
  have mirrored := (Client.mirrors_recording (client owner)).matches_acquireAll branch false
    targets (s, []) s rfl
  rw [recorded, answer] at mirrored
  cases acquires with
  | all free _ => exact free
  | conflict => cases mirrored.1

/-- New locks on paths change nothing elsewhere. -/
theorem get?_withLocks_nextLocks_of_not {paths : List String} {key : LockKey}
    (other : ¬ (key.scope = scope ∧ key.path ∈ paths)) :
    (s.withLocks scope (s.nextLocks owner paths)).locks.get? key = s.locks.get? key := by
  rw [get?_withLocks]
  split
  · next within =>
    have none : lastOn (s.nextLocks owner paths) key.path = none := by
      rw [lastOn_eq_none_iff, map_path_nextLocks]
      exact fun mem => other ⟨within, mem⟩
    rw [none, Option.none_or]
  · rfl

/-- New locks are a matter of the table and of the number of the last lock. -/
theorem withLocks_nextLocks_eq (s : Service) (scope : Option String) (owner : String)
    (paths : List String) :
    s.withLocks scope (s.nextLocks owner paths) = { s with
      locks := (s.withLocks scope (s.nextLocks owner paths)).locks,
      lastLock := s.lastLock + paths.length } := by
  have length : (s.nextLocks owner paths).length = paths.length := by simp [nextLocks]
  rw [← length]
  exact s.withLocks_eq scope _

/-- The last of some descriptions that is of a lock on a path. -/
def lastDescribed (descriptions : List LockDescription) (path : String) : Option LockDescription :=
  descriptions.reverse.find? (·.path == path)

/-- The last description is that of the last lock. -/
theorem lastDescribed_map_ofLock (branch : Option Branch) (locks : List Api.Lock) (path : String) :
    lastDescribed (locks.map (.ofLock branch)) path = (lastOn locks path).map (.ofLock branch) := by
  rw [lastDescribed, ← List.map_reverse, List.find?_map]
  rfl

/-- What a request for locks on paths gives and leaves behind that steals what is in its way. -/
structure TakesOver (s : Service) (owner : String) (branch : Option Branch) (paths : List String)
    (descriptions : List LockDescription) (after : Service) : Prop where
  /-- For every path there is a new lock of the owner, in the order of the request. -/
  new : s.DescribesNew owner branch paths descriptions
  distinct : (descriptions.map (·.token)).Nodup
  /-- Every path is held by a lock of the owner, which is the one that was described last. -/
  held : ∀ path ∈ paths, ∃ description lock,
    lastDescribed descriptions path = some description ∧
      after.locks.get? ⟨scopeOf branch, path⟩ = some lock ∧
      lock.id = description.token ∧ lock.path = path ∧ lock.owner = some ⟨owner⟩
  /-- What is held on other paths, or in other scopes, is what was held before. -/
  kept : ∀ key, ¬ (key.scope = scopeOf branch ∧ key.path ∈ paths) →
    after.locks.get? key = s.locks.get? key
  rest : after = { s with locks := after.locks, lastLock := s.lastLock + paths.length }

/-- With the next locks in their places the paths are taken over. -/
theorem takesOver_withLocks (s : Service) (owner : String) (branch : Option Branch)
    (paths : List String) :
    s.TakesOver owner branch paths ((s.nextLocks owner paths).map (.ofLock branch))
      (s.withLocks (scopeOf branch) (s.nextLocks owner paths)) where
  new := s.describesNew_nextLocks owner branch paths
  distinct := (s.describesNew_nextLocks owner branch paths).token.nodup
  held path mem := by
    rw [lastDescribed_map_ofLock, get?_withLocks, if_pos rfl]
    -- A path that was asked for has a new lock, and the last one on it is both told of and held.
    cases found : lastOn (s.nextLocks owner paths) path with
    | none =>
      rw [lastOn_eq_none_iff, map_path_nextLocks] at found
      exact absurd mem found
    | some lock =>
      obtain ⟨listed, same⟩ := mem_of_lastOn found
      exact ⟨_, lock, rfl, Option.some_or, rfl, same, owner_of_mem_nextLocks listed⟩
  kept _ other := get?_withLocks_nextLocks_of_not other
  rest := s.withLocks_nextLocks_eq _ owner paths

/-! ### What is held in the end -/

/-- The lock is held by the caller on its path in the scope, and can be removed with its id and
    without force. -/
structure Secures (s : Service) (who : Principal) (branch : Option Branch) (lock : Api.Lock) :
    Prop where
  held : s.Holds (scopeOf branch) lock
  owner : lock.owner = some ⟨who.login⟩
  releases : ∀ path, (provider.unlock who branch false [⟨path, some lock.id⟩]).outcome s =
    (.ok [.ofLock branch lock], s.without (scopeOf branch) [lock])

/-- A lock of one's own can be released by its token or by its path. -/
theorem secures_of_holds (sound : Ledger.Sound ⟨s, granted⟩) {who : Principal} {lock : Api.Lock}
    (held : s.Holds (scopeOf branch) lock) (own : lock.owner = some ⟨who.login⟩) :
    s.Secures who branch lock where
  held := held
  owner := own
  releases path := by
    have means : s.meant? (scopeOf branch) ⟨path, some lock.id⟩ = some lock :=
      (meant?_eq_some_iff sound).2 ⟨held, beq_self_eq_true lock.id⟩
    exact releaseAll_of_mayRemove sound means (.inr own) []

/-- The last lock of a path is the one that is held. -/
theorem holds_withLocks {locks : List Api.Lock} {lock : Api.Lock}
    (last : lastOn locks lock.path = some lock) : (s.withLocks scope locks).Holds scope lock := by
  rw [Holds, get?_withLocks, if_pos rfl, last, Option.some_or]

/-- A new lock is nowhere in the table if a later one is on its path. -/
theorem ne_id_of_get?_withLocks (sound : Ledger.Sound ⟨s, granted⟩) {paths : List String}
    {before rest : List Api.Lock} {lock : Api.Lock}
    (split : s.nextLocks owner paths = before ++ lock :: rest)
    (again : lock.path ∈ rest.map (·.path)) {key : LockKey} {found : Api.Lock}
    (look : (s.withLocks scope (s.nextLocks owner paths)).locks.get? key = some found) :
    found.id ≠ lock.id := by
  have mem : lock ∈ s.nextLocks owner paths := by simp [split]
  -- A lock from before has a number that was granted, and the new ones have none of those.
  have old (found : Api.Lock) (known : s.locks.get? key = some found) : found.id ≠ lock.id :=
    ne_id_of_mem_nextLocks sound mem (sound.granted key found known)
  have distinct := s.nodup_id_nextLocks owner paths
  rw [get?_withLocks] at look
  split at look
  · cases last : lastOn (s.nextLocks owner paths) key.path with
    | none =>
      rw [last, Option.none_or] at look
      exact old found look
    | some made =>
      rw [last, Option.some_or] at look
      obtain rfl := Option.some.inj look
      obtain ⟨listed, same⟩ := mem_of_lastOn last
      intro eq
      -- It would be the lock itself, but the last one on its path is among the later ones.
      obtain rfl := List.inj_on_of_nodup_map distinct listed mem eq
      rw [split, ← same, lastOn_append_of_mem before made again] at last
      rw [split] at distinct
      exact notMem_map_of_nodup distinct (List.mem_map_of_mem (mem_of_lastOn last).1)
  · exact old found look

/-- The described locks are the caller's, but for those on whose paths later ones are. -/
structure Honours (s : Service) (who : Principal) (branch : Option Branch) (steal : Bool)
    (descriptions : List LockDescription) : Prop where
  secures : ∀ {before described rest}, descriptions = before ++ described :: rest →
    described.path ∉ rest.map (·.path) →
      ∃ lock, described = .ofLock branch lock ∧ s.Secures who branch lock
  /-- Without leave to steal there are no such locks, and with it they are nowhere in the table. -/
  ousts : ∀ {before described rest}, descriptions = before ++ described :: rest →
    described.path ∈ rest.map (·.path) →
      steal = true ∧ ∀ key lock, s.locks.get? key = some lock → lock.id ≠ described.token

/-- A description among those of some locks is of one of these, and those after it are of those
    after it. -/
theorem exists_of_map_ofLock {locks : List Api.Lock} {first last : List LockDescription}
    {described : LockDescription}
    (whole : locks.map (.ofLock branch) = first ++ described :: last) :
    ∃ before lock rest, locks = before ++ lock :: rest ∧ described = .ofLock branch lock ∧
      last.map (·.path) = rest.map (·.path) := by
  obtain ⟨before, _, split, -, parts⟩ := List.map_eq_append_iff.1 whole
  obtain ⟨lock, rest, rfl, rfl, rfl⟩ := List.map_eq_cons_iff.1 parts
  exact ⟨before, lock, rest, split, rfl, List.map_map⟩

/-- A service with the new locks honours their descriptions. -/
theorem honours_withLocks (sound : Ledger.Sound ⟨s, granted⟩) {who : Principal}
    {paths : List String} (may : steal = true ∨ s.Free (scopeOf branch) paths) :
    (s.withLocks (scopeOf branch) (s.nextLocks who.login paths)).Honours who branch steal
      ((s.nextLocks who.login paths).map (.ofLock branch)) where
  secures whole last := by
    obtain ⟨before, lock, rest, split, rfl, later⟩ := exists_of_map_ofLock whole
    rw [later] at last
    have held := lastOn_append_of_notMem before last
    have own : lock.owner = some ⟨who.login⟩ := owner_of_mem_nextLocks (by rw [split]; simp)
    -- The last lock on its path is the one that is found there afterwards.
    rw [← split] at held
    exact ⟨lock, rfl, secures_of_holds (sound_withLocks sound (scopeOf branch) who.login paths)
      (holds_withLocks held) own⟩
  ousts whole again := by
    obtain ⟨before, lock, rest, split, rfl, later⟩ := exists_of_map_ofLock whole
    rw [later] at again
    -- That the path comes again rules out that the paths were free, so there was leave to steal.
    refine ⟨may.resolve_right fun free => ?_,
      fun key found look => ne_id_of_get?_withLocks sound split again look⟩
    have distinct := free.distinct
    rw [← s.map_path_nextLocks who.login paths, split] at distinct
    exact notMem_map_of_nodup distinct again

end Service

variable {start : Service}

/-- In every state that a service reaches which started without locks, a request for several locks
    that may steal gives the descriptions of new locks, one for each target and in their order.
    Their tokens are different, and none of them was ever granted before.  Every path asked for is
    held by the caller with the token that was given last for it, and nothing changes elsewhere. -/
theorem acquireAll_takes_over (empty : start.locks = .empty) (unused : start.lastLock = 0)
    (events : List LockEvent) (who : Principal) (branch : Option Branch)
    (targets : List LockTarget) :
    let s := start.run events
    ∃ descriptions after,
      (Service.provider.lock who branch true targets).outcome s = (.ok descriptions, after) ∧
      s.TakesOver who.login branch (targets.map (·.path)) descriptions after ∧
      ∀ description ∈ descriptions,
        description.token ∉ ((Ledger.mk start []).run events).granted.map (·.id) := by
  intro s
  have sound := Ledger.sound_run empty unused events
  have takes := s.takesOver_withLocks who.login branch (targets.map (·.path))
  refine ⟨_, _, Service.outcome_acquireAll sound who.login (.inl rfl), takes,
    fun description mem => ?_⟩
  exact Service.NewIds.notMem_granted sound takes.new.token (List.mem_map_of_mem mem)

/-- Alice takes a path from Bob in their branch, and asks for it twice.  She is told of two locks on
    it, the second of which she holds. -/
theorem acquireAll_takes_over_repeated :
    let start : Service := { emptyBatches := true }
    let main : Branch := ⟨"main", by decide⟩
    let events : List LockEvent :=
      [.call (.user "bob") (.acquireAll (some main) false [⟨"/a"⟩, ⟨"/b"⟩])]
    let s := start.run events
    let targets : List LockTarget := [⟨"/a"⟩, ⟨"/c"⟩, ⟨"/a"⟩]
    let outcome := (Service.provider.lock (.user "alice") (some main) true targets).outcome s
    start.locks = .empty ∧ start.lastLock = 0 ∧
      (∃ descriptions after, outcome = (.ok descriptions, after) ∧
        s.TakesOver "alice" (some main) ["/a", "/c", "/a"] descriptions after ∧
        ∀ description ∈ descriptions,
          description.token ∉ ((Ledger.mk start []).run events).granted.map (·.id)) ∧
      outcome.1 = .ok [⟨"/a", some "main", "3", some "alice", none, .epoch⟩,
        ⟨"/c", some "main", "4", some "alice", none, .epoch⟩,
        ⟨"/a", some "main", "5", some "alice", none, .epoch⟩] ∧
      outcome.2.locks.values = [⟨"5", "/a", some ⟨"alice"⟩, .epoch⟩,
        ⟨"2", "/b", some ⟨"bob"⟩, .epoch⟩, ⟨"4", "/c", some ⟨"alice"⟩, .epoch⟩] := by
  intro start main events s targets outcome
  exact ⟨rfl, rfl, @acquireAll_takes_over start rfl rfl events (.user "alice")
    (some main) targets, by decide +kernel, by decide +kernel⟩

/-- When a request for locks succeeds, what it describes is held by the caller and can be removed
    with its token, but for a lock on whose path a later target asks for another.  That happens
    only if locks may be stolen; then the request has stolen this lock itself. -/
theorem acquired_locks_held (empty : start.locks = .empty) (unused : start.lastLock = 0)
    (events : List LockEvent) (who : Principal) (branch : Option Branch) (steal : Bool)
    (targets : List LockTarget) {descriptions : List LockDescription} {after : Service}
    (answer : (Service.provider.lock who branch steal targets).outcome (start.run events) =
      (.ok descriptions, after)) :
    descriptions.map (·.path) = targets.map (·.path) ∧
      after.Honours who branch steal descriptions := by
  have sound := Ledger.sound_run empty unused events
  -- Success without leave to steal shows that the paths were free.
  have may : steal = true ∨ (start.run events).Free (scopeOf branch) (targets.map (·.path)) := by
    cases steal with
    | true => exact .inl rfl
    | false => exact .inr (Service.free_of_acquireAll (congrArg Prod.fst answer))
  obtain ⟨described, rfl⟩ :=
    Prod.mk.inj (answer.symm.trans (Service.outcome_acquireAll sound who.login may))
  obtain rfl := Except.ok.inj described
  refine ⟨?_, Service.honours_withLocks sound may⟩
  rw [List.map_map]
  exact Service.map_path_nextLocks _ _ _

/-- What Alice takes from Bob is hers, and what she has asked for a second time is hers once. -/
theorem acquired_locks_held_repeated :
    let start : Service := { emptyBatches := true }
    let events : List LockEvent := [.call (.user "bob") (.lock "/a" none)]
    let targets : List LockTarget := [⟨"/a"⟩, ⟨"/c"⟩, ⟨"/a"⟩]
    let outcome := (Service.provider.lock (.user "alice") none true targets).outcome
      (start.run events)
    let descriptions := [("/a", "2"), ("/c", "3"), ("/a", "4")].map fun (path, token) =>
      LockDescription.mk path none token (some "alice") none .epoch
    start.locks = .empty ∧ start.lastLock = 0 ∧ outcome = (.ok descriptions, outcome.2) ∧
      (descriptions.map (·.path) = ["/a", "/c", "/a"] ∧
        outcome.2.Honours (.user "alice") none true descriptions) ∧
      outcome.2.locks.values.map (·.id) = ["4", "3"] := by
  refine ⟨rfl, rfl, rfl, ?_, by decide⟩
  exact @acquired_locks_held { emptyBatches := true } rfl rfl
    [.call (.user "bob") (.lock "/a" none)] (.user "alice") none true [⟨"/a"⟩, ⟨"/c"⟩, ⟨"/a"⟩] _ _
    rfl

/-- Alice asks for the same path twice, and is told of two locks.  The first is not in the table
    any more, and cannot be removed with its token. -/
theorem repeated_path_ousts_first :
    let alice : Principal := .user "alice"
    let outcome := (Service.provider.lock alice none true [⟨"/a"⟩, ⟨"/a"⟩]).outcome {}
    let first : LockDescription := ⟨"/a", none, "1", some "alice", none, .epoch⟩
    let second : LockDescription := ⟨"/a", none, "2", some "alice", none, .epoch⟩
    outcome.1 = .ok [first, second] ∧
      outcome.2.locks.values = [⟨"2", "/a", some ⟨"alice"⟩, .epoch⟩] ∧
      (Service.provider.unlock alice none false [⟨"/a", some "1"⟩]).outcome outcome.2 =
        (.ok [], outcome.2) ∧
      ¬ ∃ lock, first = .ofLock none lock ∧ outcome.2.Secures alice none lock := by
  refine ⟨rfl, by decide, rfl, ?_⟩
  rintro ⟨lock, described, secures⟩
  have path : lock.path = "/a" := (congrArg LockDescription.path described).symm
  have id : lock.id = "1" := (congrArg LockDescription.token described).symm
  have held := secures.held
  rw [Service.Holds, path] at held
  have found := congrArg (Option.map Api.Lock.id) held
  rw [Option.map_some, id] at found
  exact absurd found (by decide)

end LargeFiles.Remote
