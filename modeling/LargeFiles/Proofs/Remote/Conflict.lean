import LargeFiles.Proofs.LockDescription
import LargeFiles.Proofs.Remote.LockTable

/-!
# Locking up to the first conflict

A request for several locks that steals none takes the paths in their order.  It makes the locks of
all of them, or of those before the first path that is locked already, be it by one of the locks
that the request itself has just made.

* `Client.recording`               a client that keeps a record of the locks that it asked for;
* `Service.NewIds`                 ids that were given to no lock before;
* `Service.DescribesNew`           what is told of new locks;
* `Service.Gains`                  a service with some new locks, and nothing else changed;
* `Service.Gains.cons`             one lock, and then others;
* `Service.Acquires`               how a request may end;
* `Service.acquires_acquireAll`    it ends so, from any state;
* `acquireAll_until_conflict`      in every reachable state, with ids that are new.
-/

namespace LargeFiles.Remote

/-! ### Attempts -/

/-- The client with a record of the locks that were asked for, granted or not. -/
def Client.recording {σ : Type} (client : Client σ) : Client (σ × List LockKey) :=
  { client.onPart (·.1) fun state s => (s, state.2) with
    lock path ref := .ofFunction fun state =>
      let (answer, s) := (client.lock path ref).outcome state.1
      (answer, (s, state.2 ++ [⟨ref.map (·.name), path⟩])) }

/-- Keeping a record changes nothing. -/
theorem Client.mirrors_recording {σ : Type} (client : Client σ) :
    client.recording.Mirrors client fun state s => state.1 = s :=
  { client.mirrors_onPart fun _ _ => rfl with
    lock := by
      rintro path ref state _ rfl
      exact ⟨rfl, rfl⟩ }

/-- A lock that is not to be stolen is asked for once. -/
theorem Client.outcome_acquire_false {σ : Type} (client : Client σ) (ref : Option Api.Ref)
    (path : String) (state : σ) :
    (client.acquire ref false path).outcome state = (client.lock path ref).outcome state := by
  rw [acquire, Session.outcome_tryCatch]
  rcases (client.lock path ref).outcome state with ⟨error | lock, after⟩
  · cases error <;> rfl
  · rfl

/-- The first target is locked, and the others follow if it was. -/
theorem Client.outcome_acquireAll_cons {σ : Type} (client : Client σ) (branch : Option Branch)
    (steal : Bool) (target : LockTarget) (rest : List LockTarget) (state : σ) :
    (client.acquireAll branch steal (target :: rest)).outcome state =
      match (client.acquire (branch.map (·.toRef)) steal target.path).outcome state with
      | (.ok lock, next) =>
        (((client.acquireAll branch steal rest).outcome next).1.map (.ofLock branch lock :: ·),
          ((client.acquireAll branch steal rest).outcome next).2)
      | (.error error, next) => (.error error, next) := by
  -- The rest is a request of its own, of the service that the first target leaves.
  have each : client.acquireAll branch steal rest = rest.mapM fun target => do
      let lock ← client.acquire (branch.map (·.toRef)) steal target.path
      return LockDescription.ofLock branch lock := rfl
  rw [acquireAll, List.mapM_cons, ← each, Session.outcome_bind, Session.outcome_bind]
  cases asked : (client.acquire (branch.map (·.toRef)) steal target.path).outcome state with
  | mk result next =>
    cases result with
    | error error => rfl
    | ok lock =>
      dsimp only [Session.outcome_pure]
      rw [Session.outcome_bind]
      rcases (client.acquireAll branch steal rest).outcome next with ⟨error | others, last⟩ <;> rfl

namespace Service

/-! ### New locks -/

/-- The paths have no locks in the scope, and no two of them are the same. -/
structure Free (s : Service) (scope : Option String) (paths : List String) : Prop where
  distinct : paths.Nodup
  absent : ∀ path ∈ paths, s.locks.get? ⟨scope, path⟩ = none

/-- Ids that follow those of all locks that were made: they are the texts of numbers in ascending
    order, all of them above that of the last lock. -/
def NewIds (s : Service) (ids : List String) : Prop :=
  ∃ numbers : List Nat, ids = numbers.map toString ∧ numbers.Pairwise (· < ·) ∧
    ∀ n ∈ numbers, s.lastLock < n

/-- The descriptions are of new locks of the owner that were asked for within the branch, one on
    each of the paths and in their order. -/
structure DescribesNew (s : Service) (owner : String) (branch : Option Branch)
    (paths : List String) (descriptions : List LockDescription) : Prop where
  path : descriptions.map (·.path) = paths
  branch : ∀ description ∈ descriptions, description.branch = branch.map (·.short)
  owner : ∀ description ∈ descriptions, description.owner = some owner
  token : s.NewIds (descriptions.map (·.token))
  comment : ∀ description ∈ descriptions, description.comment = none
  created : ∀ description ∈ descriptions, description.created = s.clock

/-- Afterwards the service has one new lock of the owner for each of the paths, and is otherwise as
    before. -/
structure Gains (s : Service) (owner : String) (scope : Option String) (paths : List String)
    (locks : List Api.Lock) (after : Service) : Prop where
  path : locks.map (·.path) = paths
  owner : ∀ lock ∈ locks, lock.owner = some ⟨owner⟩
  id : s.NewIds (locks.map (·.id))
  created : ∀ lock ∈ locks, lock.lockedAt = s.clock
  held : ∀ lock ∈ locks, after.locks.get? ⟨scope, lock.path⟩ = some lock
  kept : ∀ key : LockKey, (∀ path ∈ paths, key ≠ ⟨scope, path⟩) →
    after.locks.get? key = s.locks.get? key
  rest : after = { s with locks := after.locks, lastLock := s.lastLock + paths.length }

variable {s after : Service} {owner : String} {scope : Option String}

theorem free_nil (s : Service) (scope : Option String) : s.Free scope [] :=
  ⟨.nil, fun _ mem => nomatch mem⟩

theorem newIds_nil (s : Service) : s.NewIds [] := ⟨[], rfl, .nil, fun _ mem => nomatch mem⟩

/-- Without locks nothing is gained. -/
theorem gains_nil (s : Service) (owner : String) (scope : Option String) :
    s.Gains owner scope [] [] s where
  path := rfl
  owner _ mem := nomatch mem
  id := s.newIds_nil
  created _ mem := nomatch mem
  held _ mem := nomatch mem
  kept _ _ := rfl
  rest := rfl

/-- The service with one more lock. -/
def withLock (s : Service) (scope : Option String) (made : Api.Lock) : Service :=
  { s with locks := s.locks.insert ⟨scope, made.path⟩ made, lastLock := s.lastLock + 1 }

/-- Paths that are free after a lock was made are free before it, with the path of this lock. -/
theorem Free.cons {made : Api.Lock} {rest : List String}
    (absent : s.locks.get? ⟨scope, made.path⟩ = none)
    (free : (s.withLock scope made).Free scope rest) : s.Free scope (made.path :: rest) := by
  -- The other paths are free after this one is held, so it is none of them.
  have other (path : String) (mem : path ∈ rest) : path ≠ made.path := by
    rintro rfl
    have found := free.absent _ mem
    rw [withLock, SortedMap.get?_insert_self] at found
    cases found
  constructor
  · exact List.nodup_cons.2 ⟨fun mem => other _ mem rfl, free.distinct⟩
  · intro path mem
    obtain rfl | mem := List.mem_cons.1 mem
    · exact absent
    · have ne : (⟨scope, path⟩ : LockKey) ≠ ⟨scope, made.path⟩ := by
        rintro ⟨⟩
        exact other _ mem rfl
      exact (SortedMap.get?_insert_of_ne _ ne _).symm.trans (free.absent path mem)

/-- The next number, and then others after it. -/
theorem NewIds.cons {made : Api.Lock} {ids : List String}
    (h : (s.withLock scope made).NewIds ids) : s.NewIds (toString (s.lastLock + 1) :: ids) := by
  obtain ⟨numbers, rfl, ascending, above⟩ := h
  refine ⟨(s.lastLock + 1) :: numbers, rfl, List.pairwise_cons.2 ⟨above, ascending⟩, ?_⟩
  exact List.forall_mem_cons.2 ⟨Nat.lt_succ_self _, fun n mem =>
    Nat.lt_trans (Nat.lt_succ_self _) (above n mem)⟩

/-- No two new ids are the same. -/
theorem NewIds.nodup {ids : List String} (h : s.NewIds ids) : ids.Nodup := by
  obtain ⟨numbers, rfl, ascending, -⟩ := h
  exact (ascending.imp Nat.ne_of_lt).map _ fun _ _ ne same =>
    ne (Text.Decimal.toString_injective same)

/-- A new id was granted with no lock before. -/
theorem NewIds.notMem_granted {ledger : Ledger} (sound : ledger.Sound) {ids : List String}
    (h : ledger.service.NewIds ids) {id : String} (mem : id ∈ ids) :
    id ∉ ledger.granted.map (·.id) := by
  obtain ⟨numbers, rfl, -, above⟩ := h
  obtain ⟨n, listed, rfl⟩ := List.mem_map.1 mem
  intro used
  obtain ⟨old, granted, same⟩ := List.mem_map.1 used
  exact sound.ne_later granted (above n listed) same

/-- New locks of an owner are described as such. -/
theorem describesNew_of_describes {branch : Option Branch} {paths : List String}
    {locks : List Api.Lock} {descriptions : List LockDescription}
    (path : locks.map (·.path) = paths) (owned : ∀ lock ∈ locks, lock.owner = some ⟨owner⟩)
    (id : s.NewIds (locks.map (·.id))) (created : ∀ lock ∈ locks, lock.lockedAt = s.clock)
    (described : List.Forall₂ (LockDescription.Describes branch) descriptions locks) :
    s.DescribesNew owner branch paths descriptions := by
  -- Each description is one of a new lock, and has its fields from there.
  have each {description : LockDescription} (mem : description ∈ descriptions) :
      ∃ lock ∈ locks, LockDescription.Describes branch description lock :=
    LockDescription.exists_describes described mem
  constructor
  · rw [LockDescription.map_path described, path]
  · intro description mem
    obtain ⟨lock, -, describes⟩ := each mem
    exact describes.branch
  · intro description mem
    obtain ⟨lock, listed, describes⟩ := each mem
    rw [describes.owner, owned lock listed, Option.map_some]
  · rwa [LockDescription.map_token described]
  · intro description mem
    obtain ⟨lock, -, describes⟩ := each mem
    exact describes.comment
  · intro description mem
    obtain ⟨lock, listed, describes⟩ := each mem
    rw [describes.created, created lock listed]

/-- One lock, and then others on other paths. -/
theorem Gains.cons {made : Api.Lock} {rest : List String} {locks : List Api.Lock}
    (owned : made.owner = some ⟨owner⟩) (id : made.id = toString (s.lastLock + 1))
    (created : made.lockedAt = s.clock) (new : made.path ∉ rest)
    (gains : (s.withLock scope made).Gains owner scope rest locks after) :
    s.Gains owner scope (made.path :: rest) (made :: locks) after where
  path := by rw [List.map_cons, gains.path]
  owner := List.forall_mem_cons.2 ⟨owned, gains.owner⟩
  id := by
    rw [List.map_cons, id]
    exact gains.id.cons
  created := List.forall_mem_cons.2 ⟨created, gains.created⟩
  held := by
    -- The first lock is still held at the end, because its path is not asked for again.
    refine List.forall_mem_cons.2 ⟨?_, gains.held⟩
    rw [gains.kept ⟨scope, made.path⟩ fun path mem same => ?_]
    · exact SortedMap.get?_insert_self ..
    · cases same
      exact new mem
  kept key others := by
    obtain ⟨first, later⟩ := List.forall_mem_cons.1 others
    -- What is on other paths is left alone by the first lock and by the later ones.
    rw [gains.kept key later]
    exact SortedMap.get?_insert_of_ne _ first _
  rest := by
    have rest := gains.rest
    rw [rest]
    simp only [withLock, List.length_cons]
    congr 1
    omega

/-- The locks that a service has gained are described as new ones. -/
theorem Gains.describesNew {branch : Option Branch} {paths : List String} {locks : List Api.Lock}
    (gains : s.Gains owner scope paths locks after) {descriptions : List LockDescription}
    (described : List.Forall₂ (LockDescription.Describes branch) descriptions locks) :
    s.DescribesNew owner branch paths descriptions :=
  describesNew_of_describes gains.path gains.owner gains.id gains.created described

/-! ### A request -/

/-- How a request for locks on paths ends that steals none: which locks it makes, which it has asked
    for, what it answers, and the service afterwards. -/
inductive Acquires (s : Service) (owner : String) (branch : Option Branch) (paths : List String) :
    List Api.Lock → List LockKey → Except RemoteError (List LockDescription) × Service → Prop
  /-- All paths are free and different.  All get locks, which are described in the order of the
      paths. -/
  | all {locks : List Api.Lock} {descriptions : List LockDescription} {after : Service}
      (free : s.Free (branch.map (·.short)) paths)
      (gains : s.Gains owner (branch.map (·.short)) paths locks after)
      (described : List.Forall₂ (LockDescription.Describes branch) descriptions locks)
      (new : s.DescribesNew owner branch paths descriptions) :
      Acquires s owner branch paths locks (paths.map fun path => ⟨branch.map (·.short), path⟩)
        (.ok descriptions, after)
  /-- One path is the first that is locked or stands there a second time.  Those before it get
      locks, and the lock is reported that is then held on the path. -/
  | conflict {before rest : List String} {path : String} {locks : List Api.Lock}
      {held : Api.Lock} {after : Service} (split : paths = before ++ path :: rest)
      (free : s.Free (branch.map (·.short)) before)
      (gains : s.Gains owner (branch.map (·.short)) before locks after)
      (holds : after.locks.get? ⟨branch.map (·.short), path⟩ = some held)
      (whose : s.locks.get? ⟨branch.map (·.short), path⟩ = some held ∨
        path ∈ before ∧ held ∈ locks) :
      Acquires s owner branch paths locks
        ((before ++ [path]).map fun path => ⟨branch.map (·.short), path⟩)
        (.error (.lockConflict ⟨held, "already created lock"⟩), after)

/-- A lock that is made first comes before those that the rest of the request makes. -/
theorem Acquires.cons {branch : Option Branch} {made : Api.Lock} {rest : List String}
    {locks : List Api.Lock} {asked : List LockKey}
    {outcome : Except RemoteError (List LockDescription) × Service}
    (absent : s.locks.get? ⟨branch.map (·.short), made.path⟩ = none)
    (owned : made.owner = some ⟨owner⟩) (id : made.id = toString (s.lastLock + 1))
    (created : made.lockedAt = s.clock)
    (h : (s.withLock (branch.map (·.short)) made).Acquires owner branch rest locks asked outcome) :
    s.Acquires owner branch (made.path :: rest) (made :: locks)
      (⟨branch.map (·.short), made.path⟩ :: asked)
      (outcome.1.map (.ofLock branch made :: ·), outcome.2) := by
  cases h with
  | all free gains described =>
    have whole := free.cons absent
    have gains := gains.cons owned id created (List.nodup_cons.1 whole.distinct).1
    have described := described.cons (LockDescription.describes_ofLock branch made)
    exact .all whole gains described (gains.describesNew described)
  | @conflict before rest path locks held after split free gains holds whose =>
    have whole := free.cons absent
    have split : made.path :: _ = (made.path :: before) ++ path :: rest := congrArg _ split
    refine .conflict split whole
      (gains.cons owned id created (List.nodup_cons.1 whole.distinct).1) holds ?_
    obtain found | ⟨mem, own⟩ := whose
    -- The lock in the way was there from the start, or it is the first of the new ones.
    · by_cases same : path = made.path
      · -- The path is that of the lock made first.
        rw [same, withLock, SortedMap.get?_insert_self] at found
        cases found
        exact .inr ⟨same ▸ List.mem_cons_self, List.mem_cons_self⟩
      · have ne : (⟨branch.map (·.short), path⟩ : LockKey) ≠
            ⟨branch.map (·.short), made.path⟩ := by
          rintro ⟨⟩
          exact same rfl
        exact .inl ((SortedMap.get?_insert_of_ne _ ne _).symm.trans found)
    · exact .inr ⟨List.mem_cons_of_mem _ mem, List.mem_cons_of_mem _ own⟩

/-- Whatever the state, a request ends in this way, and asks for no lock after the first
    conflict. -/
theorem acquires_acquireAll (owner : String) (branch : Option Branch) (targets : List LockTarget)
    (s : Service) (before : List LockKey) :
    ∃ locks asked outcome,
      s.Acquires owner branch (targets.map (·.path)) locks asked outcome ∧
      ((client owner).recording.acquireAll branch false targets).outcome (s, before) =
        (outcome.1, (outcome.2, before ++ asked)) := by
  induction targets generalizing s before with
  | nil =>
    have nothing := s.gains_nil owner (branch.map (·.short))
    refine ⟨[], [], _, .all (s.free_nil _) nothing .nil (nothing.describesNew .nil), ?_⟩
    rw [List.append_nil]
    rfl
  | cons target rest ih =>
    -- The scope of a key is the short name of the branch, which is also what is sent.
    have scope : (branch.map (·.toRef)).map (·.name) = branch.map (·.short) := by
      cases branch <;> rfl
    have asks : ((client owner).recording.lock target.path (branch.map (·.toRef))).outcome
        (s, before) = ((s.lock owner target.path (branch.map (·.toRef))).1,
          ((s.lock owner target.path (branch.map (·.toRef))).2,
            before ++ [⟨(branch.map (·.toRef)).map (·.name), target.path⟩])) := rfl
    rw [Client.outcome_acquireAll_cons, Client.outcome_acquire_false, asks, scope]
    obtain ⟨held, found, outcome⟩ | ⟨absent, made, created, outcome⟩ :=
      s.lock_cases owner target.path (branch.map (·.toRef))
    -- A lock in the way ends the run; nothing was acquired for this target or a later one.
    · rw [scope] at found
      rw [outcome]
      have split : (target :: rest).map (·.path) = [] ++ target.path :: rest.map (·.path) := rfl
      exact ⟨[], _, _, .conflict split (s.free_nil _) (s.gains_nil owner _) found (.inl found), rfl⟩
    -- A new lock is made, and the rest is asked of the service that holds it.
    · have path : target.path = made.path := (congrArg Api.Lock.path created).symm
      have owned : made.owner = some ⟨owner⟩ := congrArg Api.Lock.owner created
      have id : made.id = toString (s.lastLock + 1) := congrArg Api.Lock.id created
      have time : made.lockedAt = s.clock := congrArg Api.Lock.lockedAt created
      rw [scope, path] at absent outcome
      obtain ⟨locks, asked, answer, acquires, later⟩ := ih
        (s.withLock (branch.map (·.short)) made) (before ++ [⟨branch.map (·.short), made.path⟩])
      rw [withLock] at later
      rw [List.map_cons, path, outcome]
      refine ⟨_, _, _, acquires.cons absent owned id time, ?_⟩
      simp only [later, List.append_assoc, List.singleton_append]

/-- However a request ends, it has made locks on some of the paths. -/
theorem Acquires.exists_gains {branch : Option Branch} {paths : List String}
    {locks : List Api.Lock} {asked : List LockKey}
    {outcome : Except RemoteError (List LockDescription) × Service}
    (h : s.Acquires owner branch paths locks asked outcome) :
    ∃ paths, s.Gains owner (branch.map (·.short)) paths locks outcome.2 := by
  cases h with
  | all free gains described new => exact ⟨_, gains⟩
  | conflict split free gains holds whose => exact ⟨_, gains⟩

/-- If a request succeeds, what it gives describes new locks on all of the paths. -/
theorem Acquires.describesNew {branch : Option Branch} {paths : List String}
    {locks : List Api.Lock} {asked : List LockKey}
    {outcome : Except RemoteError (List LockDescription) × Service}
    (h : s.Acquires owner branch paths locks asked outcome) {descriptions : List LockDescription}
    (answer : outcome.1 = .ok descriptions) : s.DescribesNew owner branch paths descriptions := by
  cases h with
  | all _ _ _ new =>
    cases answer
    exact new
  | conflict => cases answer

end Service

/-- In every state that a service reaches which started without locks, a request for several locks
    that steals none makes those of the paths before the first that has a lock in the scope or
    stands there a second time, and reports the lock that is then held on this path; if there is no
    such path it makes and describes the locks of all.  The ids of these locks, and so the tokens
    that are given, were never granted before.  Nothing else changes, and nothing is asked for
    after the conflict. -/
theorem acquireAll_until_conflict {start : Service} (empty : start.locks = .empty)
    (unused : start.lastLock = 0) (events : List LockEvent) (who : Principal)
    (branch : Option Branch) (targets : List LockTarget) :
    let s := start.run events
    let granted := ((Ledger.mk start []).run events).granted.map (·.id)
    let outcome := (Service.provider.lock who branch false targets).outcome s
    ∃ locks asked,
      s.Acquires who.login branch (targets.map (·.path)) locks asked outcome ∧
      (∀ lock ∈ locks, lock.id ∉ granted) ∧
      (∀ descriptions, outcome.1 = .ok descriptions →
        ∀ description ∈ descriptions, description.token ∉ granted) ∧
      ((Service.client who.login).recording.acquireAll branch false targets).outcome (s, []) =
        (outcome.1, (outcome.2, asked)) := by
  intro s granted outcome
  have sound := (Ledger.sound_new empty unused).run events
  have state : ((Ledger.mk start []).run events).service = s := Ledger.service_run _ events
  obtain ⟨locks, asked, result, acquires, recorded⟩ :=
    s.acquires_acquireAll who.login branch targets []
  -- The record does not change what happens.
  have same : result = outcome := by
    have mirrored := (Client.mirrors_recording (Service.client who.login)).matches_acquireAll
      branch false targets (s, []) s rfl
    rw [recorded] at mirrored
    exact Prod.ext mirrored.1 mirrored.2
  subst same
  -- Ids that are new to the service are in no entry of the ledger.
  have new {ids : List String} (h : s.NewIds ids) (id : String) (mem : id ∈ ids) : id ∉ granted :=
    Service.NewIds.notMem_granted sound (state ▸ h) mem
  refine ⟨locks, asked, acquires, fun lock mem => ?_, fun descriptions answer description mem => ?_,
    recorded⟩
  · obtain ⟨paths, gains⟩ := acquires.exists_gains
    exact new gains.id _ (List.mem_map_of_mem mem)
  · exact new (acquires.describesNew answer).token _ (List.mem_map_of_mem mem)

/-- Bob has locked a path, but not in the branch.  There Alice gets it along with another.  When she
    names a path twice she is in her own way, and gets only what comes before. -/
theorem acquireAll_until_conflict_repeated :
    let start : Service := { emptyBatches := true }
    let events : List LockEvent := [.call (.user "bob") (.lock "/a" none)]
    let s := start.run events
    let granted := ((Ledger.mk start []).run events).granted.map (·.id)
    let main : Branch := ⟨"main", by decide⟩
    let ask (targets : List LockTarget) :=
      (Service.provider.lock (.user "alice") (some main) false targets).outcome s
    let ends (targets : List LockTarget) := ∃ locks asked,
      s.Acquires "alice" (some main) (targets.map (·.path)) locks asked (ask targets) ∧
      (∀ lock ∈ locks, lock.id ∉ granted) ∧
      (∀ descriptions, (ask targets).1 = .ok descriptions →
        ∀ description ∈ descriptions, description.token ∉ granted) ∧
      ((Service.client "alice").recording.acquireAll (some main) false targets).outcome (s, []) =
        ((ask targets).1, ((ask targets).2, asked))
    let once : List LockTarget := [⟨"/a"⟩, ⟨"/c"⟩]
    let twice : List LockTarget := [⟨"/a"⟩, ⟨"/c"⟩, ⟨"/a"⟩, ⟨"/d"⟩]
    let keys : List LockKey := [⟨none, "/a"⟩, ⟨some "main", "/a"⟩, ⟨some "main", "/c"⟩]
    start.locks = .empty ∧ start.lastLock = 0 ∧
      ends once ∧ (ask once).2.locks.keys = keys ∧
      (ask once).1 = .ok [⟨"/a", some "main", "2", some "alice", none, .epoch⟩,
        ⟨"/c", some "main", "3", some "alice", none, .epoch⟩] ∧
      ends twice ∧ (ask twice).2.locks.keys = keys ∧
      (ask twice).1 = .error (.lockConflict
        ⟨⟨"2", "/a", some ⟨"alice"⟩, .epoch⟩, "already created lock"⟩) := by
  intro start events s granted main ask ends once twice keys
  -- The second list asks twice for one path, and its own first lock is in the way.
  have ended (targets : List LockTarget) : ends targets :=
    @acquireAll_until_conflict start rfl rfl events (.user "alice") (some main) targets
  exact ⟨rfl, rfl, ended once, by decide +kernel, by decide +kernel, ended twice,
    by decide +kernel, by decide +kernel⟩

end LargeFiles.Remote
