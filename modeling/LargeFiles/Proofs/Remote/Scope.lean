import LargeFiles.Proofs.Remote.LockTable
import LargeFiles.Proofs.Session.Tracking
import LargeFiles.Proofs.SortedMap

/-!
# Scopes

Locks in a branch have nothing to do with those in another branch or in the whole repository.  What
is asked in a scope is answered from the locks of this scope and the number of locks made so far,
and does nothing to other scopes.  The statement is about two services that may differ in all
else: they give the same answers and go on with the same locks in the scope, except that a new lock
has the time of the service that made it.

* `Counterpart`              locks that are the same, or were made at different times;
* `Service.Parallel`         how far two services have come that started with the same scope;
* `Service.tracks_perform`   whatever is asked in the scope, they stay parallel;
* `lock_scopes_isolated`     what this means for the answers and the tables.
-/

namespace LargeFiles.Remote

/-! ### Scopes and requests -/

/-- The scope that a request is for: a branch, or the whole repository. -/
def scopeOf (branch : Option Branch) : Option String := branch.map (·.short)

theorem name_toRef (branch : Option Branch) :
    (branch.map (·.toRef)).map (·.name) = scopeOf branch := by
  cases branch <;> rfl

/-- Whether two branches, or a branch and the whole repository, show the same locks in every
    service. -/
def SameScope (a b : Option Branch) : Prop :=
  ∀ s : Service, s.listLocks none none (a.map (·.toRef)) = s.listLocks none none (b.map (·.toRef))

/-- Two branches have the same scope if their short names are equal. -/
theorem sameScope_iff {a b : Option Branch} : SameScope a b ↔ scopeOf a = scopeOf b := by
  constructor
  · intro same
    -- A service with a lock in the first scope shows it in the second.
    let lock : Api.Lock := ⟨"1", "/", none, .epoch⟩
    have shown := same { locks := SortedMap.empty.insert ⟨scopeOf a, "/"⟩ lock }
    simp only [Service.listLocks, name_toRef] at shown
    by_contra ne
    simp [SortedMap.insert, SortedMap.empty, SortedMap.insertEntry, ne] at shown
  · intro same s
    simp only [Service.listLocks, name_toRef, same]

/-- What can be asked about locks in a scope. -/
inductive LockRequest
  | lock (steal : Bool) (targets : List LockTarget)
  | unlock (force : Bool) (targets : List UnlockTarget)
  | locks (path id : Option String)
  | verify

/-- What is answered. -/
inductive LockAnswer
  | described (locks : List LockDescription)
  | verified (locks : VerifiedLocks)
  deriving DecidableEq

/-- Asks for a principal in a scope. -/
def LockRequest.perform {σ : Type} (provider : Provider σ) (who : Principal)
    (branch : Option Branch) : LockRequest → Session σ RemoteError LockAnswer
  | lock steal targets => do return .described (← provider.lock who branch steal targets)
  | unlock force targets => do return .described (← provider.unlock who branch force targets)
  | locks path id => do return .described (← provider.locks who branch path id)
  | verify => do return .verified (← provider.verifyLocks who branch)

/-! ### Likeness -/

/-- The same lock in two services: it is the same, or was made in both since they had made a number
    of locks, at the times of their clocks. -/
inductive Counterpart (count : Nat) (time time' : Timestamp) : Api.Lock → Api.Lock → Prop
  | same (lock : Api.Lock) : Counterpart count time time' lock lock
  | made (number : Nat) (path : String) (owner : Option Api.LockOwner) (later : count < number) :
    Counterpart count time time' ⟨toString number, path, owner, time⟩
      ⟨toString number, path, owner, time'⟩

/-- The same error, but for the time of the lock that stands in the way. -/
inductive SameError (like : Api.Lock → Api.Lock → Prop) : RemoteError → RemoteError → Prop
  | same (error : RemoteError) : SameError like error error
  | conflict {held held' : Api.Lock} (alike : like held held') (message : String) :
    SameError like (.lockConflict ⟨held, message⟩) (.lockConflict ⟨held', message⟩)

/-- The descriptions of two locks that are alike. -/
def SameDescription (like : Api.Lock → Api.Lock → Prop) (branch : Option Branch)
    (described described' : LockDescription) : Prop :=
  ∃ lock lock', like lock lock' ∧ described = .ofLock branch lock ∧
    described' = .ofLock branch lock'

/-- The same answer, but for the times of the locks in it. -/
inductive SameAnswer (like : Api.Lock → Api.Lock → Prop) (branch : Option Branch) :
    LockAnswer → LockAnswer → Prop
  | described {locks locks' : List LockDescription}
      (alike : List.Forall₂ (SameDescription like branch) locks locks') :
    SameAnswer like branch (.described locks) (.described locks')
  | verified {page page' : VerifiedLocks}
      (ours : List.Forall₂ (SameDescription like branch) page.ours page'.ours)
      (theirs : List.Forall₂ (SameDescription like branch) page.theirs page'.theirs) :
    SameAnswer like branch (.verified page) (.verified page')

namespace Counterpart

variable {count : Nat} {time time' : Timestamp} {a b : Api.Lock}

theorem id_eq (h : Counterpart count time time' a b) : a.id = b.id := by cases h <;> rfl

theorem path_eq (h : Counterpart count time time' a b) : a.path = b.path := by cases h <;> rfl

theorem isOwnedBy_eq (h : Counterpart count time time' a b) (owner : String) :
    Service.isOwnedBy owner a = Service.isOwnedBy owner b := by
  cases h <;> rfl

end Counterpart

/-- Descriptions of locks that are alike, in the same order. -/
theorem forall₂_ofLock {like : Api.Lock → Api.Lock → Prop} {l l' : List Api.Lock}
    (h : List.Forall₂ like l l') (branch : Option Branch) :
    List.Forall₂ (SameDescription like branch) (l.map (.ofLock branch))
      (l'.map (.ofLock branch)) := by
  rw [List.forall₂_map_left_iff, List.forall₂_map_right_iff]
  exact h.imp fun a b alike => ⟨a, b, alike, rfl, rfl⟩

/-- The same search in two lists whose elements are related. -/
theorem find?_of_forall₂ {α β : Type} {R : α → β → Prop} {p : α → Bool} {q : β → Bool}
    (same : ∀ a b, R a b → p a = q b) {l : List α} {l' : List β} (h : List.Forall₂ R l l') :
    Option.Rel R (l.find? p) (l'.find? q) := by
  induction h with
  | nil => exact .none
  | @cons a b _ _ related _ ih =>
    rw [List.find?_cons, List.find?_cons, same a b related]
    cases q b with
    | true => exact .some related
    | false => exact ih

namespace Service

/-! ### Services side by side -/

/-- The same lock in services that have come from two: a new one has the time of its service. -/
abbrev SameLock (s₀ t₀ : Service) : Api.Lock → Api.Lock → Prop :=
  Counterpart s₀.lastLock s₀.clock t₀.clock

/-- How far two services have come that were asked the same in a scope: the locks of the scope are
    the same, but for the times of new ones, and other scopes are as they were. -/
structure Parallel (s₀ t₀ : Service) (scope : Option String) (s t : Service) : Prop where
  counter : s.lastLock = t.lastLock
  grows : s₀.lastLock ≤ s.lastLock
  clock : s.clock = s₀.clock
  clock' : t.clock = t₀.clock
  locks : ∀ path, Option.Rel (s₀.SameLock t₀)
    (s.locks.get? ⟨scope, path⟩) (t.locks.get? ⟨scope, path⟩)
  others : ∀ key : LockKey, key.scope ≠ scope → s.locks.get? key = s₀.locks.get? key
  others' : ∀ key : LockKey, key.scope ≠ scope → t.locks.get? key = t₀.locks.get? key

/-- Two services are parallel at the start if they agree on the scope and on the counter. -/
theorem parallel_start {s t : Service} {scope : Option String} (counter : s.lastLock = t.lastLock)
    (locks : ∀ path, s.locks.get? ⟨scope, path⟩ = t.locks.get? ⟨scope, path⟩) :
    Parallel s t scope s t where
  counter := counter
  grows := Nat.le_refl _
  clock := rfl
  clock' := rfl
  locks path := by
    rw [locks path]
    cases t.locks.get? ⟨scope, path⟩ with
    | none => exact .none
    -- A lock from before the start is the same one in both.
    | some lock => exact .some (.same lock)
  others _ _ := rfl
  others' _ _ := rfl

variable {s₀ t₀ s t : Service} {scope : Option String}

namespace Parallel

/-- The entries of the scope are the same in both tables, and in the same order. -/
theorem entries (h : Parallel s₀ t₀ scope s t) :
    List.Forall₂ (fun a b => a.1 = b.1 ∧ s₀.SameLock t₀ a.2 b.2)
      (s.locks.toList.filter (·.1.scope == scope)) (t.locks.toList.filter (·.1.scope == scope)) :=
  SortedMap.forall₂_filter_of_get? (p := fun key : LockKey => key.scope == scope)
    fun ⟨_, path⟩ same => by
      obtain rfl := beq_iff_eq.1 same
      exact h.locks path

/-- A lock on a path of the scope, with the next number. -/
theorem grant (h : Parallel s₀ t₀ scope s t) (path : String) (owner : Option Api.LockOwner) :
    Parallel s₀ t₀ scope
      { s with
        locks := s.locks.insert ⟨scope, path⟩ ⟨toString (s.lastLock + 1), path, owner, s.clock⟩
        lastLock := s.lastLock + 1 }
      { t with
        locks := t.locks.insert ⟨scope, path⟩ ⟨toString (t.lastLock + 1), path, owner, t.clock⟩
        lastLock := t.lastLock + 1 } where
  counter := congrArg (· + 1) h.counter
  grows := Nat.le_succ_of_le h.grows
  clock := h.clock
  clock' := h.clock'
  locks other := by
    by_cases same : other = path
    · subst same
      simp only [SortedMap.get?_insert_self, h.clock, h.clock', ← h.counter]
      -- The new locks differ in their time alone, and their number is a new one on both sides.
      exact .some (.made _ _ _ (Nat.lt_succ_of_le h.grows))
    · have ne : (⟨scope, other⟩ : LockKey) ≠ ⟨scope, path⟩ := fun eq =>
        same (congrArg LockKey.path eq)
      simp only [SortedMap.get?_insert_of_ne _ ne]
      exact h.locks other
  others key apart := by
    have ne : key ≠ ⟨scope, path⟩ := fun eq => apart (congrArg LockKey.scope eq)
    exact (SortedMap.get?_insert_of_ne _ ne _).trans (h.others key apart)
  others' key apart := by
    have ne : key ≠ ⟨scope, path⟩ := fun eq => apart (congrArg LockKey.scope eq)
    exact (SortedMap.get?_insert_of_ne _ ne _).trans (h.others' key apart)

/-- One lock of the scope less. -/
theorem remove (h : Parallel s₀ t₀ scope s t) {key : LockKey} (within : key.scope = scope) :
    Parallel s₀ t₀ scope { s with locks := s.locks.erase key }
      { t with locks := t.locks.erase key } where
  counter := h.counter
  grows := h.grows
  clock := h.clock
  clock' := h.clock'
  -- Where the lock was removed, both sides have none; elsewhere nothing has changed.
  locks path := by
    by_cases same : (⟨scope, path⟩ : LockKey) = key
    · simp only [same, SortedMap.get?_erase_self]
      exact .none
    · simp only [SortedMap.get?_erase_of_ne _ same]
      exact h.locks path
  others other apart := by
    have ne : other ≠ key := fun eq => apart (eq ▸ within)
    exact (SortedMap.get?_erase_of_ne _ ne).trans (h.others other apart)
  others' other apart := by
    have ne : other ≠ key := fun eq => apart (eq ▸ within)
    exact (SortedMap.get?_erase_of_ne _ ne).trans (h.others' other apart)

end Parallel

/-! ### Single calls -/

section Calls

variable {branch : Option Branch} (owner : String)

/-- The removal of a lock is a matter of the entries of the scope. -/
theorem find?_unlock (s : Service) (branch : Option Branch) (id : String) :
    (s.locks.toList.find? fun entry =>
        entry.1.scope == (branch.map (·.toRef)).map (·.name) && entry.2.id == id) =
      (s.locks.toList.filter (·.1.scope == scopeOf branch)).find? (·.2.id == id) := by
  simp only [name_toRef, List.find?_filter, Bool.decide_and, Bool.decide_eq_true]

/-- Parallel services answer a request for a lock alike, and stay parallel. -/
theorem tracks_lock (path : String) :
    ((client owner).lock path (branch.map (·.toRef))).Tracks
      ((client owner).lock path (branch.map (·.toRef))) (Parallel s₀ t₀ (scopeOf branch))
      (s₀.SameLock t₀)
      (SameError (s₀.SameLock t₀)) := by
  intro s t h
  show Session.Results _ _ (s.lock owner path _).1 (t.lock owner path _).1 ∧
    Parallel s₀ t₀ (scopeOf branch) (s.lock owner path _).2 (t.lock owner path _).2
  have known := h.locks path
  rw [lock, lock, name_toRef]
  -- A lock is in the way on both sides or on neither.
  cases found : s.locks.get? ⟨scopeOf branch, path⟩ with
  | some held =>
    rw [found] at known
    cases found' : t.locks.get? ⟨scopeOf branch, path⟩ with
    | none => rw [found'] at known; cases known
    | some held' =>
      rw [found'] at known
      cases known with
      | some alike => exact ⟨.error (.conflict alike _), h⟩
  | none =>
    rw [found] at known
    cases found' : t.locks.get? ⟨scopeOf branch, path⟩ with
    | some held' => rw [found'] at known; cases known
    | none =>
      -- The path is free on both sides, and the new locks have the same number.
      refine ⟨.ok ?_, h.grant path (some ⟨owner⟩)⟩
      rw [h.clock, h.clock', ← h.counter]
      exact .made _ _ _ (Nat.lt_succ_of_le h.grows)

/-- Parallel services answer the removal of a lock alike, and stay parallel. -/
theorem tracks_unlock (id : String) (force : Bool) :
    ((client owner).unlock id force (branch.map (·.toRef))).Tracks
      ((client owner).unlock id force (branch.map (·.toRef))) (Parallel s₀ t₀ (scopeOf branch))
      (Option.Rel (s₀.SameLock t₀))
      (SameError (s₀.SameLock t₀)) := by
  intro s t h
  show Session.Results _ _ (s.unlock owner id force _).1 (t.unlock owner id force _).1 ∧
    Parallel s₀ t₀ (scopeOf branch) (s.unlock owner id force _).2 (t.unlock owner id force _).2
  -- The entries of the scope correspond, so the search stops at the same place.
  have known := find?_of_forall₂ (p := (·.2.id == id)) (q := (·.2.id == id))
    (fun a b related => congrArg (· == id) related.2.id_eq) h.entries
  rw [unlock, unlock, find?_unlock, find?_unlock]
  cases found : (s.locks.toList.filter (·.1.scope == scopeOf branch)).find? (·.2.id == id) with
  | none =>
    rw [found] at known
    cases found' : (t.locks.toList.filter (·.1.scope == scopeOf branch)).find? (·.2.id == id) with
    | some => rw [found'] at known; cases known
    | none => exact ⟨.ok .none, h⟩
  | some entry =>
    -- The lock was looked for in the scope, so its removal touches no other scope.
    have within : entry.1.scope = scopeOf branch :=
      beq_iff_eq.1 (List.mem_filter.1 (List.mem_of_find?_eq_some found)).2
    rw [found] at known
    cases found' : (t.locks.toList.filter (·.1.scope == scopeOf branch)).find? (·.2.id == id) with
    | none => rw [found'] at known; cases known
    | some entry' =>
      rw [found'] at known
      obtain ⟨key, held⟩ := entry
      obtain ⟨key', held'⟩ := entry'
      obtain ⟨rfl, alike⟩ : key = key' ∧ s₀.SameLock t₀ held held' := by
        cases known with
        | some related => exact related
      simp only [alike.isOwnedBy_eq owner]
      split
      · exact ⟨.ok (.some alike), h.remove within⟩
      · exact ⟨.error (.same _), h⟩

/-- The locks that a listing shows, in two services. -/
theorem Parallel.listed (h : Parallel s₀ t₀ (scopeOf branch) s t) (path id : Option String) :
    List.Forall₂ (s₀.SameLock t₀)
      (s.listLocks path id (branch.map (·.toRef)))
      (t.listLocks path id (branch.map (·.toRef))) := by
  have values : List.Forall₂ (s₀.SameLock t₀)
      ((s.locks.toList.filter (·.1.scope == scopeOf branch)).map (·.2))
      ((t.locks.toList.filter (·.1.scope == scopeOf branch)).map (·.2)) := by
    rw [List.forall₂_map_left_iff, List.forall₂_map_right_iff]
    exact h.entries.imp fun _ _ related => related.2
  rw [listLocks, listLocks, name_toRef]
  refine List.rel_filter (fun a b alike => ?_) values
  simp only [alike.id_eq, alike.path_eq]

/-- Parallel services list the same locks of the scope. -/
theorem tracks_listLocks (path id : Option String) :
    ((client owner).listLocks path id (branch.map (·.toRef))).Tracks
      ((client owner).listLocks path id (branch.map (·.toRef)))
      (Parallel s₀ t₀ (scopeOf branch)) (List.Forall₂ (s₀.SameLock t₀))
      (SameError (s₀.SameLock t₀)) :=
  fun _ _ h => ⟨.ok (h.listed path id), h⟩

/-- Parallel services tell the same locks of the scope apart. -/
theorem tracks_verifyLocks :
    ((client owner).verifyLocks (branch.map (·.toRef))).Tracks
      ((client owner).verifyLocks (branch.map (·.toRef))) (Parallel s₀ t₀ (scopeOf branch))
      (fun page page' => List.Forall₂ (s₀.SameLock t₀) page.ours page'.ours ∧
        List.Forall₂ (s₀.SameLock t₀) page.theirs page'.theirs)
      (SameError (s₀.SameLock t₀)) := by
  intro s t h
  refine ⟨.ok ?_, h⟩
  simp only [verifyLocks, List.partition_eq_filter_filter]
  constructor
  · refine List.rel_filter (fun a b alike => ?_) (h.listed none none)
    simp only [alike.isOwnedBy_eq]
  · refine List.rel_filter (fun a b alike => ?_) (h.listed none none)
    simp only [Function.comp, alike.isOwnedBy_eq]

end Calls

/-! ### Requests -/

section Requests

variable (branch : Option Branch) (owner : String)

/-- Acquiring a target does the same in parallel services. -/
theorem tracks_acquire (steal : Bool) (path : String) :
    ((client owner).acquire (branch.map (·.toRef)) steal path).Tracks
      ((client owner).acquire (branch.map (·.toRef)) steal path)
      (Parallel s₀ t₀ (scopeOf branch)) (s₀.SameLock t₀) (SameError (s₀.SameLock t₀)) := by
  apply Session.Tracks.tryCatch (tracks_lock owner path)
  intro error error' alike
  cases alike with
  | same error =>
    split
    · exact (tracks_unlock owner _ true).bind fun _ _ _ => tracks_lock owner path
    · exact .throw (.same error)
  | conflict held message =>
    cases steal with
    | true =>
      -- What is removed is named by its id, which is the same in both.
      simp only [held.id_eq]
      exact (tracks_unlock owner _ true).bind fun _ _ _ => tracks_lock owner path
    | false => exact .throw (.conflict held message)

/-- Acquiring targets does the same in parallel services. -/
theorem tracks_acquireAll (steal : Bool) (targets : List LockTarget) :
    ((client owner).acquireAll branch steal targets).Tracks
      ((client owner).acquireAll branch steal targets) (Parallel s₀ t₀ (scopeOf branch))
      (List.Forall₂ (SameDescription (s₀.SameLock t₀) branch)) (SameError (s₀.SameLock t₀)) := by
  apply Session.Tracks.mapM
  intro target
  exact (tracks_acquire branch owner steal target.path).bind fun lock lock' alike =>
    .pure ⟨lock, lock', alike, rfl, rfl⟩

/-- A target leads to the same identifier in parallel services. -/
theorem tracks_resolve (target : UnlockTarget) :
    ((client owner).resolve (branch.map (·.toRef)) target).Tracks
      ((client owner).resolve (branch.map (·.toRef)) target) (Parallel s₀ t₀ (scopeOf branch))
      Eq (SameError (s₀.SameLock t₀)) := by
  rw [Client.resolve]
  split
  · exact .pure rfl
  · apply (tracks_listLocks owner _ _).bind
    intro listed listed' alike
    cases alike with
    | nil => exact .pure rfl
    | cons first _ => exact .pure (by rw [first.id_eq, first.path_eq])

/-- Releasing a target does the same in parallel services. -/
theorem tracks_release (force : Bool) (target : UnlockTarget) :
    ((client owner).release (branch.map (·.toRef)) force target).Tracks
      ((client owner).release (branch.map (·.toRef)) force target)
      (Parallel s₀ t₀ (scopeOf branch)) (Option.Rel (s₀.SameLock t₀))
      (SameError (s₀.SameLock t₀)) := by
  apply (tracks_resolve branch owner target).bind
  rintro id _ rfl
  cases id with
  | some id => exact tracks_unlock owner id force
  | none => exact .pure .none

/-- Releasing targets does the same in parallel services. -/
theorem tracks_releaseAll (force : Bool) (targets : List UnlockTarget) :
    ((client owner).releaseAll branch force targets).Tracks
      ((client owner).releaseAll branch force targets) (Parallel s₀ t₀ (scopeOf branch))
      (List.Forall₂ (SameDescription (s₀.SameLock t₀) branch)) (SameError (s₀.SameLock t₀)) := by
  induction targets with
  | nil => exact .pure .nil
  | cons target rest ih =>
    refine (tracks_release branch owner force target).bind fun _ _ released =>
      ih.bind fun _ _ others => .pure ?_
    cases released with
    | none => exact others
    | some alike => exact .cons ⟨_, _, alike, rfl, rfl⟩ others

/-- Parallel services describe the same locks of the scope. -/
theorem tracks_describeLocks (path id : Option String) :
    ((client owner).describeLocks branch path id).Tracks
      ((client owner).describeLocks branch path id) (Parallel s₀ t₀ (scopeOf branch))
      (List.Forall₂ (SameDescription (s₀.SameLock t₀) branch)) (SameError (s₀.SameLock t₀)) :=
  (tracks_listLocks owner path id).bind fun _ _ alike => .pure (forall₂_ofLock alike branch)

/-- Parallel services describe the same locks of the scope when they tell them apart. -/
theorem tracks_describeVerified :
    ((client owner).describeVerified branch).Tracks ((client owner).describeVerified branch)
      (Parallel s₀ t₀ (scopeOf branch))
      (fun page page' =>
        List.Forall₂ (SameDescription (s₀.SameLock t₀) branch) page.ours page'.ours ∧
          List.Forall₂ (SameDescription (s₀.SameLock t₀) branch) page.theirs page'.theirs)
      (SameError (s₀.SameLock t₀)) :=
  (tracks_verifyLocks owner).bind fun _ _ alike =>
    .pure ⟨forall₂_ofLock alike.1 branch, forall₂_ofLock alike.2 branch⟩

/-- Whatever is asked in the scope, services that are parallel stay so and give the same answer. -/
theorem tracks_perform (who : Principal) (request : LockRequest) :
    (request.perform provider who branch).Tracks (request.perform provider who branch)
      (Parallel s₀ t₀ (scopeOf branch)) (SameAnswer (s₀.SameLock t₀) branch)
      (SameError (s₀.SameLock t₀)) := by
  cases request with
  | lock steal targets =>
    exact (tracks_acquireAll branch who.login steal targets).bind fun _ _ alike =>
      .pure (.described alike)
  | unlock force targets =>
    exact (tracks_releaseAll branch who.login force targets).bind fun _ _ alike =>
      .pure (.described alike)
  | locks path id =>
    exact (tracks_describeLocks branch who.login path id).bind fun _ _ alike =>
      .pure (.described alike)
  | verify =>
    exact (tracks_describeVerified branch who.login).bind fun _ _ alike =>
      .pure (.verified alike.1 alike.2)

end Requests

/-! ### Ids of other scopes -/

/-- An id says nothing in a scope: nothing is removed and nothing is listed by it. -/
def Ignores (s : Service) (branch : Option Branch) (id : String) : Prop :=
  ∀ who, (∀ force path, ((LockRequest.unlock force [⟨path, some id⟩]).perform provider who
      branch).outcome s = (.ok (.described []), s)) ∧
    ∀ path, ((LockRequest.locks path (some id)).perform provider who branch).outcome s =
      (.ok (.described []), s)

/-- An id that no lock of the scope has. -/
theorem ignores_of_ne {s : Service} {branch : Option Branch} {id : String}
    (foreign : ∀ path lock, s.locks.get? ⟨scopeOf branch, path⟩ = some lock → lock.id ≠ id) :
    s.Ignores branch id := by
  have other (entry) (mem : entry ∈ s.locks.toList.filter (·.1.scope == scopeOf branch)) :
      entry.2.id ≠ id := by
    obtain ⟨⟨scope, path⟩, lock⟩ := entry
    rw [List.mem_filter, SortedMap.mem_toList_iff] at mem
    obtain rfl : scope = scopeOf branch := beq_iff_eq.1 mem.2
    exact foreign path lock mem.1
  intro who
  constructor
  · intro force path
    have kept : ((client who.login).unlock id force (branch.map (·.toRef))).outcome s =
        (.ok none, s) := by
      -- The search goes through the scope, where no lock has this identifier.
      have absent : (s.locks.toList.filter (·.1.scope == scopeOf branch)).find? (·.2.id == id) =
          none := List.find?_eq_none.2 fun entry mem same => other entry mem (beq_iff_eq.1 same)
      show s.unlock who.login id force _ = _
      rw [unlock, find?_unlock, absent]
    simp only [LockRequest.perform, Provider.unlock, provider, Client.releaseAll, Client.release,
      Client.resolve, Session.outcome_bind, Session.outcome_pure, kept]
    rfl
  · intro path
    have listed : s.listLocks path (some id) (branch.map (·.toRef)) = [] := by
      rw [listLocks, name_toRef, List.filter_eq_nil_iff]
      intro lock mem
      obtain ⟨entry, within, rfl⟩ := List.mem_map.1 mem
      -- The filter by identifier lets none of them through.
      simp [other entry within]
    show (Except.ok (LockAnswer.described ((s.listLocks path (some id) _).map _)), s) = _
    rw [listed, List.map_nil]

/-- In a service that was new once, the ids of locks in other scopes are of this kind. -/
theorem ignores_of_scope_ne (events : List LockEvent) {branch : Option Branch} {key : LockKey}
    {lock : Api.Lock} (held : (run {} events).locks.get? key = some lock)
    (apart : key.scope ≠ scopeOf branch) : (run {} events).Ignores branch lock.id := by
  have sound := Ledger.sound_empty.run events
  have same : (Ledger.run {} events).service = run {} events := Ledger.service_run {} events
  refine ignores_of_ne fun path other found eq => apart ?_
  rw [← same] at held found
  rw [sound.distinct key _ lock other held found eq.symm]

end Service

/-! ### Isolation -/

/-- What two services with the same scope have in common when they were asked the same in it. -/
structure Isolated (branch : Option Branch) (s t : Service)
    (outcome outcome' : Except RemoteError LockAnswer × Service) : Prop where
  /-- They give the same answer. -/
  answers : Session.Results (SameAnswer (s.SameLock t) branch) (SameError (s.SameLock t))
    outcome.1 outcome'.1
  /-- They have made the same number of locks. -/
  counter : outcome.2.lastLock = outcome'.2.lastLock
  /-- They have the same locks in the scope. -/
  locks : ∀ path, Option.Rel (s.SameLock t) (outcome.2.locks.get? ⟨scopeOf branch, path⟩)
    (outcome'.2.locks.get? ⟨scopeOf branch, path⟩)
  /-- Each has the locks in other scopes that it had. -/
  others : ∀ key : LockKey, key.scope ≠ scopeOf branch →
    outcome.2.locks.get? key = s.locks.get? key
  others' : ∀ key : LockKey, key.scope ≠ scopeOf branch →
    outcome'.2.locks.get? key = t.locks.get? key

/-- Two services with the same locks in a scope and the same number of locks made answer every
    request in this scope in the same way, keep the same locks in it, and leave other scopes alone;
    the times of new locks may differ, as the clocks do.  The id of a lock in another scope says
    nothing in this one.  A scope is a short branch name, or the whole repository. -/
theorem lock_scopes_isolated {s t : Service} {branch : Option Branch}
    (counter : s.lastLock = t.lastLock)
    (locks : ∀ path, s.locks.get? ⟨scopeOf branch, path⟩ = t.locks.get? ⟨scopeOf branch, path⟩) :
    (∀ who (request : LockRequest), Isolated branch s t
      ((request.perform Service.provider who branch).outcome s)
      ((request.perform Service.provider who branch).outcome t)) ∧
    (∀ id, (∀ path lock, s.locks.get? ⟨scopeOf branch, path⟩ = some lock → lock.id ≠ id) →
      s.Ignores branch id) ∧
    (∀ events key lock, (Service.run {} events).locks.get? key = some lock →
      key.scope ≠ scopeOf branch → (Service.run {} events).Ignores branch lock.id) ∧
    (∀ a b : Branch, SameScope (some a) (some b) ↔ a.short = b.short) ∧
    ∀ a : Branch, ¬ SameScope (some a) none := by
  refine ⟨fun who request => ?_, fun _ => Service.ignores_of_ne,
    fun events _ _ => Service.ignores_of_scope_ne events, fun a b => ?_, fun a => ?_⟩
  · obtain ⟨answers, after⟩ :=
      Service.tracks_perform branch who request s t (Service.parallel_start counter locks)
    exact ⟨answers, after.counter, after.locks, after.others, after.others'⟩
  · rw [sameScope_iff, scopeOf, scopeOf, Option.map_some, Option.map_some, Option.some_inj]
  · rw [sameScope_iff, scopeOf, scopeOf, Option.map_some, Option.map_none]
    exact Option.some_ne_none _

/-- Bob steals Alice's lock on a path of the whole repository.  Carol's lock on the same path in a
    branch, and Dave's in another, make no difference, nor does the time. -/
theorem lock_scopes_isolated_stolen :
    let alice : Api.Lock := ⟨"1", "/a", some ⟨"alice"⟩, .epoch⟩
    let carol : Api.Lock := ⟨"2", "/a", some ⟨"carol"⟩, .epoch⟩
    let dave : Api.Lock := ⟨"2", "/a", some ⟨"dave"⟩, .epoch⟩
    let table := SortedMap.empty.insert ⟨none, "/a"⟩ alice
    let s : Service := { locks := table.insert ⟨some "main", "/a"⟩ carol, lastLock := 2 }
    let t : Service :=
      { locks := table.insert ⟨some "dev", "/a"⟩ dave, lastLock := 2
        clock := ⟨2026, 1, 2, 3, 4, 5, 0, by decide, by decide⟩ }
    let request := LockRequest.lock true [⟨"/a"⟩]
    s.lastLock = t.lastLock ∧
      (∀ path, s.locks.get? ⟨scopeOf none, path⟩ = t.locks.get? ⟨scopeOf none, path⟩) ∧
      Isolated none s t ((request.perform Service.provider (.user "bob") none).outcome s)
        ((request.perform Service.provider (.user "bob") none).outcome t) ∧
      s.Ignores none "2" := by
  intro alice carol dave table s t request
  have other (scope : String) (path : String) :
      (⟨scopeOf none, path⟩ : LockKey) ≠ ⟨some scope, "/a"⟩ := nofun
  have locks (path : String) :
      s.locks.get? ⟨scopeOf none, path⟩ = t.locks.get? ⟨scopeOf none, path⟩ :=
    (SortedMap.get?_insert_of_ne _ (other "main" path) _).trans
      (SortedMap.get?_insert_of_ne _ (other "dev" path) _).symm
  have foreign (path : String) (lock : Api.Lock)
      (found : s.locks.get? ⟨scopeOf none, path⟩ = some lock) : lock.id ≠ "2" := by
    rw [SortedMap.get?_insert_of_ne _ (other "main" path)] at found
    by_cases same : (⟨scopeOf none, path⟩ : LockKey) = ⟨none, "/a"⟩
    · rw [same, SortedMap.get?_insert_self] at found
      cases found
      decide
    · rw [SortedMap.get?_insert_of_ne _ same] at found
      cases found
  -- The services differ on two branches and in their clocks, but not without a branch.
  have isolated := @lock_scopes_isolated s t none rfl locks
  exact ⟨rfl, locks, isolated.1 (.user "bob") request, isolated.2.1 "2" foreign⟩

end LargeFiles.Remote
