import LargeFiles.LockDescription
import LargeFiles.Remote.Client

/-!
# Locking paths

A service locks one path at a time.  A request for several paths is a sequence of such calls, in
the order of the paths; the first failure ends it, and locks acquired before are kept.
-/

namespace LargeFiles.Remote

variable {σ : Type}

namespace Client

/-- Locks a path.  To steal a lock that is held is to remove it by force and to try once more. -/
def acquire (client : Client σ) (ref : Option Api.Ref) (steal : Bool) (path : String) :
    Session σ RemoteError Api.Lock :=
  tryCatch (client.lock path ref) fun error =>
    match error, steal with
    | .lockConflict conflict, true => do
      -- A lock that is gone by now is as good as removed.
      let _ ← client.unlock conflict.lock.id true ref
      client.lock path ref
    | error, _ => throw error

/-- Locks several paths. -/
def acquireAll (client : Client σ) (branch : Option Branch) (steal : Bool)
    (targets : List LockTarget) : Session σ RemoteError (List LockDescription) :=
  targets.mapM fun target => do
    let lock ← client.acquire (branch.map (·.toRef)) steal target.path
    return LockDescription.ofLock branch lock

/-- The id of the lock that a target means.  Without a token it is the first lock listed for the
    path, provided that it is on exactly this path. -/
def resolve (client : Client σ) (ref : Option Api.Ref) (target : UnlockTarget) :
    Session σ RemoteError (Option String) :=
  match target.token with
  | some token => pure (some token)
  | none => do
    let listed ← client.listLocks (some target.path) none ref
    match listed with
    | lock :: _ => return if lock.path = target.path then some lock.id else none
    | [] => return none

/-- Removes the lock that a target means, if there is one. -/
def release (client : Client σ) (ref : Option Api.Ref) (force : Bool) (target : UnlockTarget) :
    Session σ RemoteError (Option Api.Lock) := do
  match ← client.resolve ref target with
  | some id => client.unlock id force ref
  | none => return none

/-- Removes the locks that several targets mean, and describes those that were there. -/
def releaseAll (client : Client σ) (branch : Option Branch) (force : Bool) :
    List UnlockTarget → Session σ RemoteError (List LockDescription)
  | [] => pure []
  | target :: rest => do
    let lock ← client.release (branch.map (·.toRef)) force target
    let others ← client.releaseAll branch force rest
    return (lock.map (LockDescription.ofLock branch)).toList ++ others

/-- Describes the locks with the given path and id. -/
def describeLocks (client : Client σ) (branch : Option Branch) (path id : Option String) :
    Session σ RemoteError (List LockDescription) := do
  let locks ← client.listLocks path id (branch.map (·.toRef))
  return locks.map (LockDescription.ofLock branch)

/-- Describes the caller's locks and those of others. -/
def describeVerified (client : Client σ) (branch : Option Branch) :
    Session σ RemoteError VerifiedLocks := do
  let page ← client.verifyLocks (branch.map (·.toRef))
  let describe := LockDescription.ofLock branch
  return ⟨page.ours.map describe, page.theirs.map describe⟩

end Client

namespace Provider

/-- Locks several paths for a principal. -/
def lock (provider : Provider σ) (who : Principal) (branch : Option Branch) (steal : Bool)
    (targets : List LockTarget) : Session σ RemoteError (List LockDescription) := do
  (← provider.client who).acquireAll branch steal targets

/-- Removes locks for a principal. -/
def unlock (provider : Provider σ) (who : Principal) (branch : Option Branch) (force : Bool)
    (targets : List UnlockTarget) : Session σ RemoteError (List LockDescription) := do
  (← provider.client who).releaseAll branch force targets

/-- Lists locks for a principal. -/
def locks (provider : Provider σ) (who : Principal) (branch : Option Branch)
    (path id : Option String) : Session σ RemoteError (List LockDescription) := do
  (← provider.client who).describeLocks branch path id

/-- Tells a principal's locks and those of others apart. -/
def verifyLocks (provider : Provider σ) (who : Principal) (branch : Option Branch) :
    Session σ RemoteError VerifiedLocks := do
  (← provider.client who).describeVerified branch

/-- Prolongs locks.  Locks of an LFS service do not expire, so there is nothing to do. -/
def renewLocks (_provider : Provider σ) (_branch : Branch) (_locks : List LockDescription)
    (state : σ) : σ := state

/-- Drops locks that no longer fit the branch, and tells whether there were any.  An LFS service
    knows of no such locks. -/
def cleanupLocks (_provider : Provider σ) (_branch : Branch) (state : σ) : Bool × σ :=
  (false, state)

end Provider

end LargeFiles.Remote
