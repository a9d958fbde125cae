import LargeFiles.Api.Lock
import LargeFiles.Branch

/-!
# Lock descriptions

How locks are described to the callers of the library, and how callers name the paths that they
want locked or unlocked.
-/

namespace LargeFiles

/-- One lock on a path.  Without a branch it holds for the whole repository. -/
structure LockDescription where
  path : String
  branch : Option String
  token : String
  owner : Option String
  comment : Option String
  created : Timestamp
  deriving DecidableEq

/-- A path to be locked. -/
structure LockTarget where
  path : String
  deriving DecidableEq, Repr

/-- A path to be unlocked.  Without a token the lock that is held on the path is meant. -/
structure UnlockTarget where
  path : String
  token : Option String
  deriving DecidableEq, Repr

/-- The caller's locks and those of others. -/
structure VerifiedLocks where
  ours : List LockDescription
  theirs : List LockDescription
  deriving DecidableEq

/-- A branch as requests name it. -/
def Branch.toRef (branch : Branch) : Api.Ref := ⟨branch.short⟩

namespace LockDescription

/-- Describes a server's lock that was asked for within a branch.  The branch is that of the
    request, and there are no comments, since the server tells of neither. -/
def ofLock (branch : Option Branch) (lock : Api.Lock) : LockDescription where
  path := lock.path
  branch := branch.map (·.short)
  token := lock.id
  owner := lock.owner.map (·.name)
  comment := none
  created := lock.lockedAt

/-- The string, or null. -/
def optionalText (s : Option String) : Json := (s.map Json.ofString).getD .null

def toJson (d : LockDescription) : Json :=
  .ofMembers [("path", .ofString d.path), ("branch", optionalText d.branch),
    ("token", .ofString d.token), ("owner", optionalText d.owner),
    ("comment", optionalText d.comment), ("created", .ofTimestamp d.created)]

def ofJson? (v : Json) : Option LockDescription := do
  let r ← v.record? [.named "path", .named "branch", .named "token", .named "owner",
    .named "comment", .named "created"]
  return {
    path := ← r.required "path" Json.text?
    branch := ← r.optionalByName "branch" Json.text?
    token := ← r.required "token" Json.text?
    owner := ← r.optionalByName "owner" Json.text?
    comment := ← r.optionalByName "comment" Json.text?
    created := ← r.required "created" Json.timestamp? }

end LockDescription

namespace LockTarget

def toJson (target : LockTarget) : Json := .ofMembers [("path", .ofString target.path)]

def ofJson? (v : Json) : Option LockTarget := do
  let r ← v.record? [.named "path"]
  return { path := ← r.required "path" Json.text? }

end LockTarget

namespace UnlockTarget

def toJson (target : UnlockTarget) : Json :=
  .ofMembers [("path", .ofString target.path),
    ("token", LockDescription.optionalText target.token)]

def ofJson? (v : Json) : Option UnlockTarget := do
  let r ← v.record? [.named "path", .named "token"]
  return {
    path := ← r.required "path" Json.text?
    token := ← r.optionalByName "token" Json.text? }

end UnlockTarget

namespace VerifiedLocks

def toJson (locks : VerifiedLocks) : Json :=
  .ofMembers [("ours", .array (locks.ours.map LockDescription.toJson)),
    ("theirs", .array (locks.theirs.map LockDescription.toJson))]

def ofJson? (v : Json) : Option VerifiedLocks := do
  let r ← v.record? [.named "ours", .named "theirs"]
  return {
    ours := ← r.required "ours" (Json.list? LockDescription.ofJson?)
    theirs := ← r.required "theirs" (Json.list? LockDescription.ofJson?) }

end VerifiedLocks

end LargeFiles
