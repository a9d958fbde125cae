import LargeFiles.Api.Batch

/-!
# Lock messages

The messages by which a server's locks are made, removed, listed and verified.
-/

namespace LargeFiles.Api

/-- Who holds a lock. -/
structure LockOwner where
  name : String
  deriving DecidableEq, Repr

namespace LockOwner

def toJson (owner : LockOwner) : Json := .ofMembers [("name", .ofString owner.name)]

def ofJson? (v : Json) : Option LockOwner := do
  let r ← v.record? [.named "name"]
  return { name := ← r.required "name" Json.text? }

end LockOwner

/-- A lock on a path, as a server reports it. -/
structure Lock where
  id : String
  path : String
  owner : Option LockOwner
  lockedAt : Timestamp
  deriving DecidableEq

namespace Lock

def toJson (lock : Lock) : Json :=
  .ofMembers <|
    [("id", .ofString lock.id), ("path", .ofString lock.path)] ++
    lock.owner.toList.map (fun owner => ("owner", owner.toJson)) ++
    [("locked_at", .ofTimestamp lock.lockedAt)]

def ofJson? (v : Json) : Option Lock := do
  let r ← v.record? [.named "id", .named "path", .named "owner", .named "locked_at"]
  return {
    id := ← r.required "id" Json.text?
    path := ← r.required "path" Json.text?
    owner := ← r.optional "owner" LockOwner.ofJson?
    lockedAt := ← r.required "locked_at" Json.timestamp? }

end Lock

/-- Asks for a lock. -/
structure CreateLockRequest where
  path : String
  ref : Option Ref
  deriving DecidableEq, Repr

namespace CreateLockRequest

def toJson (request : CreateLockRequest) : Json :=
  .ofMembers ([("path", .ofString request.path)] ++ Ref.member request.ref)

def ofJson? (v : Json) : Option CreateLockRequest := do
  let r ← v.record? [.named "path", .named "ref"]
  return {
    path := ← r.required "path" Json.text?
    ref := ← r.optional "ref" Ref.ofJson? }

end CreateLockRequest

/-- Answers with a lock that was made or removed. -/
structure LockResponse where
  lock : Lock
  deriving DecidableEq

namespace LockResponse

def toJson (response : LockResponse) : Json := .ofMembers [("lock", response.lock.toJson)]

def ofJson? (v : Json) : Option LockResponse := do
  let r ← v.record? [.named "lock"]
  return { lock := ← r.required "lock" Lock.ofJson? }

end LockResponse

/-- Answers that a path is locked already. -/
structure LockConflict where
  lock : Lock
  message : String
  deriving DecidableEq

namespace LockConflict

def toJson (conflict : LockConflict) : Json :=
  .ofMembers [("lock", conflict.lock.toJson), ("message", .ofString conflict.message)]

def ofJson? (v : Json) : Option LockConflict := do
  let r ← v.record? [.named "lock", .named "message"]
  return {
    lock := ← r.required "lock" Lock.ofJson?
    message := ← r.withDefault "message" "" Json.text? }

end LockConflict

/-- Asks for the removal of a lock, by force if its owner is someone else. -/
structure DeleteLockRequest where
  force : Bool
  ref : Option Ref
  deriving DecidableEq, Repr

namespace DeleteLockRequest

def toJson (request : DeleteLockRequest) : Json :=
  .ofMembers ([("force", .bool request.force)] ++ Ref.member request.ref)

def ofJson? (v : Json) : Option DeleteLockRequest := do
  let r ← v.record? [.named "force", .named "ref"]
  return {
    force := ← r.required "force" Json.bool?
    ref := ← r.optional "ref" Ref.ofJson? }

end DeleteLockRequest

/-- One page of a listing. -/
structure LockPage where
  locks : List Lock
  nextCursor : Option String
  deriving DecidableEq

/-- The member that gives a cursor, if there is one to give. -/
def cursorMember (name : String) (cursor : Option String) : List (String × Json) :=
  cursor.toList.map fun cursor => (name, .ofString cursor)

namespace LockPage

def toJson (page : LockPage) : Json :=
  .ofMembers <|
    [("locks", .array (page.locks.map Lock.toJson))] ++ cursorMember "next_cursor" page.nextCursor

def ofJson? (v : Json) : Option LockPage := do
  let r ← v.record? [.named "locks", .named "next_cursor"]
  return {
    locks := ← r.withDefault "locks" [] (Json.list? Lock.ofJson?)
    nextCursor := ← r.optional "next_cursor" Json.text? }

end LockPage

/-- Asks which locks are the caller's and which are not. -/
structure VerifyRequest where
  ref : Option Ref
  cursor : Option String
  deriving DecidableEq, Repr

namespace VerifyRequest

def toJson (request : VerifyRequest) : Json :=
  .ofMembers (Ref.member request.ref ++ cursorMember "cursor" request.cursor)

def ofJson? (v : Json) : Option VerifyRequest := do
  let r ← v.record? [.named "ref", .named "cursor"]
  return {
    ref := ← r.optional "ref" Ref.ofJson?
    cursor := ← r.optional "cursor" Json.text? }

end VerifyRequest

/-- One page of a verification. -/
structure VerifyPage where
  ours : List Lock
  theirs : List Lock
  nextCursor : Option String
  deriving DecidableEq

namespace VerifyPage

def toJson (page : VerifyPage) : Json :=
  .ofMembers <|
    [("ours", .array (page.ours.map Lock.toJson)),
      ("theirs", .array (page.theirs.map Lock.toJson))] ++
    cursorMember "next_cursor" page.nextCursor

def ofJson? (v : Json) : Option VerifyPage := do
  let r ← v.record? [.named "ours", .named "theirs", .named "next_cursor"]
  return {
    ours := ← r.withDefault "ours" [] (Json.list? Lock.ofJson?)
    theirs := ← r.withDefault "theirs" [] (Json.list? Lock.ofJson?)
    nextCursor := ← r.optional "next_cursor" Json.text? }

end VerifyPage

end LargeFiles.Api
