import LargeFiles.Remote.Client

/-!
# The in-memory service

An LFS service within the program.  Its state is a value, and what each of its operations does is
a function on states.  Objects are kept under the SHA-256 of their content; locks are kept under
their scope and path, so that a path has at most one lock in a scope; the ids of locks are
numbered and never used again.
-/

namespace LargeFiles.Remote

/-- What a lock is on: a path, within a branch or, without one, in the whole repository. -/
structure LockKey where
  scope : Option String
  path : String
  deriving DecidableEq, Repr

namespace LockKey

/-- Keys are ordered by scope, the whole repository first, and then by path. -/
instance : Ord LockKey where
  compare := compareLex (compareOn (·.scope)) (compareOn (·.path))

instance : Std.TransOrd LockKey :=
  inferInstanceAs (Std.TransCmp (compareLex (compareOn LockKey.scope) (compareOn LockKey.path)))

instance : Std.LawfulEqOrd LockKey where
  eq_of_compare {a b} h := by
    obtain ⟨scope, path⟩ := a
    obtain ⟨scope', path'⟩ := b
    have h : (compare scope scope').then (compare path path') = .eq := h
    rw [Ordering.then_eq_eq] at h
    simp only [Std.compare_eq_iff_eq] at h
    rw [h.1, h.2]

end LockKey

/-- The state of the service. -/
structure Service where
  /-- Stored contents by their hash. -/
  objects : SortedMap String Bytes := .empty
  locks : SortedMap LockKey Api.Lock := .empty
  /-- The number of locks made so far, which is the id of the last one.  The counter has no bound
      here, so runs are meant that grant fewer than 2^64 locks. -/
  lastLock : Nat := 0
  /-- Refusals of single objects, by hash. -/
  refusals : SortedMap String Api.ObjectError := .empty
  /-- Whether every batch is answered without items. -/
  emptyBatches : Bool := false
  /-- The time at which locks are made. -/
  clock : Timestamp := .epoch
  /-- How often a client was to be forgotten. -/
  invalidations : Nat := 0
  deriving DecidableEq

namespace Service

/-- What the links of this service start with, before the hash of the object. -/
def linkScheme : String := "memory://"

/-- The link of an object. -/
def linkTo (hash : String) : Api.Link := .plain (linkScheme ++ hash)

/-- Stores some content without negotiation, and gives its hash. -/
def insertObject (s : Service) (content : Bytes) : String × Service :=
  let hash := Text.Hex.encode (Digest.Sha256.digest content)
  (hash, { s with objects := s.objects.insert hash content })

/-- Refuses an object in every batch from now on. -/
def refuse (s : Service) (hash : String) (error : Api.ObjectError) : Service :=
  { s with refusals := s.refusals.insert hash error }

/-! ### Objects -/

/-- Describes a stored object. -/
def describe (s : Service) (hash : String) : Option Api.ObjectInfo :=
  (s.objects.get? hash).map fun content =>
    ⟨hash, UInt64.ofNat content.length, Api.Links.none.insert "download" (linkTo hash)⟩

/-- The answer to a request for content that is not stored. -/
def missingObject : Api.ObjectError := ⟨404, "Object does not exist"⟩

/-- What a batch response says about one object. -/
def batchItem (s : Service) (operation : Api.Operation) (object : Api.ObjectMeta) :
    Api.BatchItem :=
  -- An object may be refused whether or not it is stored.
  match s.refusals.get? object.oid with
  | some error => ⟨object.oid, object.size, .none, some error⟩
  | none =>
    let link := linkTo object.oid
    match operation, s.objects.get? object.oid with
    | .download, some content =>
      ⟨object.oid, UInt64.ofNat content.length, Api.Links.none.insert "download" link, none⟩
    | .download, none => ⟨object.oid, object.size, .none, some missingObject⟩
    | .upload, some _ => ⟨object.oid, object.size, .none, none⟩
    | .upload, none => ⟨object.oid, object.size, Api.Links.none.insert "upload" link, none⟩

/-- The answer to a batch request. -/
def batch (s : Service) (request : Api.BatchRequest) : Api.BatchResponse :=
  if s.emptyBatches then ⟨none, []⟩
  else ⟨some "basic", request.objects.map (s.batchItem request.operation)⟩

/-- The hash of the object that a link leads to. -/
def hashOfLink (link : Api.Link) : Except RemoteError String :=
  if linkScheme.toList.isPrefixOf link.href.toList then
    .ok (String.ofList (link.href.toList.drop linkScheme.toList.length))
  else .error (.api link.href 400 "not an in-memory transfer link")

/-- Why an upload is refused whose content does not fit. -/
def mismatchReason (actual target : String) (length : Nat) (size : UInt64) : String :=
  "content mismatch: got " ++ actual ++ " (" ++ toString length ++ " bytes), expected " ++
    target ++ " (" ++ toString size.toNat ++ " bytes)"

/-- Uploads through links.  The content has to have the hash that the link leads to, and the size
    that was declared. -/
def putObject (s : Service) (source : Source) (object : Api.ObjectMeta) (links : Api.Links) :
    Except RemoteError Bool × Service :=
  match links.upload? with
  | none => (.ok false, s)
  | some link =>
    match hashOfLink link with
    | .error error => (.error error, s)
    | .ok target =>
      match source with
      | .error error => (.error (.io error), s)
      | .ok content =>
        let actual := Text.Hex.encode (Digest.Sha256.digest content)
        if actual = target ∧ content.length = object.size.toNat then
          (.ok true, { s with objects := s.objects.insert actual content })
        else
          (.error (.uploadRejected object.oid
            (mismatchReason actual target content.length object.size)), s)

/-- Downloads through links. -/
def getObject (s : Service) (links : Api.Links) : Except RemoteError Bytes :=
  match links.download? with
  | none => .error (.missingLink "download")
  | some link =>
    match hashOfLink link with
    | .error error => .error error
    | .ok hash =>
      match s.objects.get? hash with
      | some content => .ok content
      | none => .error (.api link.href 404 missingObject.message)

/-! ### Locks -/

/-- Makes a lock on a path that has none in the scope. -/
def lock (s : Service) (owner : String) (path : String) (ref : Option Api.Ref) :
    Except RemoteError Api.Lock × Service :=
  let key : LockKey := ⟨ref.map (·.name), path⟩
  match s.locks.get? key with
  | some held => (.error (.lockConflict ⟨held, "already created lock"⟩), s)
  | none =>
    let made : Api.Lock := ⟨toString (s.lastLock + 1), path, some ⟨owner⟩, s.clock⟩
    (.ok made, { s with locks := s.locks.insert key made, lastLock := s.lastLock + 1 })

/-- Whether a lock is held by an owner. -/
def isOwnedBy (owner : String) (lock : Api.Lock) : Bool :=
  lock.owner.any (·.name == owner)

/-- Removes the lock with an id in the scope.  That of another owner is only removed by force. -/
def unlock (s : Service) (owner : String) (id : String) (force : Bool) (ref : Option Api.Ref) :
    Except RemoteError (Option Api.Lock) × Service :=
  match s.locks.toList.find? fun entry =>
    entry.1.scope == ref.map (·.name) && entry.2.id == id with
  | none => (.ok none, s)
  | some (key, held) =>
    if isOwnedBy owner held || force then
      (.ok (some held), { s with locks := s.locks.erase key })
    else
      (.error (.api ("locks/" ++ id ++ "/unlock") 403
        ("lock " ++ id ++ " is owned by another user")), s)

/-- The locks in the scope with the given path and id, in ascending order of their paths. -/
def listLocks (s : Service) (path id : Option String) (ref : Option Api.Ref) : List Api.Lock :=
  let inScope := s.locks.toList.filter fun entry => entry.1.scope == ref.map (·.name)
  (inScope.map (·.2)).filter fun lock =>
    path.all (lock.path == ·) && id.all (lock.id == ·)

/-- The locks in the scope, those of an owner apart from the others. -/
def verifyLocks (s : Service) (owner : String) (ref : Option Api.Ref) : Api.VerifyPage :=
  let (ours, theirs) := (s.listLocks none none ref).partition (isOwnedBy owner)
  ⟨ours, theirs, none⟩

/-! ### Clients -/

/-- The client of an owner of locks. -/
def client (owner : String) : Client Service where
  getMeta hash := .ofFunction fun s => (.ok (s.describe hash), s)
  postBatch request := .ofFunction fun s => (.ok (s.batch request), s)
  putObject source object links := .ofFunction fun s => s.putObject source object links
  getObject links := .ofFunction fun s => (s.getObject links, s)
  lock path ref := .ofFunction fun s => s.lock owner path ref
  unlock id force ref := .ofFunction fun s => s.unlock owner id force ref
  listLocks path id ref := .ofFunction fun s => (.ok (s.listLocks path id ref), s)
  verifyLocks ref := .ofFunction fun s => (.ok (s.verifyLocks owner ref), s)

/-- The clients of the service.  A principal owns locks by its login name. -/
def provider : Provider Service where
  client who := pure (client who.login)
  invalidate _ s := { s with invalidations := s.invalidations + 1 }

end Service

end LargeFiles.Remote
