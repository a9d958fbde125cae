import LargeFiles.Principal
import LargeFiles.Remote.Error
import LargeFiles.Session

/-!
# Clients of an LFS service

A `Client` is one principal's connection to a service, as the operations it offers; `σ` is the
state that the operations act on.  Objects are named by the bare hash of their content.  A
`Provider` hands out the clients of all principals.
-/

namespace LargeFiles.Remote

/-- The content to be uploaded, or why it cannot be opened.  It can be opened again and again. -/
abbrev Source : Type := Except IoError Bytes

/-- One principal's connection to a service. -/
structure Client (σ : Type) where
  /-- Describes a stored object. -/
  getMeta : (hash : String) → Session σ RemoteError (Option Api.ObjectInfo)
  /-- Negotiates the transfer of some objects. -/
  postBatch : Api.BatchRequest → Session σ RemoteError Api.BatchResponse
  /-- Uploads through the links of an object, if there is one to upload through. -/
  putObject : Source → Api.ObjectMeta → Api.Links → Session σ RemoteError Bool
  /-- Downloads through the links of an object. -/
  getObject : Api.Links → Session σ RemoteError Bytes
  /-- Locks a path; a conflict is an error. -/
  lock : (path : String) → Option Api.Ref → Session σ RemoteError Api.Lock
  /-- Removes the lock with an id, if there is one. -/
  unlock : (id : String) → (force : Bool) → Option Api.Ref →
    Session σ RemoteError (Option Api.Lock)
  /-- Lists the locks with the given path and id. -/
  listLocks : (path id : Option String) → Option Api.Ref → Session σ RemoteError (List Api.Lock)
  /-- Tells the caller's locks and those of others apart. -/
  verifyLocks : Option Api.Ref → Session σ RemoteError Api.VerifyPage

/-- A client of a part of a state. -/
def Client.onPart {τ : Type} (part : τ → σ) (update : τ → σ → τ) (client : Client σ) :
    Client τ where
  getMeta hash := (client.getMeta hash).onPart part update
  postBatch request := (client.postBatch request).onPart part update
  putObject source object links := (client.putObject source object links).onPart part update
  getObject links := (client.getObject links).onPart part update
  lock path ref := (client.lock path ref).onPart part update
  unlock id force ref := (client.unlock id force ref).onPart part update
  listLocks path id ref := (client.listLocks path id ref).onPart part update
  verifyLocks ref := (client.verifyLocks ref).onPart part update

/-- The clients of all principals. -/
structure Provider (σ : Type) where
  /-- The client of a principal. -/
  client : Principal → Session σ RemoteError (Client σ)
  /-- Forgets what is kept for a principal. -/
  invalidate : Principal → σ → σ

/-- The clients of a part of a state. -/
def Provider.onPart {σ τ : Type} (part : τ → σ) (update : τ → σ → τ) (provider : Provider σ) :
    Provider τ where
  client who := do
    return (← (provider.client who).onPart part update).onPart part update
  invalidate who state := update state (provider.invalidate who (part state))

end LargeFiles.Remote
