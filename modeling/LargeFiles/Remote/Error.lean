import LargeFiles.Api.Lock
import LargeFiles.Pointer
import LargeFiles.StoreError

/-!
# Errors of remote storage

What can go wrong between the library and an LFS service.
-/

namespace LargeFiles

/-- What makes a configuration unfit for use. -/
inductive ConfigFault
  /-- The text of the configuration cannot be read. -/
  | unreadable
  | urlScheme (url : String)
  | zeroTimeout
  deriving DecidableEq, Repr

/-- What a fault says to the user.  The words for an unreadable text are those of its reader. -/
def ConfigFault.message? : ConfigFault → Option String
  | .unreadable => none
  | .urlScheme url => some ("LFS url must be http(s): " ++ Text.Quoted.string url)
  | .zeroTimeout => some "timeout_secs must be positive"

/-- An error of an operation on an LFS service. -/
inductive RemoteError
  /-- A request could not be sent, or its response not be received. -/
  | http (endpoint : String)
  /-- The service answered with an unexpected status. -/
  | api (endpoint : String) (status : Nat) (body : String)
  /-- The response is not what it should be. -/
  | deserialization (endpoint : String)
  /-- The batch response names no object. -/
  | emptyBatch (operation : Api.Operation) (oid : String)
  /-- The batch response refuses an object. -/
  | item (oid : String) (error : Api.ObjectError)
  /-- The batch response lacks the link that is needed. -/
  | missingLink (name : String)
  | uploadRejected (oid : String) (reason : String)
  /-- The path is locked already. -/
  | lockConflict (conflict : Api.LockConflict)
  | malformedPointer (fault : Pointer.Fault)
  | invalidOid (hash : String)
  /-- The writer had been finished before. -/
  | writerFinished
  | config (fault : ConfigFault)
  | io (error : IoError)
  deriving DecidableEq

namespace RemoteError

/-- What an error says to the user, unless the words are those of the transport or of a reader. -/
def message? : RemoteError → Option String
  | http _ => none
  | api endpoint status body =>
    some ("LFS server " ++ endpoint ++ " returned " ++ toString status ++ ": " ++ body)
  | deserialization _ => none
  | emptyBatch operation oid =>
    some ("empty batch response while " ++ operation.name ++ "ing " ++ oid)
  | item oid error =>
    some ("LFS error[" ++ toString error.code.toInt ++ "] for " ++ oid ++ ": " ++ error.message)
  | missingLink name => some ("batch response carries no " ++ name ++ " link")
  | uploadRejected oid reason =>
    some ("failed to upload LFS object " ++ oid ++ ": " ++ reason)
  | lockConflict conflict =>
    some ("lock conflict on " ++ conflict.lock.path ++ ": " ++ conflict.message)
  | malformedPointer fault => some ("malformed LFS pointer: " ++ fault.message)
  | invalidOid hash => some (Pointer.invalidHashMessage hash)
  | writerFinished => some "LFS writer already finished"
  | config fault => fault.message?.map ("configuration error: " ++ ·)
  | io error => some ("I/O error: " ++ error.text)

end RemoteError

end LargeFiles
