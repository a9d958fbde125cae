import LargeFiles.Metadata.Store
import LargeFiles.ObjectStore
import LargeFiles.Remote.Transfer

/-!
# The depot

What the content filters work with: the object store, the metadata store, and a remote storage of
large objects with a state of type `σ`.
-/

namespace LargeFiles.Filter

/-- An error of a content filter. -/
inductive Error
  | store (error : StoreError)
  | remote (error : RemoteError)
  | io (error : IoError)
  /-- A pointer names content that the remote storage does not have. -/
  | remoteObjectMissing (oid : String) (object : ObjectName)
  deriving DecidableEq

/-- What an error says to the user, unless the words are those of the transport. -/
def Error.message? : Error → Option String
  | .store error => some ("store error: " ++ error.message)
  | .remote error => error.message?.map ("LFS error: " ++ ·)
  | .io error => some ("I/O error: " ++ error.text)
  | .remoteObjectMissing oid object =>
    some ("LFS object " ++ oid ++ " referenced by " ++ object.toHex ++ " not found")

/-- The stores that filters work on. -/
structure Depot (σ : Type) where
  objects : ObjectStore
  metadata : Metadata.Store
  remote : σ
  /-- How often a reader was asked for. -/
  readerRequests : Nat := 0

/-- The remote storage: its clients, and the MD5 that it reports with a reader, if any. -/
structure Backend (σ : Type) where
  provider : Remote.Provider σ
  reportedMd5 : Remote.Reader → Option String

/-- A computation of a filter. -/
abbrev Task (σ α : Type) : Type := Session (Depot σ) Error α

namespace Task

variable {σ α : Type}

/-- A task on the object store. -/
def onObjects (s : Session ObjectStore StoreError α) : Task σ α :=
  (s.mapError .store).onPart (·.objects) fun depot objects => { depot with objects }

/-- A task on the remote storage. -/
def onRemote (s : Session σ RemoteError α) : Task σ α :=
  (s.mapError .remote).onPart (·.remote) fun depot remote => { depot with remote }

end Task

end LargeFiles.Filter
