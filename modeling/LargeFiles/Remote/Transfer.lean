import LargeFiles.Remote.Client

/-!
# Moving objects

Every transfer is negotiated by a batch of one object and then goes through the links of the
response.
-/

namespace LargeFiles.Remote

variable {σ : Type}

/-- A stored object that a download was negotiated for. -/
structure Reader where
  object : Api.ObjectMeta
  links : Api.Links
  deriving DecidableEq

namespace Reader

/-- The name of the content, with the scheme. -/
def oid (reader : Reader) : String := Pointer.scheme ++ reader.object.oid

/-- The hash of the content. -/
def hash (reader : Reader) : String := reader.object.oid

/-- The size of the content. -/
def size (reader : Reader) : UInt64 := reader.object.size

end Reader

namespace Provider

/-- Describes a stored object, asked for anonymously. -/
def getMeta (provider : Provider σ) (hash : String) :
    Session σ RemoteError (Option Api.ObjectInfo) := do
  (← provider.client .anonymous).getMeta hash

/-- Uploads what the items of a batch response ask for, in their order. -/
def uploadItems (client : Client σ) (source : Source) :
    List Api.BatchItem → Session σ RemoteError Unit
  | [] => pure ()
  | item :: rest =>
    match item.error with
    | some error => throw (.item item.oid error)
    | none => do
      let _ ← client.putObject source item.object item.actions
      uploadItems client source rest

/-- Uploads an object.  One that the service has already is not transferred again. -/
def putObject (provider : Provider σ) (who : Principal) (source : Source) (hash : String)
    (size : UInt64) : Session σ RemoteError Unit := do
  let client ← provider.client who
  let response ← client.postBatch (.basic .upload [⟨hash, size⟩])
  if response.objects.isEmpty then throw (.emptyBatch .upload hash)
  uploadItems client source response.objects

/-- Downloads through the given links, anonymously. -/
def getObject (provider : Provider σ) (links : Api.Links) : Session σ RemoteError Bytes := do
  (← provider.client .anonymous).getObject links

/-- The reader that a batch response gives: that of its first item, unless this is refused. -/
def readerOf (response : Api.BatchResponse) : Option Reader :=
  match response.objects with
  | [] => none
  | item :: _ => if item.error.isSome then none else some ⟨item.object, item.actions⟩

/-- Negotiates the download of an object, given by its name with the scheme. -/
def getReader (provider : Provider σ) (oid : String) (who : Principal) :
    Session σ RemoteError (Option Reader) :=
  match Pointer.hashOfOid? oid with
  | none => pure none
  | some hash => do
    let client ← provider.client who
    let response ← client.postBatch (.basic .download [⟨hash, 0⟩])
    return readerOf response

/-- The content of a negotiated object, from its start. -/
def read (provider : Provider σ) (reader : Reader) : Session σ RemoteError Bytes :=
  provider.getObject reader.links

end Provider

end LargeFiles.Remote
