import LargeFiles.Filter.Measure

/-!
# Content filters

A content filter decides which bytes are served for an object.

* `raw` serves the object as it is stored.
* `link` serves a symbolic link in its special-file form, which is a marker before the target.
* `lfs` serves the large object that a pointer names, and every other object as it is stored.
* `plain` is any other filter that serves objects as they are stored, under a name of its own.

Each filter has a cache under its name, and tells the MD5, the size and the identity of what it
serves.
-/

namespace LargeFiles

/-- Which bytes are served for an object. -/
inductive Filter
  | raw
  | link
  | lfs
  | plain (name : String)
  deriving DecidableEq, Repr

namespace Filter

variable {σ : Type}

/-- The name of a filter, which is that of its cache and stands in its content hashes. -/
def name : Filter → String
  | raw => "raw"
  | link => "link"
  | lfs => "lfs"
  | plain name => name

/-- The cache of a filter. -/
def cache (filter : Filter) : Cache := ⟨filter.name⟩

/-- The marker before the target of a symbolic link. -/
def linkMarker : Bytes := Bytes.ofString "link "

/-! ### Pointers -/

/-- The pointer that an object is, if it is one.  A larger object is not opened at all. -/
def pointer? (object : ObjectName) : Task σ (Option Pointer) := do
  let size ← .onObjects (ObjectStore.sizeOf object)
  if UInt64.ofNat Pointer.maxSize < size then return none
  let start ← .onObjects (ObjectStore.readStart object Pointer.maxSize)
  match Pointer.parse start with
  | .ok pointer => return pointer
  | .error fault => throw (.remote (.malformedPointer fault))

/-- Asks the remote storage for the content that a pointer names, anonymously. -/
def requestReader (backend : Backend σ) (object : ObjectName) (pointer : Pointer) :
    Task σ Remote.Reader := do
  modify fun depot => { depot with readerRequests := depot.readerRequests + 1 }
  match ← .onRemote (backend.provider.getReader pointer.oid .anonymous) with
  | some reader => return reader
  | none => throw (.remoteObjectMissing pointer.oid object)

/-- The content of a negotiated object. -/
def readRemote (backend : Backend σ) (reader : Remote.Reader) : Task σ Stream := do
  let bytes ← .onRemote (backend.provider.read reader)
  return ⟨bytes, none⟩

/-! ### What a filter serves -/

/-- Opens what a filter serves for an object. -/
def openStream (backend : Backend σ) (filter : Filter) (object : ObjectName) : Task σ Stream :=
  match filter with
  | raw | plain _ => .onObjects (ObjectStore.openObject object)
  | link => do
    let stream ← .onObjects (ObjectStore.openObject object)
    return { stream with bytes := linkMarker ++ stream.bytes }
  | lfs => do
    match ← pointer? object with
    | some pointer => readRemote backend (← requestReader backend object pointer)
    | none => .onObjects (ObjectStore.openObject object)

/-- The identity of what a filter serves for an object: equal hashes mean equal bytes.  Pointers
    to one large object share its hash. -/
def contentHash (filter : Filter) (object : ObjectName) : Task σ String :=
  match filter with
  | lfs => do
    match ← pointer? object with
    | some pointer => return lfs.name ++ " " ++ pointer.oid
    | none => return lfs.name ++ " " ++ object.toHex
  | _ => return filter.name ++ " " ++ object.toHex

/-- The MD5 of what a filter serves for an object. -/
def md5 (backend : Backend σ) (filter : Filter) (object : ObjectName) : Task σ String :=
  match filter with
  | lfs => do
    match ← lfs.cache.md5? object with
    -- What was recorded is served even if the storage has lost the content.
    | some md5 => return md5
    | none =>
      match ← pointer? object with
      | some pointer => do
        let reader ← requestReader backend object pointer
        match backend.reportedMd5 reader with
        | some md5 => do
          -- The storage knows the digest, so the content is not fetched.
          lfs.cache.putMd5 object md5
          return md5
        | none => md5OfStream lfs.cache object true (← readRemote backend reader)
      | none => getMd5 (lfs.openStream backend object) lfs.cache object true
  | _ => getMd5 (filter.openStream backend object) filter.cache object false

/-- The size of what a filter serves for an object. -/
def size (filter : Filter) (object : ObjectName) : Task σ UInt64 :=
  match filter with
  | raw | plain _ => .onObjects (ObjectStore.sizeOf object)
  | link => do
    let size ← .onObjects (ObjectStore.sizeOf object)
    return size + UInt64.ofNat linkMarker.length
  | lfs => do
    match ← lfs.cache.size? object with
    | some size => return size
    | none =>
      match ← pointer? object with
      -- The pointer says the size, so the content need not be there.
      | some pointer => return pointer.size
      | none => .onObjects (ObjectStore.sizeOf object)

/-- How diagnostics show a filter. -/
def inspect (filter : Filter) : String :=
  let variant := match filter with
    | raw => "Raw"
    | link => "Link"
    | lfs => "Lfs"
    | plain _ => "Plain"
  variant ++ "(" ++ variant ++ "Filter \x7b cache: " ++ filter.cache.inspect ++ " \x7d)"

end Filter

end LargeFiles
