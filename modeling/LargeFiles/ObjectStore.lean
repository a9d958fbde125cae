import LargeFiles.Session
import LargeFiles.StoreError

/-!
# The object store

Blobs under their names.  A blob can be read as a stream, or its size be asked for without
reading it; both kinds of access are counted, so that users can be held to the cheaper one.
-/

namespace LargeFiles

/-- What a stream delivers: some bytes, and after them its end or a failure. -/
structure Stream where
  bytes : Bytes
  fault : Option IoError := none
  deriving DecidableEq, Repr

namespace Stream

/-- Reads to the end. -/
def drain (s : Stream) : Except IoError Bytes :=
  match s.fault with
  | none => .ok s.bytes
  | some fault => .error fault

/-- Reads up to a number of bytes.  A failure after them is not noticed. -/
def read (s : Stream) (limit : Nat) : Except IoError Bytes :=
  match s.fault with
  | none => .ok (s.bytes.take limit)
  | some fault => if limit ≤ s.bytes.length then .ok (s.bytes.take limit) else .error fault

end Stream

/-- An object in a repository. -/
structure ObjectRef where
  repository : String
  name : ObjectName
  deriving DecidableEq

/-- How diagnostics show a reference. -/
def ObjectRef.inspect (ref : ObjectRef) : String :=
  "ObjectRef \x7b repository: " ++ Text.Quoted.string ref.repository ++ ", hash: " ++
    ref.name.inspect ++ " \x7d"

/-- Blobs by name, and how often they were accessed. -/
structure ObjectStore where
  blobs : List (ObjectName × Bytes) := []
  /-- Blobs that cannot be read to the end, and after how many bytes reading fails. -/
  broken : List (ObjectName × Nat) := []
  opens : Nat := 0
  sizeQueries : Nat := 0
  deriving DecidableEq

namespace ObjectStore

/-- The content of a blob. -/
def content? (store : ObjectStore) (name : ObjectName) : Option Bytes := store.blobs.lookup name

/-- The number of blobs. -/
def size (store : ObjectStore) : Nat := store.blobs.length

/-- Stores a blob, unless there is one with its name. -/
def insert (store : ObjectStore) (name : ObjectName) (content : Bytes) : ObjectStore :=
  if (store.content? name).isSome then store
  else { store with blobs := store.blobs ++ [(name, content)] }

/-- The first content stored under a name stays. -/
theorem content?_insert_self (store : ObjectStore) (name : ObjectName) (content : Bytes) :
    (store.insert name content).content? name = some ((store.content? name).getD content) := by
  unfold insert
  split
  · next stored =>
    obtain ⟨present, h⟩ := Option.isSome_iff_exists.1 stored
    simp [h]
  · next absent =>
    rw [Option.not_isSome_iff_eq_none] at absent
    have absent' : store.blobs.lookup name = none := absent
    simp [content?, List.lookup_append, absent']

/-- No other name is concerned. -/
theorem content?_insert_of_ne (store : ObjectStore) {name other : ObjectName}
    (ne : other ≠ name) (content : Bytes) :
    (store.insert name content).content? other = store.content? other := by
  unfold insert
  split
  · rfl
  · have ne' : (other == name) = false := beq_eq_false_iff_ne.2 ne
    simp [content?, List.lookup_append, List.lookup_cons, ne']

/-- Makes readings of a blob fail after a number of bytes. -/
def breakAfter (store : ObjectStore) (name : ObjectName) (bytes : Nat) : ObjectStore :=
  { store with broken := (name, bytes) :: store.broken }

/-- How diagnostics show a store. -/
def inspect (store : ObjectStore) : String :=
  "InMemoryRawStore \x7b object_count: " ++ toString store.size ++ " \x7d"

/-- How a reading fails that breaks off. -/
def truncated : IoError := ⟨.unexpectedEof, "truncated"⟩

/-- What a reading of a blob delivers. -/
def stream (store : ObjectStore) (name : ObjectName) (content : Bytes) : Stream :=
  match store.broken.lookup name with
  | none => ⟨content, none⟩
  | some bytes => ⟨content.take bytes, some truncated⟩

/-- Opens a blob for reading. -/
def openObject (name : ObjectName) : Session ObjectStore StoreError Stream :=
  .ofFunction fun store =>
    match store.content? name with
    | none => (.error (.notFound name), store)
    | some content => (.ok (store.stream name content), { store with opens := store.opens + 1 })

/-- Asks for the size of a blob. -/
def sizeOf (name : ObjectName) : Session ObjectStore StoreError UInt64 :=
  .ofFunction fun store =>
    match store.content? name with
    | none => (.error (.notFound name), store)
    | some content =>
      (.ok (UInt64.ofNat content.length), { store with sizeQueries := store.sizeQueries + 1 })

/-- Reads a blob up to a number of bytes. -/
def readStart (name : ObjectName) (limit : Nat) : Session ObjectStore StoreError Bytes := do
  let stream ← openObject name
  .ofExcept ((stream.read limit).mapError .io)

end ObjectStore

end LargeFiles
