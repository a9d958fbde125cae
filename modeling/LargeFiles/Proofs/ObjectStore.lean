import LargeFiles.ObjectStore
import LargeFiles.Proofs.Session

/-!
# Reading from the object store

Reading a blob changes the counts of a store and nothing else, and what a reading delivers to its
end is the content of the blob.

* `keeps_openObject`, `keeps_sizeOf`, `keeps_readStart`   what each access gives;
* `yields_readStart`                                      reading the start of a whole blob;
* `outcome_sizeOf`, `outcome_readStart`                   what each access counts;
* `matches_readStart`                                     the counts have no influence;
* `drain_stream`, `read_stream`                           what is read of a blob is its content.
-/

namespace LargeFiles.ObjectStore

/-- A store with the blobs of another; the counts may differ. -/
structure SameBlobs (store other : ObjectStore) : Prop where
  blobs : other.blobs = store.blobs
  broken : other.broken = store.broken

namespace SameBlobs

variable {store other third : ObjectStore}

protected theorem refl (store : ObjectStore) : SameBlobs store store := ⟨rfl, rfl⟩

theorem trans (h : SameBlobs store other) (k : SameBlobs other third) : SameBlobs store third :=
  ⟨k.blobs.trans h.blobs, k.broken.trans h.broken⟩

theorem content?_eq (h : SameBlobs store other) (name : ObjectName) :
    other.content? name = store.content? name := by
  rw [content?, content?, h.blobs]

theorem stream_eq (h : SameBlobs store other) (name : ObjectName) (content : Bytes) :
    other.stream name content = store.stream name content := by
  rw [stream, stream, h.broken]

end SameBlobs

/-! ### Accesses -/

/-- Opening an object leaves the blobs alone and gives the stream of its blob. -/
theorem keeps_openObject (store : ObjectStore) (name : ObjectName) :
    (openObject name).Keeps (SameBlobs store) fun stream =>
      ∃ content, store.content? name = some content ∧ stream = store.stream name content := by
  intro other same
  rw [openObject, Session.outcome_ofFunction, same.content?_eq]
  -- Counting the opening leaves the blobs as they are.
  cases stored : store.content? name with
  | none => exact ⟨same, fun _ h => nomatch h⟩
  | some content =>
    refine ⟨⟨same.blobs, same.broken⟩, fun stream h => ⟨content, rfl, ?_⟩⟩
    cases h
    exact same.stream_eq name content

/-- Asking for a size leaves the blobs alone and gives the length of the blob. -/
theorem keeps_sizeOf (store : ObjectStore) (name : ObjectName) :
    (sizeOf name).Keeps (SameBlobs store) fun size =>
      ∃ content, store.content? name = some content ∧ size = UInt64.ofNat content.length := by
  intro other same
  rw [sizeOf, Session.outcome_ofFunction, same.content?_eq]
  -- Counting the question leaves the blobs as they are.
  cases stored : store.content? name with
  | none => exact ⟨same, fun _ h => nomatch h⟩
  | some content =>
    refine ⟨⟨same.blobs, same.broken⟩, fun size h => ⟨content, rfl, ?_⟩⟩
    cases h
    rfl

/-- Reading the start of an object leaves the blobs alone and gives what its stream begins with. -/
theorem keeps_readStart (store : ObjectStore) (name : ObjectName) (limit : Nat) :
    (readStart name limit).Keeps (SameBlobs store) fun start =>
      ∃ content, store.content? name = some content ∧
        (store.stream name content).read limit = .ok start := by
  apply Session.Keeps.bind (keeps_openObject store name)
  rintro stream ⟨content, stored, rfl⟩
  apply Session.Keeps.ofExcept
  intro start h
  exact ⟨content, stored, Session.mapError_eq_ok.1 h⟩

/-! ### Accesses that succeed -/

variable {store : ObjectStore} {name : ObjectName} {content : Bytes}

/-- An object that is stored can be opened, as often as one likes. -/
theorem yields_openObject (stored : store.content? name = some content) :
    (openObject name).Yields (SameBlobs store) (store.stream name content) (SameBlobs store) := by
  intro other same
  rw [openObject, Session.outcome_ofFunction, same.content?_eq, stored]
  exact ⟨congrArg Except.ok (same.stream_eq name content), same.blobs, same.broken⟩

/-- An object that is stored has a size, as often as one asks. -/
theorem yields_sizeOf (stored : store.content? name = some content) :
    (sizeOf name).Yields (SameBlobs store) (UInt64.ofNat content.length) (SameBlobs store) := by
  intro other same
  rw [sizeOf, Session.outcome_ofFunction, same.content?_eq, stored]
  exact ⟨rfl, same.blobs, same.broken⟩

/-- An object that is stored and not broken has a start, as often as it is read. -/
theorem yields_readStart (stored : store.content? name = some content)
    (whole : store.broken.lookup name = none) (limit : Nat) :
    (readStart name limit).Yields (SameBlobs store) (content.take limit) (SameBlobs store) := by
  apply (yields_openObject stored).bind
  intro other same
  rw [Session.outcome_ofExcept, stream, whole]
  exact ⟨rfl, same⟩

/-! ### Accesses and their counts -/

/-- Asking for a size is counted. -/
theorem outcome_sizeOf (stored : store.content? name = some content) :
    (sizeOf name).outcome store =
      (.ok (UInt64.ofNat content.length), { store with sizeQueries := store.sizeQueries + 1 }) := by
  rw [sizeOf, Session.outcome_ofFunction, stored]

/-- Reading the start of an object opens it once. -/
theorem outcome_readStart (stored : store.content? name = some content) (limit : Nat) :
    (readStart name limit).outcome store =
      (((store.stream name content).read limit).mapError .io,
        { store with opens := store.opens + 1 }) := by
  rw [readStart, Session.outcome_bind, openObject, Session.outcome_ofFunction, stored]
  rfl

/-! ### Accesses to stores with the same blobs -/

/-- Opening gives the same over the same blobs. -/
theorem matches_openObject (name : ObjectName) :
    (openObject name).Matches (openObject name) SameBlobs := by
  intro a b same
  rw [openObject, Session.outcome_ofFunction, Session.outcome_ofFunction, same.content?_eq]
  cases a.content? name with
  | none => exact ⟨rfl, same⟩
  | some content =>
    exact ⟨congrArg Except.ok (same.stream_eq name content).symm, same.blobs, same.broken⟩

/-- A size is the same over the same blobs. -/
theorem matches_sizeOf (name : ObjectName) : (sizeOf name).Matches (sizeOf name) SameBlobs := by
  intro a b same
  rw [sizeOf, Session.outcome_ofFunction, Session.outcome_ofFunction, same.content?_eq]
  cases a.content? name with
  | none => exact ⟨rfl, same⟩
  | some content => exact ⟨rfl, same.blobs, same.broken⟩

theorem matches_readStart (name : ObjectName) (limit : Nat) :
    (readStart name limit).Matches (readStart name limit) SameBlobs :=
  (matches_openObject name).bind fun _ => Session.Matches.ofExcept _

/-! ### Insertions -/

/-- A blob that is stored stays. -/
theorem content?_insert_of_some {other : ObjectName} {present : Bytes}
    (h : store.content? other = some present) (name : ObjectName) (content : Bytes) :
    (store.insert name content).content? other = some present := by
  by_cases same : other = name
  · subst same
    rw [content?_insert_self, h]
    rfl
  · rw [content?_insert_of_ne _ same, h]

/-- Nothing is found after an insertion but what was there and what was inserted. -/
theorem content?_of_insert {other : ObjectName} {found : Bytes}
    (h : (store.insert name content).content? other = some found) :
    store.content? other = some found ∨ found = content := by
  by_cases same : other = name
  · subst same
    rw [content?_insert_self] at h
    -- A blob that is there is not replaced.
    cases before : store.content? other with
    | none =>
      rw [before] at h
      exact .inr (Option.some.inj h).symm
    | some present =>
      rw [before] at h
      exact .inl h
  · rw [content?_insert_of_ne _ same] at h
    exact .inl h

/-! ### Streams -/

/-- What a reading delivers to its end is the content of the blob. -/
theorem drain_stream {bytes : Bytes} (h : (store.stream name content).drain = .ok bytes) :
    bytes = content := by
  rw [stream] at h
  split at h
  · cases h
    rfl
  · cases h

/-- What is read of the start of a blob is the start of its content, though a reading of the whole
    may fail. -/
theorem read_stream {start : Bytes} {limit : Nat}
    (h : (store.stream name content).read limit = .ok start) : start = content.take limit := by
  rw [stream] at h
  split at h
  · cases h
    rfl
  · simp only [Stream.read] at h
    split at h
    -- A broken stream gives what it has, if that is as much as was asked for.
    · next enough =>
      cases h
      rw [List.length_take] at enough
      rw [List.take_take, Nat.min_eq_left (by omega)]
    · cases h

end LargeFiles.ObjectStore
