import LargeFiles.Filter.Content
import LargeFiles.Proofs.ObjectStore
import LargeFiles.Proofs.Pointer
import LargeFiles.Proofs.Remote.Service

/-!
# What a filter serves

Which bytes a filter serves for an object follows from the blob and, if this is a pointer, from
what the service stores.  Whatever a stream that a filter opens delivers to its end is just these
bytes, and to open one changes nothing but counts.

* `served`              the bytes;
* `keeps_pointer?`      the pointer that a filter finds is the one that the blob is;
* `delivers_remote`     what comes through the reader of a pointer is what is served;
* `keeps_openStream`    what a filter opens delivers the bytes that it serves.
-/

namespace LargeFiles.Filter

open Remote (Service)

/-- The filters that work with the in-memory service, which reports no digest with a reader. -/
def backend : Backend Service := ⟨Service.provider, fun _ => none⟩

/-- The bytes that a filter serves for a blob. -/
def bytesOf (service : Service) (filter : Filter) (blob : Bytes) : Option Bytes :=
  match filter with
  | raw | plain _ => some blob
  | link => some (linkMarker ++ blob)
  | lfs =>
    match Pointer.parse blob with
    | .ok (some pointer) => service.objects.get? pointer.hash
    | .ok none => some blob
    | .error _ => none

/-- The bytes that a filter serves for an object. -/
def served (depot : Depot Service) (filter : Filter) (object : ObjectName) : Option Bytes :=
  (depot.objects.content? object).bind (bytesOf depot.remote filter)

/-- A depot that differs from another in its counts at most. -/
structure Alike (depot other : Depot Service) : Prop where
  objects : ObjectStore.SameBlobs depot.objects other.objects
  metadata : other.metadata = depot.metadata
  remote : other.remote = depot.remote

/-- The blob of an object, if there is one, is not too large for its size to be told. -/
def BlobFits (depot : Depot Service) (object : ObjectName) : Prop :=
  ∀ blob, depot.objects.content? object = some blob → blob.length < UInt64.size

variable {depot other third : Depot Service} {filter : Filter} {object : ObjectName}

protected theorem Alike.refl (depot : Depot Service) : Alike depot depot := ⟨.refl _, rfl, rfl⟩

/-- What is served is decided by the blobs and by the service. -/
theorem served_congr (objects : ObjectStore.SameBlobs depot.objects other.objects)
    (remote : other.remote = depot.remote) : served other = served depot := by
  funext filter object
  rw [served, served, objects.content?_eq, remote]

/-! ### Parts of a depot -/

/-- A session that leaves the blobs alone leaves the depot alone but for what is counted. -/
theorem keeps_onObjects {α : Type} {s : Session ObjectStore StoreError α} {post : α → Prop}
    (hs : s.Keeps (ObjectStore.SameBlobs depot.objects) post) :
    (Task.onObjects s : Task Service α).Keeps (Alike depot) post := by
  apply Session.Keeps.onPart (fun other alike => alike.objects) (hs.mapError _)
  intro other changed alike same
  exact ⟨same, alike.metadata, alike.remote⟩

/-- A session that leaves the service alone leaves the depot alone. -/
theorem keeps_onRemote {α : Type} {s : Session Service RemoteError α} {result}
    (hs : s.outcome depot.remote = (result, depot.remote)) :
    (Task.onRemote s).Keeps (Alike depot) fun a => result = .ok a := by
  have kept : (s.mapError Error.remote).Keeps (· = depot.remote) fun a => result = .ok a := by
    rintro service rfl
    rw [Session.outcome_mapError, hs]
    exact ⟨rfl, fun a h => Session.mapError_eq_ok.1 h⟩
  apply Session.Keeps.onPart (fun other alike => alike.remote) kept
  rintro other changed alike rfl
  exact ⟨alike.objects, alike.metadata, rfl⟩

/-- What a session gives over the same blobs it gives in every depot alike. -/
theorem yields_onObjects {α : Type} {s : Session ObjectStore StoreError α} {a : α}
    (hs : s.Yields (ObjectStore.SameBlobs depot.objects) a (ObjectStore.SameBlobs depot.objects)) :
    (Task.onObjects s : Task Service α).Yields (Alike depot) a (Alike depot) := by
  apply Session.Yields.onPart (fun other alike => alike.objects) (hs.mapError _)
  intro other changed alike same
  exact ⟨same, alike.metadata, alike.remote⟩

/-- What a session gives over this service it gives in every depot alike. -/
theorem yields_onRemote {α : Type} {s : Session Service RemoteError α} {a : α}
    (hs : s.outcome depot.remote = (.ok a, depot.remote)) :
    (Task.onRemote s).Yields (Alike depot) a (Alike depot) := by
  intro other alike
  obtain ⟨kept, -⟩ := keeps_onRemote hs other alike
  refine ⟨?_, kept⟩
  rw [Task.onRemote, Session.outcome_onPart, Session.outcome_mapError, alike.remote, hs]
  rfl

/-! ### Pointers -/

/-- The pointer that is found is the one that the blob is. -/
theorem keeps_pointer? (depot : Depot Service) (object : ObjectName) :
    (pointer? object).Keeps (Alike depot) fun pointer =>
      ∃ blob, depot.objects.content? object = some blob ∧
        (blob.length < UInt64.size → Pointer.parse blob = .ok pointer) := by
  apply Session.Keeps.bind (keeps_onObjects (ObjectStore.keeps_sizeOf depot.objects object))
  rintro size ⟨blob, stored, rfl⟩
  -- A blob that is not opened for its size would not be read as a pointer either.
  split
  · next large =>
    apply Session.Keeps.pure
    refine ⟨blob, stored, fun fits => Pointer.parse_of_maxSize_lt ?_⟩
    exact (UInt64.ofNat_lt_iff_lt (by decide) fits).1 large
  · next small =>
    apply Session.Keeps.bind (keeps_onObjects (ObjectStore.keeps_readStart depot.objects object _))
    rintro start ⟨blob', stored', start_eq⟩
    obtain rfl : blob = blob' := Option.some.inj (stored.symm.trans stored')
    -- What was read is the whole blob, even if its stream breaks off after it.
    have whole := ObjectStore.read_stream start_eq
    split
    · next pointer parsed =>
      apply Session.Keeps.pure
      refine ⟨blob, stored, fun fits => ?_⟩
      have le : blob.length ≤ Pointer.maxSize :=
        Nat.le_of_not_lt fun large => small ((UInt64.ofNat_lt_iff_lt (by decide) fits).2 large)
      rw [whole, List.take_of_length_le le] at parsed
      exact parsed
    · exact Session.Keeps.throw _

/-- The document of a pointer is found to be this pointer. -/
theorem yields_pointer?_toBytes {pointer : Pointer}
    (stored : depot.objects.content? object = some pointer.toBytes)
    (whole : depot.objects.broken.lookup object = none) :
    (pointer? object).Yields (Alike depot) (some pointer) (Alike depot) := by
  have short := pointer.length_toBytes_le
  -- The document is short enough to be looked at, and it is read whole.
  have small : ¬ UInt64.ofNat Pointer.maxSize < UInt64.ofNat pointer.toBytes.length := by
    rw [UInt64.ofNat_lt_iff_lt (by decide) (Nat.lt_of_le_of_lt short (by decide))]
    omega
  apply (yields_onObjects (ObjectStore.yields_sizeOf stored)).bind
  rw [if_neg small]
  apply (yields_onObjects (ObjectStore.yields_readStart stored whole _)).bind
  rw [List.take_of_length_le short]
  simp only [Pointer.parse_toBytes]
  exact Session.Yields.pure _

/-! ### Streams -/

/-- Whether what a stream delivers to its end are the bytes that a filter serves. -/
def Delivers (depot : Depot Service) (filter : Filter) (object : ObjectName) (stream : Stream) :
    Prop :=
  ∀ bytes, stream.drain = .ok bytes → served depot filter object = some bytes

/-- Draining a stream with some bytes put before it drains the stream. -/
theorem drain_append (stream : Stream) (front : Bytes) {bytes : Bytes}
    (h : Stream.drain ⟨front ++ stream.bytes, stream.fault⟩ = .ok bytes) :
    ∃ rest, stream.drain = .ok rest ∧ bytes = front ++ rest := by
  rw [Stream.drain] at h ⊢
  split at h
  -- The front ends no stream, so the fault, if there is one, is in the rest.
  · next whole =>
    simp only at whole
    rw [whole]
    cases h
    exact ⟨stream.bytes, rfl, rfl⟩
  · cases h

/-- That a request is counted makes no difference. -/
theorem yields_countRequest (depot : Depot Service) :
    (modify fun d => { d with readerRequests := d.readerRequests + 1 } :
      Task Service PUnit).Yields (Alike depot) ⟨⟩ (Alike depot) :=
  fun _ alike => ⟨rfl, alike.objects, alike.metadata, alike.remote⟩

/-- Asking for a reader changes no source, and the links of the reader lead to the content. -/
theorem keeps_requestReader (depot : Depot Service) (object : ObjectName) (pointer : Pointer) :
    (requestReader backend object pointer).Keeps (Alike depot) fun reader =>
      reader.links = Service.downloadLinks pointer.hash := by
  have outcome := Service.outcome_getReader depot.remote pointer.hash .anonymous
  apply Session.Keeps.bind (yields_countRequest depot).keeps
  rintro _ rfl
  apply Session.Keeps.bind (keeps_onRemote outcome)
  intro reader found
  cases reader with
  | none => exact Session.Keeps.throw _
  | some reader =>
    apply Session.Keeps.pure
    -- A content that is not offered has no reader.
    cases offered : depot.remote.offered pointer.hash with
    | none => simp [offered] at found
    | some content =>
      rw [offered] at found
      cases found
      rfl

/-- Reading changes no source, and the stream has what the service gives for the links. -/
theorem keeps_readRemote (depot : Depot Service) (reader : Remote.Reader) :
    (readRemote backend reader).Keeps (Alike depot) fun stream =>
      ∃ content, depot.remote.getObject reader.links = .ok content ∧ stream = ⟨content, none⟩ := by
  apply Session.Keeps.bind (keeps_onRemote (Service.outcome_read depot.remote reader))
  intro content found
  exact Session.Keeps.pure ⟨content, found, rfl⟩

/-- A content that is offered has a reader, in every depot alike. -/
theorem yields_requestReader {pointer : Pointer} {content : Bytes}
    (offered : depot.remote.offered pointer.hash = some content) (object : ObjectName) :
    (requestReader backend object pointer).Yields (Alike depot)
      ⟨⟨pointer.hash, UInt64.ofNat content.length⟩, Service.downloadLinks pointer.hash⟩
      (Alike depot) := by
  have outcome := Service.outcome_getReader depot.remote pointer.hash .anonymous
  rw [offered] at outcome
  apply (yields_countRequest depot).bind
  apply (yields_onRemote outcome).bind
  exact Session.Yields.pure _

/-- The reader of a content that is offered gives it whole, in every depot alike. -/
theorem yields_readRemote {hash : String} {content : Bytes}
    (offered : depot.remote.offered hash = some content) {reader : Remote.Reader}
    (links : reader.links = Service.downloadLinks hash) :
    (readRemote backend reader).Yields (Alike depot) ⟨content, none⟩ (Alike depot) := by
  have outcome := Service.outcome_read depot.remote reader
  rw [links, Service.getObject_downloadLinks, Service.get?_of_offered offered] at outcome
  exact (yields_onRemote outcome).bind (Session.Yields.pure _)

/-- The stream of a blob delivers what a filter serves that serves the blob as it is. -/
theorem delivers_stream {blob : Bytes} (stored : depot.objects.content? object = some blob)
    (same : bytesOf depot.remote filter blob = some blob) :
    Delivers depot filter object (depot.objects.stream object blob) := by
  intro bytes drained
  rw [served, stored, ObjectStore.drain_stream drained]
  exact same

/-- What comes through the reader of a pointer is what is served for the pointer. -/
theorem delivers_remote {blob content : Bytes} {pointer : Pointer}
    (stored : depot.objects.content? object = some blob)
    (parsed : Pointer.parse blob = .ok (some pointer))
    (found : depot.remote.getObject (Service.downloadLinks pointer.hash) = .ok content) :
    Delivers depot lfs object ⟨content, none⟩ := by
  intro bytes drained
  cases drained
  rw [Service.getObject_downloadLinks] at found
  rw [served, stored, Option.bind_some]
  simp only [bytesOf, parsed]
  -- The links lead to the content only if the service has it.
  split at found
  · next present =>
    cases found
    exact present
  · cases found

/-- What a filter opens delivers the bytes that it serves. -/
theorem keeps_openStream (depot : Depot Service) (filter : Filter) (object : ObjectName)
    (fits : BlobFits depot object) :
    (openStream backend filter object).Keeps (Alike depot) (Delivers depot filter object) := by
  have blobs := keeps_onObjects (ObjectStore.keeps_openObject depot.objects object)
  cases filter with
  -- Without markers or pointers the blob itself is delivered.
  | raw | plain =>
    apply blobs.imp
    rintro stream ⟨blob, stored, rfl⟩
    exact delivers_stream stored rfl
  | link =>
    apply Session.Keeps.bind blobs
    rintro stream ⟨blob, stored, rfl⟩
    apply Session.Keeps.pure
    intro bytes drained
    have whole := drain_append (depot.objects.stream object blob) linkMarker drained
    -- The marker comes first, and what comes after it is the blob.
    obtain ⟨rest, drained', rfl⟩ := whole
    rw [served, stored, ObjectStore.drain_stream drained']
    rfl
  | lfs =>
    apply Session.Keeps.bind (keeps_pointer? depot object)
    rintro pointer ⟨blob, stored, parsed⟩
    cases pointer with
    | none =>
      apply blobs.imp
      rintro stream ⟨blob', stored', rfl⟩
      obtain rfl : blob = blob' := Option.some.inj (stored.symm.trans stored')
      apply delivers_stream stored
      simp only [bytesOf, parsed (fits blob stored)]
    | some pointer =>
      apply Session.Keeps.bind (keeps_requestReader depot object pointer)
      intro reader links
      apply (keeps_readRemote depot reader).imp
      rintro stream ⟨content, found, rfl⟩
      rw [links] at found
      -- The content that was read is the one that the pointer names.
      exact delivers_remote stored (parsed (fits blob stored)) found

end LargeFiles.Filter
