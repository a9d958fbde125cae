import LargeFiles.Proofs.Filter.Detection
import LargeFiles.Proofs.Filter.Failure
import LargeFiles.Proofs.Filter.Recording
import LargeFiles.Proofs.Metadata.History

/-!
# What a request adds

Whatever remote storage a filter works with, a request to it leaves the blobs as they are and puts
nothing into the metadata store but an MD5 and a size of its own.  The MD5 may be one that the
storage reports and the size that of a content that the storage has; but of a blob that is no
pointer the size is that of the blob, with the marker if it is a link.

* `Presents`                  what a blob alone says about the bytes that a filter delivers;
* `Noted`, `Adds`             what a request may put in, and the depots that this leads to;
* `adds_md5`, `adds_size`, ...   the requests one by one;
* `adds_call`                 each of them adds nothing else.
-/

namespace LargeFiles.Filter

open Metadata (Entry)

variable {σ α β : Type}

/-- Whether a filter may deliver the bytes for the blob.  Of a pointer this says nothing. -/
def Presents (filter : Filter) (blob bytes : Bytes) : Prop :=
  match filter with
  | raw | plain _ => bytes = blob
  | link => bytes = linkMarker ++ blob
  | lfs => blob.length < UInt64.size → Pointer.parse blob = .ok none → bytes = blob

/-- Whether what the stream delivers to its end may be delivered for the blob of an object. -/
def Shows (depot : Depot σ) (filter : Filter) (object : ObjectName) (stream : Stream) : Prop :=
  ∃ blob, depot.objects.content? object = some blob ∧
    ∀ bytes, stream.drain = .ok bytes → Presents filter blob bytes

/-- Whether every MD5 that a storage reports fits into a record. -/
def Backend.ReportsFit (backend : Backend σ) : Prop :=
  ∀ reader md5, backend.reportedMd5 reader = some md5 →
    ∀ object, Entry.Fits ⟨lfs.cache.md5Key object, .text md5⟩

/-- The in-memory service reports none. -/
theorem reportsFit_backend : backend.ReportsFit := fun _ _ reported => nomatch reported

/-- An entry that a request to a filter about an object may put in. -/
inductive Noted (depot : Depot σ) (filter : Filter) (object : ObjectName) : Entry → Prop
  | md5 {text : String} (fits : Entry.Fits ⟨filter.cache.md5Key object, .text text⟩) :
      Noted depot filter object ⟨filter.cache.md5Key object, .text text⟩
  | size {blob bytes : Bytes} (stored : depot.objects.content? object = some blob)
      (presents : Presents filter blob bytes) :
      Noted depot filter object
        ⟨filter.cache.sizeKey object, .number (UInt64.ofNat bytes.length)⟩

/-- A depot that requests to a filter about an object may have led to. -/
structure Adds (depot : Depot σ) (filter : Filter) (object : ObjectName) (other : Depot σ) :
    Prop where
  objects : ObjectStore.SameBlobs depot.objects other.objects
  metadata : depot.metadata.Becomes (Noted depot filter object) other.metadata

variable {backend : Backend σ} {depot : Depot σ} {filter : Filter} {object : ObjectName}

/-- What may be put in fits into a record, for the filters that there are. -/
theorem Noted.fits {e : Entry} (known : filter ∈ builtIn) (h : Noted depot filter object e) :
    e.Fits := by
  cases h with
  | md5 fits => exact fits
  | @size blob bytes stored presents =>
    have fact : (filter.cache.sizeKey object, .number (UInt64.ofNat bytes.length)) ∈
        facts filter object bytes := List.mem_cons_of_mem _ List.mem_cons_self
    exact fits_fact known fact

protected theorem Adds.refl (depot : Depot σ) (filter : Filter) (object : ObjectName) :
    Adds depot filter object depot :=
  ⟨.refl _, .refl⟩

/-! ### Reading -/

/-- What keeps the blobs keeps the depot. -/
theorem adds_onObjects {s : Session ObjectStore StoreError α} {post : α → Prop}
    (hs : s.Keeps (ObjectStore.SameBlobs depot.objects) post) :
    (Task.onObjects s : Task σ α).Keeps (Adds depot filter object) post := by
  apply Session.Keeps.onPart (fun other adds => adds.objects) (hs.mapError _)
  exact fun other changed adds same => ⟨same, adds.metadata⟩

theorem adds_onRemote (s : Session σ RemoteError α) :
    (Task.onRemote s).Keeps (Adds depot filter object) fun _ => True :=
  fun _ adds => ⟨⟨adds.objects, adds.metadata⟩, fun _ _ => trivial⟩

/-- The pointer that is found is the one that the blob is. -/
theorem exists_of_outcome_pointer? {pointer : Option Pointer}
    (found : ((pointer? object).outcome depot).1 = .ok pointer) :
    ∃ blob, depot.objects.content? object = some blob ∧
      (blob.length < UInt64.size → Pointer.parse blob = .ok pointer) := by
  cases stored : depot.objects.content? object with
  | none =>
    rw [pointer?, Session.outcome_bind, Task.outcome_onObjects, ObjectStore.sizeOf,
      Session.outcome_ofFunction, stored] at found
    cases found
  | some blob =>
    refine ⟨blob, rfl, fun fits => ?_⟩
    by_cases large : 1024 < blob.length
    · -- A blob that is not opened for its size would not be read as a pointer either.
      rw [outcome_pointer?_of_large stored fits large] at found
      cases found
      exact Pointer.parse_of_maxSize_lt large
    · have small : blob.length ≤ 1024 := Nat.le_of_not_lt large
      rw [outcome_pointer?_of_small stored fits small] at found
      -- What was read is the whole blob, even if its stream breaks off after it.
      cases reading : (depot.objects.stream object blob).read 1024 with
      | error fault => simp [reading, pointerOf] at found
      | ok start =>
        rw [ObjectStore.read_stream reading, List.take_of_length_le small] at reading
        rw [reading] at found
        exact Session.mapError_eq_ok.1 found

/-- A blob is read without a trace, and the pointer that it is said to be is the one that it is. -/
theorem adds_pointer? :
    (pointer? object : Task σ (Option Pointer)).Keeps (Adds depot filter object) fun pointer =>
      ∃ blob, depot.objects.content? object = some blob ∧
        (blob.length < UInt64.size → Pointer.parse blob = .ok pointer) := by
  have kept : (pointer? object : Task σ (Option Pointer)).Keeps (Adds depot filter object)
      fun _ => True := by
    apply (adds_onObjects (ObjectStore.keeps_sizeOf depot.objects object)).bind
    intro size _
    split
    · exact Session.Keeps.pure trivial
    · apply (adds_onObjects (ObjectStore.keeps_readStart depot.objects object _)).bind
      intro start _
      split
      · exact Session.Keeps.pure trivial
      · exact Session.Keeps.throw _
  -- The blobs are those of the depot that the run began with, so the answer is about them.
  intro other adds
  refine ⟨(kept other adds).1, fun pointer found => ?_⟩
  obtain ⟨blob, stored, parsed⟩ := exists_of_outcome_pointer? found
  exact ⟨blob, (adds.objects.content?_eq object).symm.trans stored, parsed⟩

/-- A request for a reader adds to a counter only. -/
theorem adds_requestReader (pointer : Pointer) :
    (requestReader backend object pointer).Keeps (Adds depot filter object) fun _ => True := by
  -- The request is counted in the depot, where no record is touched.
  have counted : (modify fun d : Depot σ => { d with readerRequests := d.readerRequests + 1 } :
      Task σ PUnit).Keeps (Adds depot filter object) fun _ => True :=
    fun _ adds => ⟨⟨adds.objects, adds.metadata⟩, fun _ _ => trivial⟩
  apply counted.bind
  intro _ _
  apply (adds_onRemote _).bind
  intro reader _
  split
  · exact Session.Keeps.pure trivial
  · exact Session.Keeps.throw _

theorem adds_readRemote (reader : Remote.Reader) :
    (readRemote backend reader).Keeps (Adds depot filter object) fun _ => True :=
  (adds_onRemote _).bind fun _ _ => Session.Keeps.pure trivial

/-- Whatever comes from a remote storage may be what a pointer names. -/
theorem shows_of_pointer {blob : Bytes} {pointer : Pointer} (stream : Stream)
    (stored : depot.objects.content? object = some blob)
    (parsed : blob.length < UInt64.size → Pointer.parse blob = .ok (some pointer)) :
    Shows depot lfs object stream := by
  refine ⟨blob, stored, fun bytes _ fits none => ?_⟩
  rw [parsed fits] at none
  cases none

/-- A stream is opened that shows what the filter delivers for the blob. -/
theorem adds_openStream :
    (openStream backend filter object).Keeps (Adds depot filter object)
      (Shows depot filter object) := by
  have blobs : (Task.onObjects (ObjectStore.openObject object) : Task σ Stream).Keeps
      (Adds depot filter object) fun stream => ∃ blob,
        depot.objects.content? object = some blob ∧ stream = depot.objects.stream object blob :=
    adds_onObjects (ObjectStore.keeps_openObject depot.objects object)
  cases filter with
  | raw | plain =>
    apply blobs.imp
    rintro stream ⟨blob, stored, rfl⟩
    exact ⟨blob, stored, fun bytes drained => ObjectStore.drain_stream drained⟩
  -- The stream of a link is that of the blob, with the marker in front.
  | link =>
    apply blobs.bind
    rintro stream ⟨blob, stored, rfl⟩
    apply Session.Keeps.pure
    refine ⟨blob, stored, fun bytes drained => ?_⟩
    obtain ⟨rest, drained', rfl⟩ :=
      drain_append (depot.objects.stream object blob) linkMarker drained
    rw [ObjectStore.drain_stream drained']
    rfl
  -- What is opened depends on whether the blob is a pointer.
  | lfs =>
    apply adds_pointer?.bind
    rintro pointer ⟨blob, stored, parsed⟩
    cases pointer with
    | none =>
      apply blobs.imp
      rintro stream ⟨blob', stored', rfl⟩
      exact ⟨blob', stored', fun bytes drained _ _ => ObjectStore.drain_stream drained⟩
    | some pointer =>
      -- A pointer is replaced by what the remote storage gives for it, which shows nothing of the
      -- blob.
      apply (adds_requestReader pointer).bind
      intro reader _
      apply (adds_readRemote reader).imp
      exact fun stream _ => shows_of_pointer stream stored parsed

/-- To look up an MD5 adds nothing. -/
theorem adds_md5? (cache : Cache) :
    (cache.md5? object : Task σ (Option String)).Keeps (Adds depot filter object)
      fun _ => True :=
  fun _ adds => ⟨adds, fun _ _ => trivial⟩

/-- To look up a size adds nothing. -/
theorem adds_size? (cache : Cache) :
    (cache.size? object : Task σ (Option UInt64)).Keeps (Adds depot filter object)
      fun _ => True :=
  fun _ adds => ⟨adds, fun _ _ => trivial⟩

/-! ### Recording -/

/-- A put adds its entry, which has to be one that may be put in. -/
theorem adds_put {key : Metadata.Key} {value : Metadata.Value}
    (noted : Noted depot filter object ⟨key, value⟩) :
    (Cache.put key value : Task σ Unit).Keeps (Adds depot filter object) fun _ => True :=
  fun _ adds => ⟨⟨adds.objects, adds.metadata.put noted⟩, fun _ _ => trivial⟩

/-- What a stream delivers to its end is recorded. -/
theorem adds_record (known : filter ∈ builtIn) (wantMd5 wantSize : Bool) {stream : Stream}
    (shows : Shows depot filter object stream) :
    (record filter.cache object wantMd5 wantSize stream : Task σ Bytes).Keeps
      (Adds depot filter object) fun _ => True := by
  have drained : (Session.ofExcept (stream.drain.mapError .io) : Task σ Bytes).Keeps
      (Adds depot filter object) fun bytes => stream.drain = .ok bytes :=
    Session.Keeps.ofExcept fun bytes h => Session.mapError_eq_ok.1 h
  obtain ⟨blob, stored, presents⟩ := shows
  apply drained.bind
  intro bytes delivered
  -- What is put in is measured from the bytes of the stream, all of which were delivered.
  have fact : (filter.cache.md5Key object, .text (md5Hex bytes)) ∈ facts filter object bytes :=
    List.mem_cons_self
  have md5 : (filter.cache.putMd5 object (md5Hex bytes) : Task σ Unit).Keeps
      (Adds depot filter object) fun _ => True := adds_put (.md5 (fits_fact known fact))
  have size : (filter.cache.putSize object (UInt64.ofNat bytes.length) : Task σ Unit).Keeps
      (Adds depot filter object) fun _ => True :=
    adds_put (.size stored (presents bytes delivered))
  have result : (pure bytes : Task σ Bytes).Keeps (Adds depot filter object) fun _ => True :=
    Session.Keeps.pure trivial
  -- The MD5 goes in before the size, as far as they are wanted.
  cases wantMd5 <;> cases wantSize
  · exact result
  · exact size.bind fun _ _ => result
  · exact md5.bind fun _ _ => result
  · exact md5.bind fun _ _ => size.bind fun _ _ => result

/-- To measure a stream is to record it. -/
theorem adds_md5OfStream (known : filter ∈ builtIn) (wantSize : Bool) {stream : Stream}
    (shows : Shows depot filter object stream) :
    (md5OfStream filter.cache object wantSize stream : Task σ String).Keeps
      (Adds depot filter object) fun _ => True :=
  (adds_record known true wantSize shows).bind fun _ _ => Session.Keeps.pure trivial

/-- An MD5 that is not known is measured. -/
theorem adds_getMd5 (known : filter ∈ builtIn) (wantSize : Bool) :
    (getMd5 (openStream backend filter object) filter.cache object wantSize).Keeps
      (Adds depot filter object) fun _ => True := by
  apply (adds_md5? _).bind
  intro recorded _
  cases recorded with
  | some md5 => exact Session.Keeps.pure trivial
  | none => exact adds_openStream.bind fun _ shows => adds_md5OfStream known _ shows

/-- A size that is not known is measured. -/
theorem adds_getSize (known : filter ∈ builtIn) (wantMd5 : Bool) :
    (getSize (openStream backend filter object) filter.cache object wantMd5).Keeps
      (Adds depot filter object) fun _ => True := by
  apply (adds_size? _).bind
  intro recorded _
  cases recorded with
  -- A size on record is told, and nothing is opened.
  | some size => exact Session.Keeps.pure trivial
  | none =>
    apply adds_openStream.bind
    intro stream shows
    exact (adds_record known wantMd5 true shows).bind fun _ _ => Session.Keeps.pure trivial

/-! ### Requests -/

/-- The MD5 by a filter.  One that the remote storage reports is put in unseen. -/
theorem adds_md5 (known : filter ∈ builtIn) (fit : backend.ReportsFit) :
    (filter.md5 backend object).Keeps (Adds depot filter object) fun _ => True := by
  cases filter with
  | raw | link | plain => exact adds_getMd5 known false
  | lfs =>
    apply (adds_md5? _).bind
    intro recorded _
    cases recorded with
    -- A value that is there is told as it is.
    | some md5 => exact Session.Keeps.pure trivial
    | none =>
      apply adds_pointer?.bind
      rintro pointer ⟨blob, stored, parsed⟩
      cases pointer with
      | none => exact adds_getMd5 known true
      | some pointer =>
        apply (adds_requestReader pointer).bind
        intro reader _
        split
        -- The reported MD5 fits into a record by assumption.
        · next md5 reported =>
          have noted : Noted depot lfs object ⟨lfs.cache.md5Key object, .text md5⟩ :=
            .md5 (fit reader md5 reported object)
          exact (adds_put noted).bind fun _ _ => Session.Keeps.pure trivial
        · -- Without a report the content is read and measured.
          apply (adds_readRemote reader).bind
          exact fun stream _ =>
            adds_md5OfStream known true (shows_of_pointer stream stored parsed)

/-- The size by a filter is never put in. -/
theorem adds_size :
    (filter.size object : Task σ UInt64).Keeps (Adds depot filter object) fun _ => True := by
  have blobs : (Task.onObjects (ObjectStore.sizeOf object) : Task σ UInt64).Keeps
      (Adds depot filter object) fun _ => True :=
    (adds_onObjects (ObjectStore.keeps_sizeOf depot.objects object)).imp fun _ _ => trivial
  cases filter with
  | raw | plain => exact blobs
  | link => exact blobs.bind fun _ _ => Session.Keeps.pure trivial
  | lfs =>
    apply (adds_size? _).bind
    intro recorded _
    cases recorded with
    | some size => exact Session.Keeps.pure trivial
    | none =>
      apply adds_pointer?.bind
      intro pointer _
      cases pointer with
      -- The size of a pointer is the one that it declares, which is in the blob already.
      | some pointer => exact Session.Keeps.pure trivial
      | none => exact blobs

/-- The hash of the content adds nothing. -/
theorem adds_contentHash :
    (filter.contentHash object : Task σ String).Keeps (Adds depot filter object)
      fun _ => True := by
  cases filter with
  | raw | link | plain => exact Session.Keeps.pure trivial
  | lfs =>
    apply adds_pointer?.bind
    intro pointer _
    cases pointer <;> exact Session.Keeps.pure trivial

/-- A request to a filter, as a call with the filter's own opening and cache. -/
def Request.call (backend : Backend σ) (filter : Filter) (object : ObjectName) : Request → Call σ
  | openStream => .openStream filter
  | md5 => .md5 filter
  | size => .size filter
  | contentHash => .contentHash filter
  | getMd5 wantSize =>
    .getMd5 (filter.openStream backend object) (spares_openStream backend filter object)
      filter.cache wantSize
  | getSize wantMd5 =>
    .getSize (filter.openStream backend object) (spares_openStream backend filter object)
      filter.cache wantMd5

/-- A request leaves the blobs as they are and adds entries of the filter's own at most. -/
theorem adds_call (known : filter ∈ builtIn) (fit : backend.ReportsFit) (request : Request) :
    ((request.call backend filter object).task backend object).Keeps (Adds depot filter object)
      fun _ => True := by
  cases request with
  | openStream => exact adds_openStream.bind fun _ _ => Session.Keeps.pure trivial
  | md5 => exact (adds_md5 known fit).bind fun _ _ => Session.Keeps.pure trivial
  | size => exact adds_size.bind fun _ _ => Session.Keeps.pure trivial
  | contentHash => exact adds_contentHash.bind fun _ _ => Session.Keeps.pure trivial
  | getMd5 wantSize =>
    exact (adds_getMd5 known wantSize).bind fun _ _ => Session.Keeps.pure trivial
  | getSize wantMd5 =>
    exact (adds_getSize known wantMd5).bind fun _ _ => Session.Keeps.pure trivial

end LargeFiles.Filter
