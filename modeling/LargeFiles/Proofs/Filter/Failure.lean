import LargeFiles.Filter.Content
import LargeFiles.Proofs.Session
import LargeFiles.Remote.Service

/-!
# A failed call records nothing

Whatever goes wrong in a call to a filter, the metadata store is left as it was, with every table
and, if it is a journal, with the bytes of its file.  The reason is the order of things: look-up,
opening and reading come first and leave the store alone; only what was read to its end is put in,
and a put does not fail.

* `Spares`                         the metadata store is left alone;
* `SparesOnFailure`                it is left alone by a task that fails;
* `sparesOnFailure_record`         measuring a stream;
* `failed_call_records_nothing`    every call to a filter, with any remote storage.
-/

namespace LargeFiles.Filter

variable {σ α β : Type}

/-- The task never changes the metadata store. -/
def Spares (s : Task σ α) : Prop :=
  ∀ store, s.Keeps (fun depot => depot.metadata = store) fun _ => True

/-- The task does not change the metadata store if it fails. -/
def SparesOnFailure (s : Task σ α) : Prop :=
  ∀ store, s.Ends (fun depot => depot.metadata = store) (fun _ _ => True)
    fun _ depot => depot.metadata = store

/-! ### Rules -/

theorem Spares.pure (a : α) : Spares (Pure.pure a : Task σ α) :=
  fun _ => Session.Keeps.pure trivial

theorem Spares.throw (error : Error) : Spares (MonadExcept.throw error : Task σ α) :=
  fun _ => Session.Keeps.throw error

theorem Spares.bind {s : Task σ α} {f : α → Task σ β} (hs : Spares s) (hf : ∀ a, Spares (f a)) :
    Spares (s >>= f) :=
  fun store => (hs store).bind fun a _ => hf a store

/-- A task that never changes the store does not change it by failing. -/
theorem Spares.sparesOnFailure {s : Task σ α} (hs : Spares s) : SparesOnFailure s :=
  fun store => ⟨fun _ _ _ _ => trivial, (hs store).ends.error⟩

/-- What comes before a task that spares the store on failure may read as it likes. -/
theorem Spares.bind_sparesOnFailure {s : Task σ α} {f : α → Task σ β} (hs : Spares s)
    (hf : ∀ a, SparesOnFailure (f a)) : SparesOnFailure (s >>= f) := by
  intro store
  apply (hs store).ends.bind
  intro a
  exact ⟨fun _ _ _ _ => trivial, fun depot e here => (hf a store).error depot e here.2⟩

/-- What is made of the result does not matter. -/
theorem SparesOnFailure.map {s : Task σ α} (hs : SparesOnFailure s) (g : α → β) :
    SparesOnFailure (do return g (← s)) :=
  fun store => (hs store).bind fun _ => Session.Ends.pure fun _ _ => trivial

/-- The blobs are apart from the metadata store, whatever is done with them. -/
theorem spares_onObjects (s : Session ObjectStore StoreError α) :
    Spares (Task.onObjects s : Task σ α) :=
  fun _ _ here => ⟨here, fun _ _ => trivial⟩

/-- The remote storage is apart from the metadata store, whatever is done with it. -/
theorem spares_onRemote (s : Session σ RemoteError α) : Spares (Task.onRemote s) :=
  fun _ _ here => ⟨here, fun _ _ => trivial⟩

theorem spares_ofExcept (result : Except Error α) :
    Spares (Session.ofExcept result : Task σ α) :=
  fun _ => Session.Keeps.ofExcept fun _ _ => trivial

/-! ### Look-up and opening -/

theorem spares_md5? (cache : Cache) (object : ObjectName) :
    Spares (cache.md5? object : Task σ (Option String)) :=
  fun _ _ here => ⟨here, fun _ _ => trivial⟩

theorem spares_size? (cache : Cache) (object : ObjectName) :
    Spares (cache.size? object : Task σ (Option UInt64)) :=
  fun _ _ here => ⟨here, fun _ _ => trivial⟩

/-- To find out whether a blob is a pointer takes its size and its first bytes. -/
theorem spares_pointer? (object : ObjectName) :
    Spares (pointer? object : Task σ (Option Pointer)) := by
  apply (spares_onObjects _).bind
  intro size
  -- A blob that is too large for a pointer is not opened.
  split
  · exact .pure none
  · apply (spares_onObjects _).bind
    intro start
    split
    · exact .pure _
    · exact .throw _

/-- A reader is asked of the remote storage.  That the request is counted is no part of the
    metadata. -/
theorem spares_requestReader (backend : Backend σ) (object : ObjectName) (pointer : Pointer) :
    Spares (requestReader backend object pointer) := by
  -- Counting the request leaves the records as they are.
  have counted : Spares (modify fun depot : Depot σ =>
      { depot with readerRequests := depot.readerRequests + 1 } : Task σ PUnit) :=
    fun _ _ here => ⟨here, fun _ _ => trivial⟩
  apply counted.bind
  intro _
  apply (spares_onRemote _).bind
  intro reader
  split
  · exact .pure _
  · exact .throw _

/-- What is read there is not recorded by itself. -/
theorem spares_readRemote (backend : Backend σ) (reader : Remote.Reader) :
    Spares (readRemote backend reader) :=
  (spares_onRemote _).bind fun _ => .pure _

/-- A stream can be opened without a trace in the store. -/
theorem spares_openStream (backend : Backend σ) (filter : Filter) (object : ObjectName) :
    Spares (openStream backend filter object) := by
  cases filter with
  | raw | plain => exact spares_onObjects _
  | link => exact (spares_onObjects _).bind fun _ => .pure _
  -- A filter for pointers opens the blob or what the blob points to.
  | lfs =>
    apply (spares_pointer? object).bind
    intro pointer
    cases pointer with
    | none => exact spares_onObjects _
    | some pointer =>
      exact (spares_requestReader backend object pointer).bind fun reader =>
        spares_readRemote backend reader

/-- The hash of the content is that of the object or in the pointer. -/
theorem spares_contentHash (filter : Filter) (object : ObjectName) :
    Spares (contentHash filter object : Task σ String) := by
  cases filter with
  | raw | link | plain => exact .pure _
  | lfs =>
    apply (spares_pointer? object).bind
    intro pointer
    cases pointer <;> exact .pure _

/-- A size is told without being recorded, wherever it comes from. -/
theorem spares_size (filter : Filter) (object : ObjectName) :
    Spares (size filter object : Task σ UInt64) := by
  cases filter with
  | raw | plain => exact spares_onObjects _
  | link => exact (spares_onObjects _).bind fun _ => .pure _
  | lfs =>
    apply (spares_size? _ object).bind
    intro known
    cases known with
    | some size => exact .pure _
    | none =>
      apply (spares_pointer? object).bind
      intro pointer
      cases pointer with
      -- A pointer tells the size by itself.
      | some pointer => exact .pure _
      | none => exact spares_onObjects _

/-! ### Measuring -/

/-- A put does not fail. -/
theorem ends_put (key : Metadata.Key) (value : Metadata.Value) {pre : Depot σ → Prop}
    {fail : Error → Depot σ → Prop} :
    (Cache.put key value : Task σ Unit).Ends pre (fun _ _ => True) fail where
  ok _ _ _ _ := trivial
  error _ _ _ failed := nomatch failed

/-- Nothing is put in before the stream is read to its end, and nothing fails after that. -/
theorem sparesOnFailure_record (cache : Cache) (object : ObjectName) (wantMd5 wantSize : Bool)
    (stream : Stream) :
    SparesOnFailure (record cache object wantMd5 wantSize stream : Task σ Bytes) := by
  apply (spares_ofExcept _).bind_sparesOnFailure
  intro bytes store
  have result : ∀ pre : Depot σ → Prop, (pure bytes : Task σ Bytes).Ends pre
      (fun _ _ => True) fun _ depot => depot.metadata = store :=
    fun _ => Session.Ends.pure fun _ _ => trivial
  -- Reading has come to its end.  What is left are puts, which never fail, so nothing of the store
  -- needs to be restored.
  cases wantMd5 <;> cases wantSize
  · exact result _
  · exact (ends_put _ _).bind fun _ => result _
  · exact (ends_put _ _).bind fun _ => result _
  · exact (ends_put _ _).bind fun _ => (ends_put _ _).bind fun _ => result _

/-- To measure a stream is to read it and to record what is wanted. -/
theorem sparesOnFailure_md5OfStream (cache : Cache) (object : ObjectName) (wantSize : Bool)
    (stream : Stream) :
    SparesOnFailure (md5OfStream cache object wantSize stream : Task σ String) :=
  (sparesOnFailure_record cache object true wantSize stream).map _

/-- An MD5 that is not known is measured, if the content can be opened. -/
theorem sparesOnFailure_getMd5 {opening : Task σ Stream} (spares : Spares opening) (cache : Cache)
    (object : ObjectName) (wantSize : Bool) :
    SparesOnFailure (getMd5 opening cache object wantSize) := by
  apply (spares_md5? cache object).bind_sparesOnFailure
  intro known
  cases known with
  | some md5 => exact (Spares.pure md5).sparesOnFailure
  | none =>
    exact spares.bind_sparesOnFailure fun stream => sparesOnFailure_md5OfStream _ _ _ stream

/-- A size that is not known is measured, if the content can be opened. -/
theorem sparesOnFailure_getSize {opening : Task σ Stream} (spares : Spares opening) (cache : Cache)
    (object : ObjectName) (wantMd5 : Bool) :
    SparesOnFailure (getSize opening cache object wantMd5) := by
  apply (spares_size? cache object).bind_sparesOnFailure
  intro known
  cases known with
  | some size => exact (Spares.pure size).sparesOnFailure
  | none =>
    exact spares.bind_sparesOnFailure fun stream => (sparesOnFailure_record _ _ _ _ stream).map _

/-- The MD5 by a filter, however it comes to it. -/
theorem sparesOnFailure_md5 (backend : Backend σ) (filter : Filter) (object : ObjectName) :
    SparesOnFailure (md5 backend filter object) := by
  have opening := spares_openStream backend filter object
  cases filter with
  | raw | link | plain => exact sparesOnFailure_getMd5 opening _ object false
  | lfs =>
    apply (spares_md5? _ object).bind_sparesOnFailure
    intro known
    cases known with
    | some md5 => exact (Spares.pure md5).sparesOnFailure
    | none =>
      apply (spares_pointer? object).bind_sparesOnFailure
      intro pointer
      cases pointer with
      -- No pointer: the blob itself is measured.
      | none => exact sparesOnFailure_getMd5 opening _ object true
      | some pointer =>
        apply (spares_requestReader backend object pointer).bind_sparesOnFailure
        intro reader
        split
        · -- A digest that the storage reports is put in as the last thing that is done.
          exact fun store => (ends_put _ _).bind fun _ => Session.Ends.pure fun _ _ => trivial
        · apply (spares_readRemote backend reader).bind_sparesOnFailure
          exact fun stream => sparesOnFailure_md5OfStream _ _ _ stream

/-! ### Calls -/

/-- A call to a filter, or to what measures the content of filters.  The opening of a stream is
    that of any filter, which leaves the metadata store alone. -/
inductive Call (σ : Type)
  | openStream (filter : Filter)
  | md5 (filter : Filter)
  | size (filter : Filter)
  | contentHash (filter : Filter)
  | getMd5 (opening : Task σ Stream) (spares : Spares opening) (cache : Cache) (wantSize : Bool)
  | getSize (opening : Task σ Stream) (spares : Spares opening) (cache : Cache) (wantMd5 : Bool)
  | md5OfStream (cache : Cache) (stream : Stream) (wantSize : Bool)

/-- Carries out a call, whatever the answer. -/
def Call.task (backend : Backend σ) (object : ObjectName) : Call σ → Task σ Unit
  | openStream filter => do let _ ← filter.openStream backend object
  | md5 filter => do let _ ← filter.md5 backend object
  | size filter => do let _ ← filter.size object
  | contentHash filter => do let _ ← filter.contentHash object
  | getMd5 opening _ cache wantSize => do let _ ← Filter.getMd5 opening cache object wantSize
  | getSize opening _ cache wantMd5 => do let _ ← Filter.getSize opening cache object wantMd5
  | md5OfStream cache stream wantSize => do
    let _ ← Filter.md5OfStream cache object wantSize stream

/-- A call that fails leaves the metadata store as it was: its tables and, if it is a journal, its
    file. -/
theorem failed_call_records_nothing (backend : Backend σ) (object : ObjectName) (call : Call σ)
    (depot : Depot σ) {error : Error}
    (failed : ((call.task backend object).outcome depot).1 = .error error) :
    ((call.task backend object).outcome depot).2.metadata = depot.metadata := by
  -- Every call is one of the tasks above, whose answer is dropped.
  have spares : SparesOnFailure (call.task backend object) := by
    cases call with
    | openStream filter => exact (spares_openStream backend filter object).sparesOnFailure.map _
    | md5 filter => exact (sparesOnFailure_md5 backend filter object).map _
    | size filter => exact (spares_size filter object).sparesOnFailure.map _
    | contentHash filter => exact (spares_contentHash filter object).sparesOnFailure.map _
    | getMd5 opening spares cache wantSize =>
      exact (sparesOnFailure_getMd5 spares cache object wantSize).map _
    | getSize opening spares cache wantMd5 =>
      exact (sparesOnFailure_getSize spares cache object wantMd5).map _
    | md5OfStream cache stream wantSize =>
      exact (sparesOnFailure_md5OfStream cache object wantSize stream).map _
  exact (spares depot.metadata).error depot error rfl failed

/-- The reading of a blob of three bytes fails after two of them while its MD5 and its size are to
    be recorded in a journal. -/
theorem failed_call_records_nothing_broken_blob :
    let backend : Backend Remote.Service := ⟨Remote.Service.provider, fun _ => none⟩
    let depot : Depot Remote.Service :=
      { objects := (ObjectStore.insert {} .null [1, 2, 3]).breakAfter .null 2
        metadata := .journal ⟨[], .empty⟩, remote := {} }
    let call : Call Remote.Service :=
      .getMd5 (openStream backend raw .null) (spares_openStream backend raw .null) ⟨"new"⟩ true
    ((call.task backend .null).outcome depot).1 = .error (.io ObjectStore.truncated) ∧
      ((call.task backend .null).outcome depot).2.metadata = depot.metadata := by
  intro backend depot call
  have failed : ((call.task backend .null).outcome depot).1 = .error (.io ObjectStore.truncated) :=
    rfl
  exact ⟨failed, failed_call_records_nothing backend .null call depot failed⟩

end LargeFiles.Filter
