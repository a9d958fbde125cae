import LargeFiles.Proofs.Filter.Cache
import LargeFiles.Proofs.Filter.Served

/-!
# What filters record

A request to a filter changes a depot in one way only: facts about the bytes that the filter
serves for the object are put into the tables of the filter's cache.

* `Coherent`              whatever a cache holds of an object is true of the bytes served for it;
* `Recorded`              the metadata stores that recording true facts leads to;
* `Coherent.follows`      recording true facts keeps every cache coherent;
* `keeps_md5`, `keeps_task`   requests record nothing but true facts.
-/

namespace LargeFiles.Filter

open Remote (Service)

/-- The filters whose caches belong to no other filter. -/
def builtIn : List Filter := [raw, link, lfs]

/-- What a cache may hold of an object for which the given bytes are served. -/
def facts (filter : Filter) (object : ObjectName) (bytes : Bytes) :
    List (Metadata.Key × Metadata.Value) :=
  [(filter.cache.md5Key object, .text (md5Hex bytes)),
    (filter.cache.sizeKey object, .number (UInt64.ofNat bytes.length))]

/-- What the cache of a filter holds of an object, if anything, are the MD5 and the length of the
    bytes that the filter serves for it. -/
structure Coherent (depot : Depot Service) (filter : Filter) (object : ObjectName) : Prop where
  md5 : ∀ value, depot.metadata.tables.get? (filter.cache.md5Key object) = some value →
    ∃ bytes, served depot filter object = some bytes ∧ value = .text (md5Hex bytes)
  size : ∀ value, depot.metadata.tables.get? (filter.cache.sizeKey object) = some value →
    ∃ bytes n, served depot filter object = some bytes ∧ value = .number n ∧
      n.toNat = bytes.length

/-- The metadata stores that a depot's own becomes by putting in what is true of the bytes that a
    filter serves for an object. -/
inductive Recorded (depot : Depot Service) (filter : Filter) (object : ObjectName) :
    Metadata.Store → Prop
  | refl : Recorded depot filter object depot.metadata
  | put {store : Metadata.Store} {bytes : Bytes} {key : Metadata.Key} {value : Metadata.Value}
      (before : Recorded depot filter object store)
      (serves : served depot filter object = some bytes)
      (fact : (key, value) ∈ facts filter object bytes) :
      Recorded depot filter object (store.putIfAbsent key value).2

variable {depot other : Depot Service} {filter g : Filter} {object p : ObjectName}

/-- Without records no record is wrong. -/
theorem coherent_of_none
    (md5 : depot.metadata.tables.get? (filter.cache.md5Key object) = none)
    (size : depot.metadata.tables.get? (filter.cache.sizeKey object) = none) :
    Coherent depot filter object := by
  constructor
  · intro value found
    rw [md5] at found
    cases found
  · intro value found
    rw [size] at found
    cases found

/-! ### Keys -/

/-- The names tell these filters apart. -/
theorem eq_of_filterName : ∀ f ∈ builtIn, ∀ g ∈ builtIn,
    f.cache.filterName = g.cache.filterName → f = g := by decide

/-- The built-in filters and the objects are told apart by the keys of their MD5s. -/
theorem md5Key_injective (hf : filter ∈ builtIn) (hg : g ∈ builtIn)
    (h : filter.cache.md5Key object = g.cache.md5Key p) : filter = g ∧ object = p :=
  (Cache.md5Key_inj.1 h).imp_left (eq_of_filterName filter hf g hg)

/-- The built-in filters and the objects are told apart by the keys of their sizes. -/
theorem sizeKey_injective (hf : filter ∈ builtIn) (hg : g ∈ builtIn)
    (h : filter.cache.sizeKey object = g.cache.sizeKey p) : filter = g ∧ object = p :=
  (Cache.sizeKey_inj.1 h).imp_left (eq_of_filterName filter hf g hg)

/-- A fact under the key of an MD5 is the MD5 of what is served. -/
theorem fact_md5Key {bytes : Bytes} {value : Metadata.Value} (hf : filter ∈ builtIn)
    (hg : g ∈ builtIn) (h : (filter.cache.md5Key object, value) ∈ facts g p bytes) :
    filter = g ∧ object = p ∧ value = .text (md5Hex bytes) := by
  simp only [facts, List.mem_cons, Prod.mk.injEq, List.not_mem_nil, or_false] at h
  rcases h with ⟨key, rfl⟩ | ⟨key, -⟩
  · exact ⟨(md5Key_injective hf hg key).1, (md5Key_injective hf hg key).2, rfl⟩
  · exact absurd key (Cache.md5Key_ne_sizeKey _ _ _ _)

/-- A fact under the key of a size is the size of what is served. -/
theorem fact_sizeKey {bytes : Bytes} {value : Metadata.Value} (hf : filter ∈ builtIn)
    (hg : g ∈ builtIn) (h : (filter.cache.sizeKey object, value) ∈ facts g p bytes) :
    filter = g ∧ object = p ∧ value = .number (UInt64.ofNat bytes.length) := by
  simp only [facts, List.mem_cons, Prod.mk.injEq, List.not_mem_nil, or_false] at h
  rcases h with ⟨key, -⟩ | ⟨key, rfl⟩
  · exact absurd key.symm (Cache.md5Key_ne_sizeKey _ _ _ _)
  · exact ⟨(sizeKey_injective hf hg key).1, (sizeKey_injective hf hg key).2, rfl⟩

/-- The record of a fact fits into a journal. -/
theorem fits_fact {bytes : Bytes} {key : Metadata.Key} {value : Metadata.Value}
    (known : filter ∈ builtIn) (fact : (key, value) ∈ facts filter object bytes) :
    Metadata.Entry.Fits ⟨key, value⟩ := by
  -- A name has at most 64 digits and an MD5 has 32, so nothing here comes near four gigabytes.
  have tables : ∀ f ∈ builtIn, (Bytes.ofString f.cache.md5Table).length ≤ 100 ∧
      (Bytes.ofString f.cache.sizeTable).length ≤ 100 := by decide
  have key_length := Bytes.length_ofString_le object.toHex
  have md5_length := Bytes.length_ofString_le (md5Hex bytes)
  rw [ObjectName.toHex, Text.Hex.length_encode] at key_length
  rw [md5Hex, Text.Hex.length_encode, Digest.Md5.length_digest] at md5_length
  have width : object.bytes.length ≤ 32 := by rcases object.width with h | h <;> omega
  have := tables filter known
  have size : UInt32.size = 4294967296 := rfl
  simp only [facts, List.mem_cons, Prod.mk.injEq, List.not_mem_nil, or_false] at fact
  rw [Metadata.Entry.Fits, Metadata.Entry.payload]
  rcases fact with ⟨rfl, rfl⟩ | ⟨rfl, rfl⟩
  all_goals
    simp only [Metadata.Entry.textBytes, Metadata.Entry.valueBytes, List.length_append,
      Bytes.length_littleEndian, Cache.md5Key, Cache.sizeKey, ObjectName.toHex, md5Hex]
    omega

/-! ### Recording -/

/-- A key has what it had before, or else a fact. -/
theorem Recorded.get? {store : Metadata.Store} (h : Recorded depot filter object store)
    {key : Metadata.Key} {value : Metadata.Value} (found : store.tables.get? key = some value) :
    depot.metadata.tables.get? key = some value ∨
      ∃ bytes, served depot filter object = some bytes ∧
        (key, value) ∈ facts filter object bytes := by
  -- The last put either found a value under its key, which it left, or put in a fact.
  induction h with
  | refl => exact .inl found
  | @put store bytes key' value' before serves fact ih =>
    rw [Metadata.Store.tables_putIfAbsent] at found
    by_cases same : key = key'
    · subst same
      rw [Metadata.get?_putIfAbsent_self] at found
      cases earlier : store.tables.get? key with
      | some previous =>
        rw [earlier] at found
        cases found
        exact ih earlier
      | none =>
        rw [earlier] at found
        cases found
        exact .inr ⟨bytes, serves, fact⟩
    · rw [Metadata.get?_putIfAbsent_of_ne _ same] at found
      exact ih found

/-- A depot that requests to a filter about an object have led to. -/
structure Follows (depot : Depot Service) (filter : Filter) (object : ObjectName)
    (other : Depot Service) : Prop where
  objects : ObjectStore.SameBlobs depot.objects other.objects
  remote : other.remote = depot.remote
  recorded : Recorded depot filter object other.metadata

protected theorem Follows.refl (depot : Depot Service) (filter : Filter) (object : ObjectName) :
    Follows depot filter object depot :=
  ⟨.refl _, rfl, .refl⟩

theorem Follows.served_eq (h : Follows depot filter object other) : served other = served depot :=
  served_congr h.objects h.remote

theorem Follows.content?_eq (h : Follows depot filter object other) (name : ObjectName) :
    other.objects.content? name = depot.objects.content? name :=
  h.objects.content?_eq name

/-- Recording true facts keeps every cache coherent. -/
theorem Coherent.follows (h : Coherent depot filter object) (hf : filter ∈ builtIn)
    (hg : g ∈ builtIn) (follows : Follows depot g p other)
    (fits : ∀ bytes, served depot filter object = some bytes → bytes.length < UInt64.size) :
    Coherent other filter object := by
  constructor
  · intro value found
    rw [follows.served_eq]
    -- Either the value was there before, or it was measured from what is served.
    rcases follows.recorded.get? found with before | ⟨bytes, serves, fact⟩
    · exact h.md5 value before
    · obtain ⟨rfl, rfl, rfl⟩ := fact_md5Key hf hg fact
      exact ⟨bytes, serves, rfl⟩
  · intro value found
    rw [follows.served_eq]
    rcases follows.recorded.get? found with before | ⟨bytes, serves, fact⟩
    · exact h.size value before
    · obtain ⟨rfl, rfl, rfl⟩ := fact_sizeKey hf hg fact
      exact ⟨bytes, _, serves, rfl, UInt64.toNat_ofNat_of_lt' (fits bytes serves)⟩

/-! ### Sessions of a filter -/

/-- A session that changes counts at most keeps what requests have led to. -/
theorem keeps_of_alike {α : Type} {s : Task Service α} {post : α → Prop}
    (hs : ∀ other, Follows depot filter object other → s.Keeps (Alike other) post) :
    s.Keeps (Follows depot filter object) post := by
  intro other follows
  obtain ⟨alike, value⟩ := hs other follows other (.refl other)
  refine ⟨⟨follows.objects.trans alike.objects, alike.remote.trans follows.remote, ?_⟩, value⟩
  rw [alike.metadata]
  exact follows.recorded

/-- A measurement of what is served may be recorded. -/
theorem keeps_put {bytes : Bytes} {key : Metadata.Key} {value : Metadata.Value}
    (serves : served depot filter object = some bytes)
    (fact : (key, value) ∈ facts filter object bytes) :
    (Cache.put key value : Task Service Unit).Keeps (Follows depot filter object)
      fun _ => True := by
  intro other follows
  exact ⟨⟨follows.objects, follows.remote, follows.recorded.put serves fact⟩, fun _ _ => trivial⟩

/-- What a stream delivers is recorded, if it is what is served. -/
theorem keeps_record (wantMd5 wantSize : Bool) {stream : Stream}
    (delivers : Delivers depot filter object stream) :
    (record filter.cache object wantMd5 wantSize stream : Task Service Bytes).Keeps
      (Follows depot filter object) fun bytes => served depot filter object = some bytes := by
  -- A stream that ends early is an error, and then nothing is measured.
  have drained : (Session.ofExcept (stream.drain.mapError .io) : Task Service Bytes).Keeps
      (Follows depot filter object) fun bytes => served depot filter object = some bytes :=
    Session.Keeps.ofExcept fun bytes h => delivers bytes (Session.mapError_eq_ok.1 h)
  apply Session.Keeps.bind drained
  intro bytes serves
  have md5 : (filter.cache.putMd5 object (md5Hex bytes) : Task Service Unit).Keeps
      (Follows depot filter object) fun _ => True := keeps_put serves List.mem_cons_self
  have size : (filter.cache.putSize object (UInt64.ofNat bytes.length) : Task Service Unit).Keeps
      (Follows depot filter object) fun _ => True :=
    keeps_put serves (List.mem_cons_of_mem _ List.mem_cons_self)
  have result : (pure bytes : Task Service Bytes).Keeps (Follows depot filter object)
      fun bytes => served depot filter object = some bytes := Session.Keeps.pure serves
  -- None, one or both of the measurements are recorded, the MD5 first.
  cases wantMd5 <;> cases wantSize
  · exact result
  · exact size.bind fun _ _ => result
  · exact md5.bind fun _ _ => result
  · exact md5.bind fun _ _ => size.bind fun _ _ => result

/-- Whether a text is recorded for an object or is the MD5 of the bytes served for it. -/
def IsMd5 (depot : Depot Service) (filter : Filter) (object : ObjectName) (md5 : String) : Prop :=
  depot.metadata.tables.get? (filter.cache.md5Key object) = some (.text md5) ∨
    ∃ bytes, served depot filter object = some bytes ∧ md5 = md5Hex bytes

/-- The MD5 that is found on record is right, if it was right before the request. -/
theorem keeps_md5? (depot : Depot Service) (hf : filter ∈ builtIn) (object : ObjectName) :
    (filter.cache.md5? object : Task Service (Option String)).Keeps (Follows depot filter object)
      fun known => ∀ md5, known = some md5 → IsMd5 depot filter object md5 := by
  intro other follows
  refine ⟨follows, fun known h md5 eq => ?_⟩
  subst eq
  have found : other.metadata.tables.getText (filter.cache.md5Key object) = .ok (some md5) :=
    Session.mapError_eq_ok.1 h
  have entry : other.metadata.tables.get? (filter.cache.md5Key object) = some (.text md5) :=
    Metadata.getText_eq_ok_iff.1 found
  -- It was on record at the start, or this request has measured it.
  rcases follows.recorded.get? entry with before | ⟨bytes, serves, fact⟩
  · exact .inl before
  · have := (fact_md5Key hf hf fact).2.2
    cases this
    exact .inr ⟨bytes, serves, rfl⟩

/-- Looking for a size changes nothing. -/
theorem keeps_size? (depot : Depot Service) (filter : Filter) (object : ObjectName) :
    (filter.cache.size? object : Task Service (Option UInt64)).Keeps
      (Follows depot filter object) fun _ => True :=
  fun _ follows => ⟨follows, fun _ _ => trivial⟩

/-- The MD5 of a stream that delivers what is served is right. -/
theorem keeps_md5OfStream (wantSize : Bool) {stream : Stream}
    (delivers : Delivers depot filter object stream) :
    (md5OfStream filter.cache object wantSize stream : Task Service String).Keeps
      (Follows depot filter object) (IsMd5 depot filter object) := by
  apply Session.Keeps.bind (keeps_record true wantSize delivers)
  intro bytes serves
  exact Session.Keeps.pure (.inr ⟨bytes, serves, rfl⟩)

/-- Requests leave the lengths of blobs as they were. -/
theorem Follows.blobFits (h : Follows depot filter object other) (fits : BlobFits depot object) :
    BlobFits other object := by
  intro blob stored
  rw [h.content?_eq] at stored
  exact fits blob stored

theorem Follows.delivers_iff (h : Follows depot filter object other) (stream : Stream) :
    Delivers other filter object stream ↔ Delivers depot filter object stream := by
  rw [Delivers, Delivers, h.served_eq]

/-- Opening records nothing, and the stream delivers what is served. -/
theorem follows_openStream (fits : BlobFits depot object) :
    (openStream backend filter object).Keeps (Follows depot filter object)
      (Delivers depot filter object) := by
  apply keeps_of_alike
  intro other follows
  apply (keeps_openStream other filter object (follows.blobFits fits)).imp
  exact fun stream => (follows.delivers_iff stream).1

/-- Looking for a pointer records nothing, and what it finds is what parsing finds. -/
theorem follows_pointer? (fits : BlobFits depot object) :
    (pointer? object).Keeps (Follows depot filter object) fun pointer =>
      ∃ blob, depot.objects.content? object = some blob ∧ Pointer.parse blob = .ok pointer := by
  apply keeps_of_alike
  intro other follows
  apply (keeps_pointer? other object).imp
  rintro pointer ⟨blob, stored, parsed⟩
  exact ⟨blob, (follows.content?_eq object).symm.trans stored,
    parsed (follows.blobFits fits blob stored)⟩

/-- Asking for a reader records nothing, and the links of the reader lead to the content. -/
theorem follows_requestReader (pointer : Pointer) :
    (requestReader backend object pointer).Keeps (Follows depot filter object) fun reader =>
      reader.links = Service.downloadLinks pointer.hash :=
  keeps_of_alike fun other _ => keeps_requestReader other object pointer

/-- Reading records nothing, and the stream has what the service gives for the links. -/
theorem follows_readRemote (reader : Remote.Reader) :
    (readRemote backend reader).Keeps (Follows depot filter object) fun stream =>
      ∃ content, depot.remote.getObject reader.links = .ok content ∧ stream = ⟨content, none⟩ := by
  apply keeps_of_alike
  intro other follows
  rw [← follows.remote]
  exact keeps_readRemote other reader

/-- An MD5 that is looked up is right, and if it is recorded the record is right. -/
theorem keeps_getMd5 (fits : BlobFits depot object) (hf : filter ∈ builtIn) (wantSize : Bool) :
    (getMd5 (openStream backend filter object) filter.cache object wantSize).Keeps
      (Follows depot filter object) (IsMd5 depot filter object) := by
  apply Session.Keeps.bind (keeps_md5? depot hf object)
  intro known recorded
  cases known with
  | some md5 => exact Session.Keeps.pure (recorded md5 rfl)
  | none => exact (follows_openStream fits).bind fun _ delivers => keeps_md5OfStream _ delivers

/-- If a size that is looked up is recorded, the record is right. -/
theorem keeps_getSize (fits : BlobFits depot object) (wantMd5 : Bool) :
    (getSize (openStream backend filter object) filter.cache object wantMd5).Keeps
      (Follows depot filter object) fun _ => True := by
  apply Session.Keeps.bind (keeps_size? depot filter object)
  intro known recorded
  cases known with
  -- What is on record is told without being measured again.
  | some size => exact Session.Keeps.pure trivial
  | none =>
    apply (follows_openStream fits).bind
    intro stream delivers
    apply (keeps_record wantMd5 true delivers).bind
    intro bytes serves
    exact Session.Keeps.pure trivial

/-- An MD5 that a filter gives is right, and if it is recorded the record is right. -/
theorem keeps_md5 (fits : BlobFits depot object) (hf : filter ∈ builtIn) :
    (filter.md5 backend object).Keeps (Follows depot filter object)
      (IsMd5 depot filter object) := by
  cases filter with
  | raw | link | plain => exact keeps_getMd5 fits hf false
  | lfs =>
    apply Session.Keeps.bind (keeps_md5? depot hf object)
    intro known recorded
    cases known with
    -- One that is on record was right at the start.
    | some md5 => exact Session.Keeps.pure (recorded md5 rfl)
    | none =>
      apply (follows_pointer? fits).bind
      rintro pointer ⟨blob, stored, parsed⟩
      cases pointer with
      | none => exact keeps_getMd5 fits hf true
      | some pointer =>
        -- The service reports no digest, so the content is fetched and measured.
        apply (follows_requestReader pointer).bind
        intro reader links
        apply (follows_readRemote reader).bind
        rintro stream ⟨content, found, rfl⟩
        rw [links] at found
        exact keeps_md5OfStream true (delivers_remote stored parsed found)

/-- A size that a filter gives is not recorded. -/
theorem keeps_size (fits : BlobFits depot object) :
    (filter.size object : Task Service UInt64).Keeps (Follows depot filter object)
      fun _ => True := by
  have blobs : (Task.onObjects (ObjectStore.sizeOf object) : Task Service UInt64).Keeps
      (Follows depot filter object) fun _ => True :=
    keeps_of_alike fun other _ =>
      (keeps_onObjects (ObjectStore.keeps_sizeOf other.objects object)).imp fun _ _ => trivial
  cases filter with
  | raw | plain => exact blobs
  | link => exact blobs.bind fun _ _ => Session.Keeps.pure trivial
  | lfs =>
    apply (keeps_size? depot lfs object).bind
    intro known _
    cases known with
    | some size => exact Session.Keeps.pure trivial
    | none =>
      apply (follows_pointer? fits).bind
      intro pointer _
      cases pointer with
      -- The size that a pointer declares is given without being recorded.
      | some pointer => exact Session.Keeps.pure trivial
      | none => exact blobs

/-- A content hash is not recorded. -/
theorem keeps_contentHash (fits : BlobFits depot object) :
    (filter.contentHash object : Task Service String).Keeps (Follows depot filter object)
      fun _ => True := by
  cases filter with
  | raw | link | plain => exact Session.Keeps.pure trivial
  | lfs =>
    apply (follows_pointer? fits).bind
    intro pointer _
    cases pointer <;> exact Session.Keeps.pure trivial

/-! ### Requests -/

/-- What is asked of a filter about an object. -/
inductive Request
  | openStream
  | md5
  | size
  | contentHash
  /-- The MD5 by way of the cache of the filter, with the size recorded too if it is wanted. -/
  | getMd5 (wantSize : Bool)
  /-- The size by way of the cache of the filter, with the MD5 recorded too if it is wanted. -/
  | getSize (wantMd5 : Bool)
  deriving DecidableEq

/-- Carries out a request, whatever the answer. -/
def Request.task (filter : Filter) (object : ObjectName) : Request → Task Service Unit
  | openStream => do let _ ← filter.openStream backend object
  | md5 => do let _ ← filter.md5 backend object
  | size => do let _ ← filter.size object
  | contentHash => do let _ ← filter.contentHash object
  | getMd5 wantSize => do
    let _ ← Filter.getMd5 (filter.openStream backend object) filter.cache object wantSize
  | getSize wantMd5 => do
    let _ ← Filter.getSize (filter.openStream backend object) filter.cache object wantMd5

/-- Requests record nothing but true facts. -/
theorem keeps_task (fits : BlobFits depot object) (hf : filter ∈ builtIn) (request : Request) :
    (request.task filter object).Keeps (Follows depot filter object) fun _ => True := by
  cases request with
  | openStream => exact (follows_openStream fits).bind fun _ _ => Session.Keeps.pure trivial
  | md5 => exact (keeps_md5 fits hf).bind fun _ _ => Session.Keeps.pure trivial
  | size => exact (keeps_size fits).bind fun _ _ => Session.Keeps.pure trivial
  | contentHash => exact (keeps_contentHash fits).bind fun _ _ => Session.Keeps.pure trivial
  | getMd5 wantSize =>
    exact (keeps_getMd5 fits hf wantSize).bind fun _ _ => Session.Keeps.pure trivial
  | getSize wantMd5 =>
    exact (keeps_getSize fits wantMd5).bind fun _ _ => Session.Keeps.pure trivial

end LargeFiles.Filter
