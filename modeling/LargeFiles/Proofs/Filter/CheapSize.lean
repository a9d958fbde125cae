import LargeFiles.Proofs.Filter.Additions
import LargeFiles.Proofs.Filter.Coherence

/-!
# Cheap sizes

The size of what a filter serves comes another way than the bytes: from the size of the blob, with
that of the marker added for a link, or from the cache.  For a blob that is no pointer all of them
agree with the stream, and none needs the content, but for the search for a pointer in a blob
that could be one.

* `Reachable`               what can become of a depot whose sizes are recorded by filters only;
* `Steady`                  the invariant: a recorded size is that of the blob, unless this is a
                            pointer;
* `Reachable.steady`        it holds in every reachable depot;
* `size_agrees_with_stream`   the size that is told, the bytes that are delivered, and the cost.
-/

namespace LargeFiles.Filter

open Metadata (Entry)

variable {σ : Type}

/-! ### Reachable depots -/

/-- An entry that may come from others than the built-in filters: it fits into a record and is not
    in the table in which `lfs` keeps sizes. -/
def Foreign (e : Entry) : Prop := e.Fits ∧ e.key.table ≠ lfs.cache.sizeTable

/-- The depots that are reached from one without blobs and entries. -/
inductive Reachable : Depot σ → Prop
  | start {metadata : Metadata.Store} (fresh : Fresh metadata) (remote : σ) :
      Reachable { objects := {}, metadata, remote }
  /-- A blob is stored under a name.  No byte vector has 2^63 bytes. -/
  | storeBlob {depot : Depot σ} (before : Reachable depot) (name : ObjectName) {blob : Bytes}
      (fits : blob.length < 2 ^ 63) :
      Reachable { depot with objects := depot.objects.insert name blob }
  /-- Readings of a blob fail from now on. -/
  | breakBlob {depot : Depot σ} (before : Reachable depot) (name : ObjectName) (bytes : Nat) :
      Reachable { depot with objects := depot.objects.breakAfter name bytes }
  /-- Something is asked of a filter, which may use another remote storage each time. -/
  | ask {depot : Depot σ} (before : Reachable depot) {backend : Backend σ}
      (fit : backend.ReportsFit) {filter : Filter} (known : filter ∈ builtIn)
      (object : ObjectName) (request : Request) :
      Reachable (((request.call backend filter object).task backend object).outcome depot).2
  /-- The remote storage and the counts change in any way, and the metadata store is used by others
      and closed and opened again. -/
  | elsewhere {depot other : Depot σ} (before : Reachable depot)
      (objects : ObjectStore.SameBlobs depot.objects other.objects)
      (metadata : depot.metadata.Becomes Foreign other.metadata) : Reachable other

/-- The invariant of a depot: sizes can be told, the metadata store survives being closed, and a
    size that `lfs` has recorded belongs to a blob and is the size of this, unless it is a
    pointer. -/
structure Steady (depot : Depot σ) : Prop where
  blobs : ∀ name blob, depot.objects.content? name = some blob → blob.length < 2 ^ 63
  durable : depot.metadata.Durable
  sizes : ∀ object value, depot.metadata.tables.get? (lfs.cache.sizeKey object) = some value →
    ∃ blob, depot.objects.content? object = some blob ∧
      (Pointer.parse blob = .ok none → value = .number (UInt64.ofNat blob.length))

variable {depot other : Depot σ} {filter : Filter} {object p : ObjectName} {blob : Bytes}

/-! ### Every event keeps the invariant -/

/-- A request that notes a size for `lfs` has seen the blob. -/
theorem Noted.exists_of_sizeKey (known : filter ∈ builtIn) {value : Metadata.Value}
    (noted : Noted depot filter p ⟨lfs.cache.sizeKey object, value⟩) :
    ∃ blob bytes, depot.objects.content? object = some blob ∧ Presents lfs blob bytes ∧
      value = .number (UInt64.ofNat bytes.length) := by
  generalize eq : (⟨lfs.cache.sizeKey object, value⟩ : Entry) = e at noted
  -- The key tells the tables apart, and among those of sizes the filters and the objects.
  cases noted with
  | md5 fits =>
    have key := congrArg Entry.key eq
    exact absurd key.symm (Cache.md5Key_ne_sizeKey _ _ _ _)
  | @size blob bytes stored presents =>
    have key := congrArg Entry.key eq
    obtain ⟨rfl, rfl⟩ := sizeKey_injective (by decide) known key
    exact ⟨blob, bytes, stored, presents, congrArg Entry.value eq⟩

namespace Steady

/-- A fresh depot is steady: it holds no blob and no record. -/
theorem start {metadata : Metadata.Store} (fresh : Fresh metadata) (remote : σ) :
    Steady { objects := {}, metadata, remote } := by
  refine ⟨fun _ _ stored => (nomatch stored), ?_, fun object value found => ?_⟩
  · cases fresh with
    | memory => exact Metadata.Store.durable_memory _
    | journal file _ =>
      exact Metadata.Store.durable_journal.2 (Metadata.Journal.settled_openFile file)
  -- A journal that was opened counts as fresh only if nothing was read from it.
  · have nothing : metadata.tables = .empty := by
      cases fresh with
      | memory => rfl
      | journal file nothing => exact nothing
    rw [nothing, Metadata.get?_empty] at found
    cases found

/-- The first blob stored under a name stays, and with it what is recorded of it. -/
theorem storeBlob (h : Steady depot) (name : ObjectName) (fits : blob.length < 2 ^ 63) :
    Steady { depot with objects := depot.objects.insert name blob } := by
  refine ⟨fun other content stored => ?_, h.durable, fun object value found => ?_⟩
  · rcases ObjectStore.content?_of_insert stored with before | rfl
    · exact h.blobs other content before
    · exact fits
  · obtain ⟨present, stored, told⟩ := h.sizes object value found
    exact ⟨present, ObjectStore.content?_insert_of_some stored name blob, told⟩

/-- Blobs stay, and entries are added that are allowed. -/
theorem becomes (h : Steady depot) (objects : ObjectStore.SameBlobs depot.objects other.objects)
    {may : Entry → Prop} (metadata : depot.metadata.Becomes may other.metadata)
    (fit : ∀ e, may e → e.Fits)
    (sizes : ∀ object value, may ⟨lfs.cache.sizeKey object, value⟩ →
      ∃ blob, depot.objects.content? object = some blob ∧
        (Pointer.parse blob = .ok none → value = .number (UInt64.ofNat blob.length))) :
    Steady other := by
  refine ⟨fun name blob stored => ?_, metadata.durable h.durable fit, fun object value found => ?_⟩
  · rw [objects.content?_eq] at stored
    exact h.blobs name blob stored
  · rw [objects.content?_eq]
    rcases metadata.get? h.durable fit found with before | allowed
    · exact h.sizes object value before
    · exact sizes object value allowed

/-- A depot that only records measurements is still steady. -/
theorem adds (h : Steady depot) (known : filter ∈ builtIn) (adds : Adds depot filter p other) :
    Steady other := by
  apply h.becomes adds.objects adds.metadata fun e => Noted.fits known
  intro object value noted
  obtain ⟨blob, bytes, stored, presents, rfl⟩ := noted.exists_of_sizeKey known
  refine ⟨blob, stored, fun plain => ?_⟩
  have fits : blob.length < UInt64.size := Nat.lt_trans (h.blobs object blob stored) (by decide)
  rw [presents fits plain]

end Steady

/-- Every reachable depot is steady. -/
theorem Reachable.steady (h : Reachable depot) : Steady depot := by
  induction h with
  | start fresh remote => exact .start fresh remote
  -- Events of the world outside leave the records of sizes true, and requests add only true ones.
  | storeBlob before name fits ih => exact ih.storeBlob name fits
  | breakBlob before name bytes ih => exact ⟨ih.blobs, ih.durable, ih.sizes⟩
  | @ask depot before backend fit filter known object request ih =>
    exact ih.adds known (adds_call known fit request depot (.refl _ _ _)).1
  | elsewhere before objects metadata ih =>
    -- What is recorded elsewhere concerns other filters.
    apply ih.becomes objects metadata fun e foreign => foreign.1
    exact fun object value foreign => absurd rfl foreign.2

/-! ### Sizes and streams -/

/-- What a readable blob's stream delivers does not depend on the counts. -/
theorem fst_outcome_openObject (stored : depot.objects.content? object = some blob)
    (readable : depot.objects.broken.lookup object = none)
    (same : ObjectStore.SameBlobs depot.objects other.objects) :
    ((Task.onObjects (ObjectStore.openObject object) : Task σ Stream).outcome other).1 =
      .ok ⟨blob, none⟩ := by
  rw [Task.outcome_onObjects, (ObjectStore.yields_openObject stored other.objects same).1,
    stream_of_readable readable]
  rfl

/-- The depot after a size was asked for. -/
def afterSizeQuery (depot : Depot σ) : Depot σ :=
  { depot with objects := { depot.objects with sizeQueries := depot.objects.sizeQueries + 1 } }

/-- The size of a blob is asked for once, and nothing is opened for it. -/
theorem outcome_onObjects_sizeOf (stored : depot.objects.content? object = some blob) :
    (Task.onObjects (ObjectStore.sizeOf object) : Task σ UInt64).outcome depot =
      (.ok (UInt64.ofNat blob.length), afterSizeQuery depot) := by
  rw [Task.outcome_onObjects, ObjectStore.outcome_sizeOf stored]
  rfl

/-- The search for a pointer that finds none asks for the size, and opens the blob once at most,
    and a large one not at all. -/
theorem outcome_pointer?_of_none (stored : depot.objects.content? object = some blob)
    (fits : blob.length < UInt64.size) (found : ((pointer? object).outcome depot).1 = .ok none) :
    ∃ other, (pointer? object).outcome depot = (.ok none, other) ∧
      ObjectStore.SameBlobs depot.objects other.objects ∧
      (1024 < blob.length → other = afterSizeQuery depot) := by
  by_cases large : 1024 < blob.length
  · rw [outcome_pointer?_of_large stored fits large]
    exact ⟨_, rfl, ⟨rfl, rfl⟩, fun _ => rfl⟩
  · rw [outcome_pointer?_of_small stored fits (Nat.le_of_not_lt large)] at found ⊢
    simp only at found
    rw [found]
    exact ⟨_, rfl, ⟨rfl, rfl⟩, fun large' => absurd large' large⟩

/-- What `lfs` opens for a readable blob that is no pointer. -/
theorem fst_outcome_openStream_lfs (backend : Backend σ)
    (stored : depot.objects.content? object = some blob)
    (readable : depot.objects.broken.lookup object = none) (fits : blob.length < UInt64.size)
    (found : ((pointer? object).outcome depot).1 = .ok none) :
    ((lfs.openStream backend object).outcome depot).1 = .ok ⟨blob, none⟩ := by
  obtain ⟨other, searched, same, -⟩ := outcome_pointer?_of_none stored fits found
  rw [openStream, Session.outcome_bind, searched]
  exact fst_outcome_openObject stored readable same

/-- What `lfs` tells as the size of a blob that is no pointer: what is recorded, or the size of the
    blob.  A large blob is not opened for it. -/
theorem outcome_size_lfs (steady : Steady depot)
    (stored : depot.objects.content? object = some blob)
    (found : ((pointer? object).outcome depot).1 = .ok none) :
    ((lfs.size object).outcome depot).1 = .ok (UInt64.ofNat blob.length) ∧
      (1024 < blob.length →
        ((lfs.size object).outcome depot).2.objects.opens = depot.objects.opens) := by
  have fits : blob.length < UInt64.size :=
    Nat.lt_trans (steady.blobs object blob stored) (by decide)
  rw [size, Session.outcome_bind, Cache.size?, Session.outcome_ofFunction, Metadata.getNumber]
  cases recorded : depot.metadata.tables.get? (lfs.cache.sizeKey object) with
  | some value =>
    -- The size was recorded for this very blob, and the blob is still no pointer.
    obtain ⟨blob', stored', told⟩ := steady.sizes object value recorded
    obtain ⟨_, stored'', parsed⟩ := exists_of_outcome_pointer? found
    obtain rfl : blob = blob' := Option.some.inj (stored.symm.trans stored')
    obtain rfl : blob = _ := Option.some.inj (stored.symm.trans stored'')
    rw [told (parsed fits)]
    exact ⟨rfl, fun _ => rfl⟩
  | none =>
    -- Without a record the search for a pointer opens a small blob, and then the size is asked for.
    obtain ⟨other, searched, same, cheap⟩ := outcome_pointer?_of_none stored fits found
    have asked : (Task.onObjects (ObjectStore.sizeOf object) : Task σ UInt64).outcome other =
        (.ok (UInt64.ofNat blob.length), afterSizeQuery other) :=
      outcome_onObjects_sizeOf ((same.content?_eq object).trans stored)
    simp only [Except.mapError, Session.outcome_bind, searched, asked]
    refine ⟨trivial, fun large => ?_⟩
    rw [cheap large]
    rfl

/-- The size that is told of a readable blob is the length of its stream.  For `raw` and `link`
    this is so in every depot, whatever the cache holds, and such a call asks for the size of the
    blob once and changes nothing else; what `link` delivers is the blob with the marker before
    it.  For `lfs` it is so for a blob in which no pointer is found, in every reachable depot, and
    the call opens nothing if the blob has more than 1024 bytes. -/
theorem size_agrees_with_stream (backend : Backend σ)
    (stored : depot.objects.content? object = some blob)
    (readable : depot.objects.broken.lookup object = none) (fits : blob.length < 2 ^ 63) :
    (∃ n stream, (raw.size object).outcome depot = (.ok n, afterSizeQuery depot) ∧
      ((raw.openStream backend object).outcome depot).1 = .ok stream ∧
      stream.drain = .ok blob ∧ n.toNat = blob.length) ∧
    (∃ n stream, (link.size object).outcome depot = (.ok n, afterSizeQuery depot) ∧
      ((link.openStream backend object).outcome depot).1 = .ok stream ∧
      stream.drain = .ok (Bytes.ofString "link " ++ blob) ∧ n.toNat = blob.length + 5 ∧
      n.toNat = (Bytes.ofString "link " ++ blob).length) ∧
    (Reachable depot → ((pointer? object).outcome depot).1 = .ok none →
      ∃ n stream, ((lfs.size object).outcome depot).1 = .ok n ∧
        ((lfs.openStream backend object).outcome depot).1 = .ok stream ∧
        stream.drain = .ok blob ∧ n.toNat = blob.length ∧
        (1024 < blob.length →
          ((lfs.size object).outcome depot).2.objects.opens = depot.objects.opens)) := by
  have size : UInt64.size = 2 * 2 ^ 63 := rfl
  -- The length fits into 64 bits, so it is told as it is.
  have told : (UInt64.ofNat blob.length).toNat = blob.length :=
    UInt64.toNat_ofNat_of_lt' (by omega)
  have opened := fst_outcome_openObject stored readable (.refl depot.objects)
  have asked := outcome_onObjects_sizeOf stored
  refine ⟨⟨_, _, asked, opened, rfl, told⟩, ?_, fun reachable plain => ?_⟩
  -- A link is a marker and the blob, so its length is five more, which still fits.
  · have marker : (Bytes.ofString "link ").length = 5 := by decide
    have longer : (UInt64.ofNat blob.length + UInt64.ofNat linkMarker.length).toNat =
        blob.length + 5 := by
      rw [← UInt64.ofNat_add, UInt64.toNat_ofNat_of_lt'] <;>
        simp only [linkMarker, marker]
      omega
    refine ⟨_, ⟨Bytes.ofString "link " ++ blob, none⟩, ?_, ?_, rfl, longer, ?_⟩
    · rw [Filter.size, Session.outcome_bind, asked]
      rfl
    · rw [openStream, Session.outcome_bind]
      revert opened
      rcases (Task.onObjects (ObjectStore.openObject object) : Task σ Stream).outcome depot with
        ⟨result, after⟩
      rintro rfl
      rfl
    · rw [longer, List.length_append, marker, Nat.add_comm]
  -- For content with large files it matters whether a size is on record already.
  · obtain ⟨lfsTold, cheap⟩ := outcome_size_lfs reachable.steady stored plain
    have lfsOpened :=
      fst_outcome_openStream_lfs backend stored readable (Nat.lt_trans fits (by decide)) plain
    exact ⟨_, _, lfsTold, lfsOpened, rfl, told, cheap⟩

/-- A blob of three bytes whose size `lfs` has recorded together with its MD5, and one of 1025
    bytes, which is not opened. -/
theorem size_agrees_with_stream_recorded :
    let holding (blob : Bytes) : Depot Remote.Service :=
      { objects := ObjectStore.insert {} .null blob, metadata := .memory .empty, remote := {} }
    let depot := (((Request.md5.call backend lfs .null).task backend .null).outcome
      (holding [97, 98, 99])).2
    let zeros : Bytes := List.replicate 1025 0
    depot.metadata.tables.get? (lfs.cache.sizeKey .null) = some (.number 3) ∧
      (∃ n stream, ((lfs.size .null).outcome depot).1 = .ok n ∧
        ((lfs.openStream backend .null).outcome depot).1 = .ok stream ∧
        stream.drain = .ok [97, 98, 99] ∧ n.toNat = 3) ∧
      (∃ n, (link.size .null).outcome depot = (.ok n, afterSizeQuery depot) ∧ n.toNat = 8) ∧
      ((lfs.size .null).outcome (holding zeros)).2.objects.opens = 0 := by
  intro holding depot zeros
  have reachable {blob : Bytes} (fits : blob.length < 2 ^ 63) : Reachable (holding blob) :=
    .storeBlob (.start .memory ({} : Remote.Service)) .null fits
  have stored : depot.objects.content? .null = some [97, 98, 99] := rfl
  obtain ⟨-, ⟨link, -, linkTold, -, -, linkLength, -⟩, lfs⟩ :=
    size_agrees_with_stream backend stored rfl (by decide)
  -- Asking for the MD5 has recorded the size, so the first case is the one with a record.
  obtain ⟨n, stream, told, opened, drained, length, -⟩ :=
    lfs (.ask (reachable (by decide)) reportsFit_backend (by decide) .null .md5) rfl
  -- Zeros more than a pointer is long: the blob need not be opened.
  have zeros_length : zeros.length = 1025 := List.length_replicate
  have fits : zeros.length < 2 ^ 63 := by rw [zeros_length]; decide
  have more : 1024 < zeros.length := by rw [zeros_length]; decide
  have storedZeros : (holding zeros).objects.content? .null = some zeros := rfl
  have found : ((pointer? .null).outcome (holding zeros)).1 = .ok none := by
    rw [outcome_pointer?_of_large storedZeros (Nat.lt_trans fits (by decide)) more]
  obtain ⟨-, -, lfsLarge⟩ := size_agrees_with_stream backend storedZeros rfl fits
  obtain ⟨-, -, -, -, -, -, cheap⟩ := lfsLarge (reachable fits) found
  exact ⟨by decide +kernel, ⟨n, stream, told, opened, drained, length⟩,
    ⟨link, linkTold, linkLength⟩, cheap more⟩

end LargeFiles.Filter
