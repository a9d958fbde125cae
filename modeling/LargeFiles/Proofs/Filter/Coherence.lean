import LargeFiles.Proofs.Filter.Recording
import LargeFiles.Proofs.Remote.Writer

/-!
# Caches stay coherent

Whatever happens to a depot, the caches of the built-in filters hold nothing but the MD5 and the
size of the bytes that are served: blobs and contents that are stored stay as they are, and only
what was read to its end is recorded.

* `Sound`             the invariant;
* `Sound.step`        every event keeps it;
* `caches_coherent`   the caches in every reachable state, and the answers to requests there.
-/

namespace LargeFiles.Filter

open Remote (Service)

/-- What can happen to a depot. -/
inductive Event
  /-- Something is asked of a filter about an object. -/
  | ask (filter : Filter) (known : filter ∈ builtIn) (object : ObjectName) (request : Request)
  /-- A blob is stored under a name.  No byte vector has 2^63 bytes. -/
  | storeBlob (name : ObjectName) (blob : Bytes) (fits : blob.length < 2 ^ 63)
  /-- Readings of a blob fail from now on. -/
  | breakBlob (name : ObjectName) (bytes : Nat)
  /-- A content is given to the service without negotiation. -/
  | insertContent (content : Bytes) (fits : content.length < 2 ^ 63)
  /-- Something is uploaded, with the hash and the size that are announced. -/
  | upload (who : Principal) (source : Remote.Source) (hash : String) (size : UInt64)
  /-- A writer is finished. -/
  | finish (writer : Remote.Writer)
  | refuse (hash : String) (error : Api.ObjectError)
  | setEmptyBatches (on : Bool)
  /-- The metadata store is closed and opened again. -/
  | reopen

/-- The depot after an event. -/
def step (depot : Depot Service) : Event → Depot Service
  | .ask filter _ object request => ((request.task filter object).outcome depot).2
  | .storeBlob name blob _ => { depot with objects := depot.objects.insert name blob }
  | .breakBlob name bytes => { depot with objects := depot.objects.breakAfter name bytes }
  | .insertContent content _ => { depot with remote := (depot.remote.insertObject content).2 }
  | .upload who source hash size =>
    let upload := Service.provider.putObject who source hash size
    { depot with remote := (upload.outcome depot.remote).2 }
  | .finish writer => { depot with remote := (writer.finish Service.provider depot.remote).2 }
  | .refuse hash error => { depot with remote := depot.remote.refuse hash error }
  | .setEmptyBatches on => { depot with remote := { depot.remote with emptyBatches := on } }
  | .reopen => { depot with metadata := depot.metadata.reopen }

/-- The depot after some events. -/
def run (depot : Depot Service) (events : List Event) : Depot Service := events.foldl step depot

/-- The contents that the service of a depot holds. -/
def held (depot : Depot Service) : Set Bytes :=
  {content | ∃ hash, depot.remote.objects.get? hash = some content}

/-- The contents that the service holds at some time of a run. -/
def everHeld (depot : Depot Service) (events : List Event) : Set Bytes :=
  {content | ∃ before, before <+: events ∧ content ∈ held (run depot before)}

/-- A metadata store without entries, in memory or in the file of a journal. -/
inductive Fresh : Metadata.Store → Prop
  | memory : Fresh (.memory .empty)
  | journal (file : Bytes) (nothing : (Metadata.Journal.openFile file).tables = .empty) :
    Fresh (.journal (.openFile file))

/-- A depot with nothing in it but a metadata store. -/
def start (metadata : Metadata.Store) : Depot Service :=
  { objects := {}, metadata, remote := {} }

/-- The invariant of a depot: sizes can be told, contents are kept under their hash, the metadata
    store survives being closed, and the caches are coherent. -/
structure Sound (depot : Depot Service) : Prop where
  blobs : ∀ name blob, depot.objects.content? name = some blob → blob.length < 2 ^ 63
  contents : depot.remote.Addressed
  durable : depot.metadata.Durable
  coherent : ∀ filter ∈ builtIn, ∀ object, Coherent depot filter object

variable {depot other : Depot Service} {filter : Filter} {object : ObjectName}

/-! ### What is served stays -/

/-- A depot that serves whatever another serves. -/
def ServesOn (depot other : Depot Service) : Prop :=
  ∀ filter object bytes, served depot filter object = some bytes →
    served other filter object = some bytes

/-- More blobs and more contents leave what is served as it was. -/
theorem servesOn_of_extends
    (objects : ∀ name blob, depot.objects.content? name = some blob →
      other.objects.content? name = some blob)
    (remote : depot.remote.Extends other.remote) : ServesOn depot other := by
  intro filter object bytes serves
  rw [served] at serves ⊢
  cases stored : depot.objects.content? object with
  | none => simp [stored] at serves
  | some blob =>
    rw [stored, Option.bind_some] at serves
    rw [objects object blob stored, Option.bind_some]
    -- Only the filter for large files looks beyond the blob.
    cases filter with
    | raw | link | plain => exact serves
    | lfs =>
      simp only [bytesOf] at serves ⊢
      split at serves
      · exact remote _ _ serves
      · exact serves
      · cases serves

/-- The records stay true as long as what is served stays the same. -/
theorem Coherent.servesOn (h : Coherent depot filter object) (serves : ServesOn depot other)
    (metadata : other.metadata.tables = depot.metadata.tables) : Coherent other filter object := by
  constructor
  · intro value found
    -- The records are the same ones, and what they are about is still served.
    rw [metadata] at found
    obtain ⟨bytes, served, rfl⟩ := h.md5 value found
    exact ⟨bytes, serves _ _ _ served, rfl⟩
  · intro value found
    rw [metadata] at found
    obtain ⟨bytes, n, served, rfl, length⟩ := h.size value found
    exact ⟨bytes, n, serves _ _ _ served, rfl, length⟩

/-! ### Sound depots -/

namespace Sound

/-- In a sound depot every blob has a length that fits into a size. -/
theorem blobFits (h : Sound depot) (object : ObjectName) : BlobFits depot object := by
  intro blob stored
  have := h.blobs object blob stored
  exact Nat.lt_trans this (by decide)

/-- The size of what is served can be told. -/
theorem served_fits (h : Sound depot) {bytes : Bytes}
    (serves : served depot filter object = some bytes) : bytes.length < UInt64.size := by
  rw [served, Option.bind_eq_some_iff] at serves
  obtain ⟨blob, stored, serves⟩ := serves
  -- Blobs are limited to half the range of a size, which leaves room for the marker of a link.
  have blob_fits := h.blobs object blob stored
  have size : UInt64.size = 2 * 2 ^ 63 := rfl
  cases filter with
  | raw | plain =>
    cases serves
    omega
  | link =>
    have marker : linkMarker.length = 5 := by decide
    cases serves
    rw [List.length_append]
    omega
  -- A content that the service offers fits as well, since it was announced with its size.
  | lfs =>
    simp only [bytesOf] at serves
    split at serves
    · exact (h.contents _ _ serves).2
    · cases serves
      omega
    · cases serves

/-- A depot that goes on serving what was served, with the same metadata. -/
theorem of_servesOn (h : Sound depot)
    (blobs : ∀ name blob, other.objects.content? name = some blob → blob.length < 2 ^ 63)
    (contents : other.remote.Addressed) (metadata : other.metadata = depot.metadata)
    (serves : ServesOn depot other) : Sound other where
  blobs := blobs
  contents := contents
  durable := by
    rw [metadata]
    exact h.durable
  coherent filter known object := by
    -- The records are the same, and so is what they are about.
    apply (h.coherent filter known object).servesOn serves
    rw [metadata]

/-- What happens to the service leaves a depot sound, if it adds contents under their hashes at
    most. -/
theorem setRemote (h : Sound depot) {service : Service} (contents : service.Addressed)
    (more : depot.remote.Extends service) : Sound { depot with remote := service } :=
  h.of_servesOn h.blobs contents rfl (servesOn_of_extends (fun _ _ stored => stored) more)

/-- Storing a blob keeps a depot sound: the name was free or has the same blob. -/
theorem storeBlob (h : Sound depot) (name : ObjectName) {blob : Bytes}
    (fits : blob.length < 2 ^ 63) :
    Sound { depot with objects := depot.objects.insert name blob } := by
  have serves : ServesOn depot { depot with objects := depot.objects.insert name blob } :=
    servesOn_of_extends (fun _ _ stored => ObjectStore.content?_insert_of_some stored name blob)
      fun _ _ found => found
  refine h.of_servesOn ?_ h.contents rfl serves
  -- A blob was there before, or it is the new one, which is not too long.
  intro other content stored
  rcases ObjectStore.content?_of_insert stored with before | rfl
  · exact h.blobs other content before
  · exact fits

/-- Recording keeps a metadata store durable. -/
theorem durable_of_recorded (h : Sound depot) (known : filter ∈ builtIn) {store : Metadata.Store}
    (recorded : Recorded depot filter object store) : store.Durable := by
  induction recorded with
  | refl => exact h.durable
  | put before serves fact ih =>
    exact ih.putIfAbsent (fits_fact known fact)

/-- A request keeps a depot sound: it records nothing but what is served. -/
theorem ask (h : Sound depot) (known : filter ∈ builtIn) (object : ObjectName)
    (request : Request) : Sound ((request.task filter object).outcome depot).2 := by
  have follows := (keeps_task (h.blobFits object) known request depot (.refl _ _ _)).1
  refine ⟨?_, ?_, h.durable_of_recorded known follows.recorded, ?_⟩
  · intro name blob stored
    rw [follows.content?_eq] at stored
    exact h.blobs name blob stored
  · rw [follows.remote]
    exact h.contents
  -- A request about one object records facts about that one only.
  · intro g hg p
    exact (h.coherent g hg p).follows hg known follows fun bytes => h.served_fits

/-- Every event keeps a depot sound, unless two contents have one digest. -/
theorem step (h : Sound depot) (event : Event)
    (distinct : Set.InjOn Digest.Sha256.digest (held depot ∪ held (step depot event))) :
    Sound (step depot event) := by
  cases event with
  | ask filter known object request => exact h.ask known object request
  | storeBlob name blob fits => exact h.storeBlob name fits
  | breakBlob name bytes =>
    exact h.of_servesOn h.blobs h.contents rfl fun _ _ _ serves => serves
  | insertContent content fits =>
    have fits' : content.length < UInt64.size := Nat.lt_trans fits (by decide)
    apply h.setRemote (h.contents.insert fits') (h.contents.extends_insert _)
    intro hash stored found same
    -- Both contents are there after the event or before it, so their digests tell them apart.
    have new : content ∈ held (Filter.step depot (.insertContent content fits)) :=
      ⟨_, (depot.remote.get?_insertObject content _).trans (if_pos rfl)⟩
    exact distinct (.inl ⟨hash, found⟩) (.inr new) same
  | upload who source hash size =>
    obtain ⟨contents, more⟩ := h.contents.putObject who source hash size
    exact h.setRemote contents more
  | finish writer =>
    -- A writer that finishes uploads its content, or does nothing.
    rcases writer.snd_finish_cases Service.provider depot.remote with
      same | ⟨source, hash, size, uploaded⟩
    · rw [Filter.step, same]
      exact h
    · obtain ⟨contents, more⟩ := h.contents.putObject writer.who source hash size
      rw [Filter.step, uploaded]
      exact h.setRemote contents more
  | refuse hash error =>
    have more : depot.remote.Extends (depot.remote.refuse hash error) := fun _ _ found => found
    exact h.setRemote h.contents more
  | setEmptyBatches on =>
    have more : depot.remote.Extends { depot.remote with emptyBatches := on } :=
      fun _ _ found => found
    exact h.setRemote h.contents more
  -- A journal that is settled is the same after it was closed and opened again.
  | reopen =>
    have same : depot.metadata.reopen = depot.metadata := h.durable
    rw [Filter.step, same]
    exact h

/-- A run keeps a depot sound, unless two contents that the service ever holds have one digest. -/
theorem run (h : Sound depot) (events : List Event)
    (distinct : Set.InjOn Digest.Sha256.digest (everHeld depot events)) :
    Sound (run depot events) := by
  induction events generalizing depot with
  | nil => exact h
  | cons event rest ih =>
    -- The contents of this step and those of all later steps are among those that are ever held.
    have now : held depot ∪ held (Filter.step depot event) ⊆ everHeld depot (event :: rest) := by
      rintro content (mem | mem)
      · exact ⟨[], List.nil_prefix, mem⟩
      · exact ⟨[event], List.prefix_append [event] rest, mem⟩
    have later : everHeld (Filter.step depot event) rest ⊆ everHeld depot (event :: rest) := by
      rintro content ⟨before, part, mem⟩
      exact ⟨event :: before, List.cons_prefix_cons.2 ⟨rfl, part⟩, mem⟩
    exact ih (h.step event (distinct.mono now)) (distinct.mono later)

end Sound

/-- A depot with nothing in it is sound. -/
theorem sound_start {metadata : Metadata.Store} (fresh : Fresh metadata) :
    Sound (start metadata) := by
  have nothing : metadata.tables = .empty := by
    cases fresh with
    | memory => rfl
    | journal file nothing => exact nothing
  refine ⟨?_, ?_, ?_, ?_⟩
  · intro name blob stored
    cases stored
  · intro hash content found
    simp [start] at found
  · cases fresh with
    | memory => exact Metadata.Store.durable_memory _
    | journal file _ =>
      exact Metadata.Store.durable_journal.2 (Metadata.Journal.settled_openFile file)
  -- Nothing is on record, so no record is wrong.
  · intro filter known object
    have none : ∀ key, (start metadata).metadata.tables.get? key = none := by
      intro key
      rw [start, nothing, Metadata.get?_empty]
    exact coherent_of_none (none _) (none _)

/-- From a depot with an empty metadata store on, whatever happens, the caches of all filters hold
    the MD5 and the size of the bytes that are served, and so does every MD5 that is told; a
    stream delivers just these bytes. -/
theorem caches_coherent {metadata : Metadata.Store} (fresh : Fresh metadata) (events : List Event)
    (distinct : Set.InjOn Digest.Sha256.digest (everHeld (start metadata) events)) :
    ∀ filter ∈ builtIn, ∀ object,
      let depot := run (start metadata) events
      Coherent depot filter object ∧
      (∀ md5, ((filter.md5 backend object).outcome depot).1 = .ok md5 →
        ∃ bytes, served depot filter object = some bytes ∧ md5 = md5Hex bytes) ∧
      (∀ wantSize md5, ((getMd5 (filter.openStream backend object) filter.cache object
          wantSize).outcome depot).1 = .ok md5 →
        ∃ bytes, served depot filter object = some bytes ∧ md5 = md5Hex bytes) ∧
      (∀ stream bytes, ((filter.openStream backend object).outcome depot).1 = .ok stream →
        stream.drain = .ok bytes → served depot filter object = some bytes) := by
  intro filter known object depot
  have sound : Sound depot := (sound_start fresh).run events distinct
  have coherent := sound.coherent filter known object
  -- An answer was on record, and then the record is true, or it was measured just now.
  have right : ∀ md5, IsMd5 depot filter object md5 →
      ∃ bytes, served depot filter object = some bytes ∧ md5 = md5Hex bytes := by
    rintro md5 (recorded | served)
    · obtain ⟨bytes, serves, eq⟩ := coherent.md5 _ recorded
      cases eq
      exact ⟨bytes, serves, rfl⟩
    · exact served
  -- So that the length of a blob does not wrap when it is recorded.
  have fits := sound.blobFits object
  have here := Follows.refl depot filter object
  refine ⟨coherent, ?_, ?_, ?_⟩
  · intro md5 answer
    exact right md5 ((keeps_md5 fits known depot here).2 md5 answer)
  · intro wantSize md5 answer
    exact right md5 ((keeps_getMd5 fits known wantSize depot here).2 md5 answer)
  · intro stream bytes answer drained
    exact (keeps_openStream depot filter object fits depot (.refl _)).2 stream answer bytes drained

/-- A content is given to the service, and a blob is stored. -/
def oneBlob : List Event :=
  [.insertContent [1, 2, 3] (by decide), .storeBlob .null [97] (by decide)]

/-- The MD5 of a blob is asked for while the service has a content: it is in the tables of the
    journal, and is that of the blob. -/
theorem caches_coherent_one_blob :
    let depot := run (start (.journal (.openFile [])))
      (oneBlob ++ [.ask raw (by decide) .null .md5])
    depot.metadata.tables.get? (raw.cache.md5Key .null) =
        some (.text "0cc175b9c0f1b6a831c399e269772661") ∧ Coherent depot raw .null := by
  intro depot
  refine ⟨by decide +kernel, ?_⟩
  have nothing : (Metadata.Journal.openFile []).tables = .empty := by
    rw [Metadata.Journal.openFile_eq, Metadata.Journal.entriesOf, Metadata.Record.all_nil]
    rfl
  refine (caches_coherent (.journal [] nothing) _ ?_ raw (by decide) .null).1
  -- The service holds no other content at any time, and asking for the MD5 leaves it alone.
  have inserted : ∀ hash content, (Service.insertObject {} [1, 2, 3]).2.objects.get? hash =
      some content → content = [1, 2, 3] := by
    intro hash content found
    exact (Service.get?_insertObject_cases found).resolve_right (Option.some_ne_none _).symm
  have fits : BlobFits (run (start (.journal (.openFile []))) oneBlob) .null := by
    intro blob stored
    cases stored
    decide
  -- The last event is a request, which adds no content.
  have asked : ((Request.md5.task raw .null).outcome
      (run (start (.journal (.openFile []))) oneBlob)).2.remote =
        (Service.insertObject {} [1, 2, 3]).2 :=
    (keeps_task fits (by decide) .md5 _ (.refl _ raw _)).1.remote
  have one : ∀ content ∈ everHeld (start (.journal (.openFile [])))
      (oneBlob ++ [.ask raw (by decide) .null .md5]), content = [1, 2, 3] := by
    rintro content ⟨before, part, hash, found⟩
    simp only [oneBlob, List.cons_append, List.nil_append, List.prefix_cons_iff,
      List.prefix_nil] at part
    rcases part with rfl | ⟨_, rfl, rfl | ⟨_, rfl, rfl | ⟨_, rfl, rfl⟩⟩⟩
    · cases found
    · exact inserted hash content found
    · exact inserted hash content found
    · exact inserted hash content (asked ▸ found)
  intro a ha b hb _
  rw [one a ha, one b hb]

end LargeFiles.Filter
