import LargeFiles.Proofs.Filter.Coherence
import LargeFiles.Proofs.Filter.Failure

/-!
# When the size of an object can be relied on

The size of what a filter serves comes from one of three places: the cache, the pointer that the
blob is, or the blob itself.  The cache and the blob never disagree with the bytes that are
delivered.  A pointer may: nobody compares the size that it declares with the content that it
names before the content has been read to its end, and from then on the cache answers instead.

* `Honest`              all sizes that are told are one, and as many bytes are delivered;
* `Misdeclared`         an object is a pointer to a content of another size, not yet measured;
* `tells_of_outcome`    where a size that is told comes from;
* `size_honest_iff`     in every reachable state sizes are honest, but for misdeclared objects;
* `size_changes_after_md5`   one of these, and the two sizes that are told of it.
-/

namespace LargeFiles.Filter

open Remote (Service)

/-- A request to one of the filters about an object. -/
structure Inquiry where
  filter : Filter
  known : filter ∈ builtIn
  object : ObjectName
  request : Request

/-- The depot after some requests, whatever their answers. -/
def inquire (depot : Depot Service) (inquiries : List Inquiry) : Depot Service :=
  inquiries.foldl (fun depot i => ((i.request.task i.filter i.object).outcome depot).2) depot

/-- Whatever is asked and in whatever order, all sizes that a filter tells of an object are one,
    and every stream that it opens and that can be read to its end delivers as many bytes. -/
def Honest (depot : Depot Service) (filter : Filter) (object : ObjectName) : Prop :=
  ∃ size : UInt64, ∀ inquiries : List Inquiry,
    (∀ told, ((filter.size object).outcome (inquire depot inquiries)).1 = .ok told →
      told = size) ∧
    ∀ stream bytes,
      ((filter.openStream backend object).outcome (inquire depot inquiries)).1 = .ok stream →
      stream.drain = .ok bytes → bytes.length = size.toNat

/-- An object is a pointer that declares a size which the content that it names does not have.  The
    service offers the content, but its size has not been recorded. -/
structure Misdeclared (depot : Depot Service) (object : ObjectName) (pointer : Pointer)
    (content : Bytes) : Prop where
  found : ((pointer? object).outcome depot).1 = .ok (some pointer)
  offered : depot.remote.offered pointer.hash = some content
  unmeasured : depot.metadata.tables.get? (lfs.cache.sizeKey object) = none
  differs : pointer.size.toNat ≠ content.length

variable {depot other : Depot Service} {filter : Filter} {object : ObjectName}

/-! ### Pointers -/

/-- Whether an object is a pointer is decided by the blobs. -/
theorem matches_pointer? (object : ObjectName) :
    (pointer? object : Task Service (Option Pointer)).Matches
      (pointer? object : Task Service (Option Pointer))
      fun a b => ObjectStore.SameBlobs a.objects b.objects := by
  have onObjects : ∀ {α : Type} {s : Session ObjectStore StoreError α},
      s.Matches s ObjectStore.SameBlobs →
      (Task.onObjects s : Task Service α).Matches (Task.onObjects s : Task Service α)
        fun a b => ObjectStore.SameBlobs a.objects b.objects := fun hs =>
    (hs.mapError _).onPart (fun _ _ same => same) fun _ _ _ _ _ same => same
  apply (onObjects (ObjectStore.matches_sizeOf object)).bind
  intro size
  -- Two depots with the same blobs take the same branch here.
  split
  · exact .pure none
  · apply (onObjects (ObjectStore.matches_readStart object _)).bind
    intro start
    split
    · exact .pure _
    · exact .throw _

/-- The pointer that is found once is found always. -/
theorem yields_pointer?_of_outcome {pointer : Option Pointer}
    (found : ((pointer? object).outcome depot).1 = .ok pointer) :
    (pointer? object).Yields (Alike depot) pointer (Alike depot) := by
  intro other alike
  have same := (matches_pointer? object depot other alike.objects).1
  exact ⟨same.symm.trans found, (keeps_pointer? depot object other alike).1⟩

/-- The pointer that is found is the one that the blob is. -/
theorem exists_of_pointer? (fits : BlobFits depot object) {pointer : Option Pointer}
    (found : ((pointer? object).outcome depot).1 = .ok pointer) :
    ∃ blob, depot.objects.content? object = some blob ∧ Pointer.parse blob = .ok pointer := by
  obtain ⟨blob, stored, parsed⟩ := (keeps_pointer? depot object depot (.refl _)).2 pointer found
  exact ⟨blob, stored, parsed (fits blob stored)⟩

/-- What is served for a pointer is the content that it names. -/
theorem served_of_offered (fits : BlobFits depot object) {pointer : Pointer} {content : Bytes}
    (found : ((pointer? object).outcome depot).1 = .ok (some pointer))
    (offered : depot.remote.offered pointer.hash = some content) :
    served depot lfs object = some content := by
  obtain ⟨blob, stored, parsed⟩ := exists_of_pointer? fits found
  rw [served, stored, Option.bind_some]
  simp only [bytesOf, parsed]
  exact Service.get?_of_offered offered

/-! ### Where a size comes from -/

/-- A filter tells a size of an object: one that is recorded, one that a pointer declares, or the
    number of the bytes that are served, which can be seen without opening them. -/
inductive Tells (depot : Depot Service) : Filter → ObjectName → UInt64 → Prop
  | recorded {object : ObjectName} {size : UInt64}
      (found : depot.metadata.tables.get? (lfs.cache.sizeKey object) = some (.number size)) :
      Tells depot lfs object size
  | declared {object : ObjectName} {pointer : Pointer}
      (unmeasured : depot.metadata.tables.get? (lfs.cache.sizeKey object) = none)
      (found : ((pointer? object).outcome depot).1 = .ok (some pointer)) :
      Tells depot lfs object pointer.size
  | counted {filter : Filter} {object : ObjectName} {size : UInt64} {bytes : Bytes}
      (blob : filter = lfs → ((pointer? object).outcome depot).1 = .ok none)
      (serves : served depot filter object = some bytes) (length : size.toNat = bytes.length) :
      Tells depot filter object size

/-- The size of a blob, asked for after other things. -/
theorem sizeOf_of_alike (alike : Alike depot other) {size : UInt64}
    (told : ((Task.onObjects (ObjectStore.sizeOf object) : Task Service UInt64).outcome
      other).1 = .ok size) :
    ∃ blob, depot.objects.content? object = some blob ∧ size = UInt64.ofNat blob.length :=
  (keeps_onObjects (ObjectStore.keeps_sizeOf depot.objects object) other alike).2 size told

/-- Each size that a filter gives has one of the three reasons. -/
theorem tells_of_outcome (sound : Sound depot) {told : UInt64}
    (h : ((filter.size object).outcome depot).1 = .ok told) : Tells depot filter object told := by
  have here := Alike.refl depot
  have width : UInt64.size = 2 * 2 ^ 63 := rfl
  cases filter with
  | raw | plain =>
    obtain ⟨blob, stored, rfl⟩ := sizeOf_of_alike here h
    have fits := sound.blobs object blob stored
    refine .counted (by rintro ⟨⟩) (?_ : _ = some blob) (UInt64.toNat_ofNat_of_lt' (by omega))
    rw [served, stored]
    rfl
  | link =>
    obtain ⟨size, counted, sum⟩ := Session.bind_eq_ok.1 h
    obtain ⟨blob, stored, rfl⟩ := sizeOf_of_alike here counted
    cases sum
    have fits := sound.blobs object blob stored
    refine .counted (by rintro ⟨⟩) (?_ : _ = some (linkMarker ++ blob)) ?_
    · rw [served, stored]
      rfl
    -- The sum does not wrap, since blobs are limited to half the range.
    · have marker : (UInt64.ofNat linkMarker.length).toNat = 5 := by decide
      have five : linkMarker.length = 5 := by decide
      rw [UInt64.toNat_add, UInt64.toNat_ofNat_of_lt' (by omega), marker, List.length_append]
      omega
  | lfs =>
    obtain ⟨known, recorded, h⟩ := Session.bind_eq_ok.1 h
    have recorded : depot.metadata.tables.getNumber (lfs.cache.sizeKey object) = .ok known :=
      Session.mapError_eq_ok.1 recorded
    have recorded := Metadata.getNumber_eq_ok_iff.1 recorded
    cases known with
    | none =>
      -- Looking the size up has left the depot as it is.
      obtain ⟨pointer, found, h⟩ := Session.bind_eq_ok.1 h
      have after := (keeps_pointer? depot object depot here).1
      cases pointer with
      | some pointer =>
        cases h
        exact .declared recorded found
      | none =>
        obtain ⟨blob, stored, rfl⟩ := sizeOf_of_alike after h
        have fits := sound.blobs object blob stored
        refine .counted (fun _ => found) ?_ (UInt64.toNat_ofNat_of_lt' (by omega))
        obtain ⟨blob', stored', parsed⟩ := exists_of_pointer? (sound.blobFits object) found
        -- The blob that was no pointer is the one whose length is told.
        obtain rfl : blob' = blob := Option.some.inj (stored'.symm.trans stored)
        rw [served, stored, Option.bind_some]
        simp only [bytesOf, parsed]
    | some size =>
      cases h
      exact .recorded recorded

/-! ### Requests -/

/-- What is recorded stays. -/
theorem Recorded.get?_of_some {store : Metadata.Store} (h : Recorded depot filter object store)
    {key : Metadata.Key} {value : Metadata.Value}
    (found : depot.metadata.tables.get? key = some value) :
    store.tables.get? key = some value := by
  induction h with
  | refl => exact found
  | @put store bytes key' value' before serves fact ih =>
    rw [Metadata.Store.tables_putIfAbsent]
    exact Metadata.get?_putIfAbsent_of_some ih key' value'

/-- A depot that requests have led to. -/
structure Descends (depot other : Depot Service) : Prop where
  sound : Sound other
  objects : ObjectStore.SameBlobs depot.objects other.objects
  remote : other.remote = depot.remote
  recorded : ∀ key value, depot.metadata.tables.get? key = some value →
    other.metadata.tables.get? key = some value

theorem Descends.served_eq (h : Descends depot other) : served other = served depot :=
  served_congr h.objects h.remote

/-- One more request. -/
theorem Descends.ask (h : Descends depot other) (i : Inquiry) :
    Descends depot ((i.request.task i.filter i.object).outcome other).2 := by
  have follows := (keeps_task (h.sound.blobFits i.object) i.known i.request other (.refl _ _ _)).1
  exact ⟨h.sound.ask i.known i.object i.request, h.objects.trans follows.objects,
    follows.remote.trans h.remote, fun key value found =>
      follows.recorded.get?_of_some (h.recorded key value found)⟩

/-- What descends from a depot still does so after more inquiries. -/
theorem Descends.inquire (h : Descends depot other) (inquiries : List Inquiry) :
    Descends depot (inquire other inquiries) := by
  induction inquiries generalizing other with
  | nil => exact h
  | cons i rest ih => exact ih (h.ask i)

theorem Sound.descends (sound : Sound depot) (inquiries : List Inquiry) :
    Descends depot (Filter.inquire depot inquiries) :=
  Descends.inquire ⟨sound, .refl _, rfl, fun _ _ found => found⟩ inquiries

/-- The pointer that is found later is the one that is found now. -/
theorem Descends.pointer?_eq (h : Descends depot other) (object : ObjectName) :
    ((pointer? object).outcome other).1 = ((pointer? object).outcome depot).1 :=
  (matches_pointer? object depot other h.objects).1.symm

/-- A stream that is opened later and can be read to its end delivers what is served now. -/
theorem Descends.delivers (h : Descends depot other) {stream : Stream} {bytes : Bytes}
    (opened : ((filter.openStream backend object).outcome other).1 = .ok stream)
    (drained : stream.drain = .ok bytes) : served depot filter object = some bytes := by
  rw [← h.served_eq]
  have fits := h.sound.blobFits object
  exact (keeps_openStream other filter object fits other (.refl _)).2 stream opened bytes drained

/-- A size that is recorded is that of what is served. -/
theorem Sound.length_of_recorded (sound : Sound depot) {size : UInt64}
    (found : depot.metadata.tables.get? (lfs.cache.sizeKey object) = some (.number size)) :
    ∃ bytes, served depot lfs object = some bytes ∧ size.toNat = bytes.length := by
  obtain ⟨bytes, n, serves, same, length⟩ := (sound.coherent lfs (by decide) object).size _ found
  cases same
  exact ⟨bytes, serves, length⟩

/-! ### Requests that record nothing -/

/-- A session that keeps what requests lead to and does not touch the metadata store changes counts
    at most. -/
theorem keeps_alike_of_spares {α : Type} {s : Task Service α} {post : α → Prop}
    (hs : s.Keeps (Follows depot filter object) post) (spares : Spares s) :
    s.Keeps (Alike depot) post := by
  intro other alike
  have start : Follows depot filter object other := by
    refine ⟨alike.objects, alike.remote, ?_⟩
    rw [alike.metadata]
    exact .refl
  obtain ⟨follows, value⟩ := hs other start
  exact ⟨⟨follows.objects, (spares depot.metadata other alike.metadata).1, follows.remote⟩, value⟩

theorem keeps_alike_md5? (depot : Depot Service) (filter : Filter) (object : ObjectName) :
    (filter.cache.md5? object : Task Service (Option String)).Keeps (Alike depot) fun _ => True :=
  fun _ alike => ⟨alike, fun _ _ => trivial⟩

/-- Looking for a size changes nothing. -/
theorem keeps_alike_size? (depot : Depot Service) (filter : Filter) (object : ObjectName) :
    (filter.cache.size? object : Task Service (Option UInt64)).Keeps (Alike depot)
      fun _ => True :=
  fun _ alike => ⟨alike, fun _ _ => trivial⟩

/-! ### Contents that are withheld -/

/-- An object is a pointer to a content that the service does not offer. -/
structure Withheld (depot : Depot Service) (object : ObjectName) (pointer : Pointer) : Prop where
  found : ((pointer? object).outcome depot).1 = .ok (some pointer)
  absent : depot.remote.offered pointer.hash = none

namespace Withheld

variable {pointer : Pointer}

/-- A content that is withheld is still withheld after inquiries. -/
theorem descends (h : Withheld depot object pointer) (later : Descends depot other) :
    Withheld other object pointer := by
  refine ⟨(later.pointer?_eq object).trans h.found, ?_⟩
  rw [later.remote]
  exact h.absent

/-- For a content that is withheld no reader is given. -/
theorem keeps_requestReader (h : Withheld depot object pointer) :
    (requestReader backend object pointer).Keeps (Alike depot) fun _ => False := by
  have outcome := Service.outcome_getReader depot.remote pointer.hash .anonymous
  -- The service has no reader for a content that it withholds.
  rw [h.absent] at outcome
  apply (yields_countRequest depot).keeps.bind
  intro _ _
  apply (keeps_onRemote outcome).bind
  intro reader found
  cases found
  exact Session.Keeps.throw _

/-- The content cannot be opened. -/
theorem keeps_openStream (h : Withheld depot object pointer) :
    (lfs.openStream backend object).Keeps (Alike depot) fun _ => False := by
  apply (yields_pointer?_of_outcome h.found).keeps.bind
  rintro _ rfl
  exact h.keeps_requestReader.bind fun _ impossible => impossible.elim

/-- No request about the object records anything, since there is nothing to measure. -/
theorem keeps_task (h : Withheld depot object pointer) (fits : BlobFits depot object)
    (request : Request) : (request.task lfs object).Keeps (Alike depot) fun _ => True := by
  have done {α : Type} {s : Task Service α} (hs : s.Keeps (Alike depot) fun _ => True) :
      (do let _ ← s : Task Service Unit).Keeps (Alike depot) fun _ => True :=
    hs.bind fun _ _ => Session.Keeps.pure trivial
  cases request with
  -- Where a stream is needed the request fails before anything is recorded.
  | openStream => exact done (h.keeps_openStream.imp fun _ _ => trivial)
  | size =>
    have kept := keeps_alike_of_spares (keeps_size fits) (spares_size lfs object)
    exact done (kept.imp fun _ _ => trivial)
  | contentHash =>
    have kept := keeps_alike_of_spares (keeps_contentHash fits) (spares_contentHash lfs object)
    exact done (kept.imp fun _ _ => trivial)
  | md5 =>
    apply done
    apply (keeps_alike_md5? depot lfs object).bind
    intro known _
    cases known with
    | some md5 => exact Session.Keeps.pure trivial
    | none =>
      apply (yields_pointer?_of_outcome h.found).keeps.bind
      rintro _ rfl
      exact h.keeps_requestReader.bind fun _ impossible => impossible.elim
  | getMd5 wantSize =>
    apply done
    apply (keeps_alike_md5? depot lfs object).bind
    intro known _
    cases known with
    | some md5 => exact Session.Keeps.pure trivial
    | none => exact h.keeps_openStream.bind fun _ impossible => impossible.elim
  | getSize wantMd5 =>
    apply done
    apply (keeps_alike_size? depot lfs object).bind
    intro known _
    cases known with
    | some size => exact Session.Keeps.pure trivial
    | none => exact h.keeps_openStream.bind fun _ impossible => impossible.elim

/-- The size of a content that cannot be opened is not recorded later. -/
theorem unmeasured_inquire (h : Withheld depot object pointer) (sound : Sound depot)
    (unmeasured : depot.metadata.tables.get? (lfs.cache.sizeKey object) = none)
    (inquiries : List Inquiry) :
    (inquire depot inquiries).metadata.tables.get? (lfs.cache.sizeKey object) = none := by
  induction inquiries generalizing depot with
  | nil => exact unmeasured
  | cons i rest ih =>
    have next := sound.descends [i]
    apply ih (h.descends next) next.sound
    -- Only a request about this object, by this filter, could record its size.
    by_cases same : i.filter = lfs ∧ i.object = object
    · obtain ⟨filter, known, p, request⟩ := i
      obtain ⟨rfl, rfl⟩ := same
      have alike := (h.keeps_task (sound.blobFits _) request depot (.refl _)).1
      show ((request.task lfs p).outcome depot).2.metadata.tables.get? _ = none
      rw [alike.metadata]
      exact unmeasured
    · -- What is recorded of other objects or by other filters stands under other keys.
      rw [Option.eq_none_iff_forall_ne_some]
      intro value found
      have fits := sound.blobFits i.object
      have recorded := (Filter.keeps_task fits i.known i.request depot (.refl _ _ _)).1.recorded
      rcases recorded.get? found with before | ⟨bytes, serves, fact⟩
      · rw [unmeasured] at before
        cases before
      · have other := fact_sizeKey (by decide) i.known fact
        exact same ⟨other.1.symm, other.2.1.symm⟩

end Withheld

/-! ### Honest sizes -/

/-- The size of a content that cannot be opened is the one that was recorded of it, or else the one
    that the pointer declares. -/
theorem honest_of_withheld {pointer : Pointer} (sound : Sound depot)
    (withheld : Withheld depot object pointer) : Honest depot lfs object := by
  -- Without a stream there is nothing that a size could be compared with.
  have unread : ∀ inquiries stream,
      ((lfs.openStream backend object).outcome (inquire depot inquiries)).1 ≠ .ok stream := by
    intro inquiries stream opened
    have later := withheld.descends (sound.descends inquiries)
    exact (later.keeps_openStream _ (.refl _)).2 stream opened
  -- So all sizes need only be the same: the one on record, or else the declared one.
  cases recorded : depot.metadata.tables.get? (lfs.cache.sizeKey object) with
  | some value =>
    obtain ⟨bytes, size, -, rfl, -⟩ := (sound.coherent lfs (by decide) object).size value recorded
    refine ⟨size, fun inquiries => ⟨fun told h => ?_, fun stream bytes opened =>
      absurd opened (unread inquiries stream)⟩⟩
    have later := sound.descends inquiries
    have found := later.recorded _ _ recorded
    cases tells_of_outcome later.sound h with
    | recorded found' =>
      rw [found] at found'
      cases found'
      rfl
    | declared unmeasured =>
      rw [found] at unmeasured
      cases unmeasured
    -- The length of the blob is not told for a pointer.
    | counted blob =>
      rw [later.pointer?_eq, withheld.found] at blob
      cases blob rfl
  | none =>
    refine ⟨pointer.size, fun inquiries => ⟨fun told h => ?_, fun stream bytes opened =>
      absurd opened (unread inquiries stream)⟩⟩
    have later := sound.descends inquiries
    have unmeasured := withheld.unmeasured_inquire sound recorded inquiries
    cases tells_of_outcome later.sound h with
    | recorded found =>
      rw [unmeasured] at found
      cases found
    | declared _ found =>
      rw [later.pointer?_eq, withheld.found] at found
      cases found
      rfl
    | counted blob =>
      rw [later.pointer?_eq, withheld.found] at blob
      cases blob rfl

/-- A size that is told is that of what is served, unless a pointer misdeclares it or its content
    cannot be opened. -/
theorem length_of_tells (sound : Sound depot) (later : Descends depot other)
    (right : ∀ pointer content, ¬ Misdeclared depot object pointer content)
    (offers : ∀ pointer, ¬ Withheld depot object pointer) {told : UInt64}
    (tells : Tells other lfs object told) :
    ∃ bytes, served depot lfs object = some bytes ∧ told.toNat = bytes.length := by
  cases tells with
  | recorded found =>
    rw [← later.served_eq]
    exact later.sound.length_of_recorded found
  | counted _ serves length => exact ⟨_, later.served_eq ▸ serves, length⟩
  | @declared _ pointer unmeasured found =>
    rw [later.pointer?_eq] at found
    cases offered : depot.remote.offered pointer.hash with
    | none => exact absurd ⟨found, offered⟩ (offers pointer)
    | some content =>
      refine ⟨content, served_of_offered (sound.blobFits object) found offered, ?_⟩
      -- Otherwise the pointer would declare another size than that of the content.
      by_contra differs
      refine right pointer content ⟨found, offered, ?_, differs⟩
      -- What is not recorded later has not been recorded before.
      rw [Option.eq_none_iff_forall_ne_some]
      intro value before
      rw [later.recorded _ _ before] at unmeasured
      cases unmeasured

/-- If all sizes that are told are those of what is served, they are honest. -/
theorem honest_of_length (sound : Sound depot)
    (right : ∀ other told, Descends depot other → Tells other filter object told →
      ∃ bytes, served depot filter object = some bytes ∧ told.toNat = bytes.length) :
    Honest depot filter object := by
  cases serves : served depot filter object with
  -- If nothing is served, no size is given either, and no stream is read to its end.
  | none =>
    refine ⟨0, fun inquiries => ⟨fun told h => ?_, fun stream bytes opened drained => ?_⟩⟩
    · have later := sound.descends inquiries
      obtain ⟨bytes, serves', -⟩ := right _ told later (tells_of_outcome later.sound h)
      rw [serves] at serves'
      cases serves'
    · have delivered := (sound.descends inquiries).delivers opened drained
      rw [serves] at delivered
      cases delivered
  | some content =>
    -- All sizes that are given and all streams that are read have the length of this content.
    have fits := sound.served_fits serves
    refine ⟨UInt64.ofNat content.length, fun inquiries => ⟨fun told h => ?_,
      fun stream bytes opened drained => ?_⟩⟩
    · have later := sound.descends inquiries
      obtain ⟨bytes, serves', length⟩ := right _ told later (tells_of_outcome later.sound h)
      rw [serves] at serves'
      cases serves'
      exact UInt64.toNat_inj.1 (length.trans (UInt64.toNat_ofNat_of_lt' fits).symm)
    · have delivered := (sound.descends inquiries).delivers opened drained
      rw [serves] at delivered
      cases delivered
      exact (UInt64.toNat_ofNat_of_lt' fits).symm

/-! ### Misdeclared sizes -/

namespace Misdeclared

variable {pointer : Pointer} {content : Bytes}

/-- The filter gives the size that the pointer declares. -/
theorem size_eq (h : Misdeclared depot object pointer content) :
    ((lfs.size object : Task Service UInt64).outcome depot).1 = .ok pointer.size := by
  have unmeasured : depot.metadata.tables.getNumber (lfs.cache.sizeKey object) = .ok none :=
    Metadata.getNumber_eq_ok_iff.2 h.unmeasured
  rw [Filter.size, Session.outcome_bind, Cache.size?, Session.outcome_ofFunction, unmeasured]
  show ((pointer? object >>= _).outcome depot).1 = _
  apply Session.Yields.fst_outcome (Alike.refl depot) (Alike depot)
  exact (yields_pointer?_of_outcome h.found).bind (Session.Yields.pure _)

/-- The filter delivers the content, which has another length. -/
theorem openStream_eq (h : Misdeclared depot object pointer content) :
    ((lfs.openStream backend object).outcome depot).1 = .ok ⟨content, none⟩ := by
  apply Session.Yields.fst_outcome (Alike.refl depot) (Alike depot)
  apply (yields_pointer?_of_outcome h.found).bind
  apply (yields_requestReader h.offered object).bind
  exact yields_readRemote h.offered rfl

/-- The declared size is told although other bytes are delivered. -/
theorem not_honest (h : Misdeclared depot object pointer content) : ¬ Honest depot lfs object := by
  rintro ⟨size, honest⟩
  obtain ⟨one, same⟩ := honest []
  have length := same _ content h.openStream_eq rfl
  rw [← one _ h.size_eq] at length
  exact h.differs length.symm

/-- Asking for the MD5 records the size of the content. -/
theorem get?_sizeKey_after_md5 (h : Misdeclared depot object pointer content)
    (unknown : depot.metadata.tables.get? (lfs.cache.md5Key object) = none) :
    ((lfs.md5 backend object).outcome depot).2.metadata.tables.get? (lfs.cache.sizeKey object) =
      some (.number (UInt64.ofNat content.length)) := by
  let measured : Depot Service → Prop := fun other =>
    other.metadata.tables.get? (lfs.cache.sizeKey object) =
      some (.number (UInt64.ofNat content.length))
  -- The MD5 is measured from a stream, and then its length is recorded along with it.
  have records : (md5OfStream lfs.cache object true ⟨content, none⟩ :
      Task Service String).Yields (Alike depot) (md5Hex content) measured := by
    intro other alike
    refine ⟨rfl, ?_⟩
    have ne : lfs.cache.sizeKey object ≠ lfs.cache.md5Key object :=
      (Cache.md5Key_ne_sizeKey _ _ _ _).symm
    show ((other.metadata.putIfAbsent _ _).2.putIfAbsent _ _).2.tables.get? _ = _
    rw [Metadata.Store.tables_putIfAbsent, Metadata.get?_putIfAbsent_self,
      Metadata.Store.tables_putIfAbsent, Metadata.get?_putIfAbsent_of_ne _ ne, alike.metadata,
      h.unmeasured, Option.getD_none]
  have noMd5 : depot.metadata.tables.getText (lfs.cache.md5Key object) = .ok none :=
    Metadata.getText_eq_ok_iff.2 unknown
  rw [Filter.md5, Session.outcome_bind, Cache.md5?, Session.outcome_ofFunction, noMd5]
  show measured ((pointer? object >>= _).outcome depot).2
  refine Session.Yields.snd_outcome (Alike.refl depot) (a := md5Hex content) ?_
  apply (yields_pointer?_of_outcome h.found).bind
  apply (yields_requestReader h.offered object).bind
  exact (yields_readRemote h.offered rfl).bind records

/-- After the MD5 was asked for, the size of the content is told. -/
theorem size_after_md5 (h : Misdeclared depot object pointer content)
    (unknown : depot.metadata.tables.get? (lfs.cache.md5Key object) = none) :
    ((lfs.size object).outcome (inquire depot [⟨lfs, by decide, object, .md5⟩])).1 =
      .ok (UInt64.ofNat content.length) := by
  have after : inquire depot [⟨lfs, by decide, object, .md5⟩] =
      ((lfs.md5 backend object).outcome depot).2 := by
    show ((lfs.md5 backend object >>= fun _ => pure ()).outcome depot).2 = _
    rw [Session.outcome_bind]
    rcases (lfs.md5 backend object).outcome depot with ⟨_ | _, _⟩ <;> rfl
  -- The size that is told now is the one on record.
  have recorded : ((lfs.md5 backend object).outcome depot).2.metadata.tables.getNumber
      (lfs.cache.sizeKey object) = .ok (some (UInt64.ofNat content.length)) :=
    Metadata.getNumber_eq_ok_iff.2 (h.get?_sizeKey_after_md5 unknown)
  rw [after, Filter.size, Session.outcome_bind, Cache.size?, Session.outcome_ofFunction, recorded]
  rfl

end Misdeclared

/-! ### Reachable states -/

/-- In every reachable state, the sizes that a filter tells of an object are honest exactly if the
    object is not a pointer that declares another size than that of the content that is offered
    for it and was not measured yet. -/
theorem size_honest_iff {metadata : Metadata.Store} (fresh : Fresh metadata) (events : List Event)
    (distinct : Set.InjOn Digest.Sha256.digest (everHeld (start metadata) events)) :
    ∀ filter ∈ builtIn, ∀ object,
      let depot := run (start metadata) events
      Honest depot filter object ↔
        (filter = lfs → ∀ pointer content, ¬ Misdeclared depot object pointer content) := by
  intro filter known object depot
  have sound : Sound depot := (sound_start fresh).run events distinct
  constructor
  · rintro honest rfl pointer content misdeclared
    exact misdeclared.not_honest honest
  · intro right
    -- The other filters count the blob, which is what they deliver.
    by_cases large : filter = lfs
    · subst large
      -- A pointer declares a size; it is never compared with a content that is withheld.
      by_cases withheld : ∃ pointer, Withheld depot object pointer
      · obtain ⟨pointer, withheld⟩ := withheld
        exact honest_of_withheld sound withheld
      · apply honest_of_length sound
        intro other told later tells
        exact length_of_tells sound later (right rfl) (not_exists.1 withheld) tells
    · apply honest_of_length sound
      intro other told later tells
      cases tells with
      | recorded | declared => exact absurd rfl large
      | counted _ serves length => exact ⟨_, later.served_eq ▸ serves, length⟩

/-- The pointer to three bytes that declares some size. -/
def threeBytes (size : UInt64) : Pointer :=
  ⟨Service.hashOf [1, 2, 3], size, isContentHash_encode (Digest.Sha256.length_digest _)⟩

theorem three_fits : ([1, 2, 3] : Bytes).length < 2 ^ 63 := by decide

/-- A pointer to three bytes is short enough, whatever size it declares. -/
theorem threeBytes_fits (size : UInt64) : (threeBytes size).toBytes.length < 2 ^ 63 :=
  Nat.lt_of_le_of_lt (threeBytes size).length_toBytes_le (by decide)

/-- The service is given three bytes, and the pointer to them is stored. -/
def onePointer (size : UInt64) : List Event :=
  [.insertContent [1, 2, 3] three_fits,
    .storeBlob .null (threeBytes size).toBytes (threeBytes_fits size)]

/-- The pointer is found, and the bytes that it names are offered. -/
theorem found_onePointer (size : UInt64) :
    let depot := run (start (.memory .empty)) (onePointer size)
    ((pointer? .null).outcome depot).1 = .ok (some (threeBytes size)) ∧
      depot.remote.offered (threeBytes size).hash = some [1, 2, 3] := by
  intro depot
  have stored : depot.objects.content? .null = some (threeBytes size).toBytes := rfl
  refine ⟨(yields_pointer?_toBytes stored rfl).fst_outcome (Alike.refl depot) (Alike depot), ?_⟩
  -- The content was inserted, and nothing refuses it.
  show (Service.insertObject {} [1, 2, 3]).2.objects.get? _ = _
  rw [Service.get?_insertObject]
  exact if_pos rfl

/-- The size of three bytes is honest if their pointer declares it. -/
theorem size_honest_iff_onePointer :
    Honest (run (start (.memory .empty)) (onePointer 3)) lfs .null := by
  -- The same three bytes are the only content that is ever held.
  have one : ∀ content ∈ everHeld (start (.memory .empty)) (onePointer 3),
      content = [1, 2, 3] := by
    have inserted : ∀ hash content, (Service.insertObject {} [1, 2, 3]).2.objects.get? hash =
        some content → content = [1, 2, 3] := by
      intro hash content found
      exact (Service.get?_insertObject_cases found).resolve_right (Option.some_ne_none _).symm
    rintro content ⟨before, part, hash, found⟩
    simp only [onePointer, List.prefix_cons_iff, List.prefix_nil] at part
    rcases part with rfl | ⟨_, rfl, rfl | ⟨_, rfl, rfl⟩⟩
    · cases found
    · exact inserted hash content found
    · exact inserted hash content found
  have distinct : Set.InjOn Digest.Sha256.digest
      (everHeld (start (.memory .empty)) (onePointer 3)) := by
    intro a ha b hb _
    rw [one a ha, one b hb]
  apply (size_honest_iff .memory (onePointer 3) distinct lfs (by decide) .null).2
  intro _ pointer content h
  -- The pointer declares three, and three bytes are offered for it.
  obtain ⟨found, offered⟩ := found_onePointer 3
  obtain rfl : threeBytes 3 = pointer := Option.some.inj (Except.ok.inj (found.symm.trans h.found))
  obtain rfl : [1, 2, 3] = content := Option.some.inj (offered.symm.trans h.offered)
  exact h.differs rfl

/-- If their pointer declares five bytes, their size is told to be five, and three after their MD5
    was asked for. -/
theorem size_changes_after_md5 :
    let depot := run (start (.memory .empty)) (onePointer 5)
    ((lfs.size .null).outcome depot).1 = .ok 5 ∧
      ((lfs.openStream backend .null).outcome depot).1 = .ok ⟨[1, 2, 3], none⟩ ∧
      ((lfs.size .null).outcome (inquire depot [⟨lfs, by decide, .null, .md5⟩])).1 = .ok 3 ∧
      ¬ Honest depot lfs .null := by
  intro depot
  obtain ⟨found, offered⟩ := found_onePointer 5
  have h : Misdeclared depot .null (threeBytes 5) [1, 2, 3] := ⟨found, offered, rfl, by decide⟩
  exact ⟨h.size_eq, h.openStream_eq, h.size_after_md5 rfl, h.not_honest⟩

end LargeFiles.Filter
