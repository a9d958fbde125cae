import LargeFiles.Proofs.Filter.Recording
import LargeFiles.Proofs.Remote.Writer

/-!
# Large files are served as they were written

A content that a writer has uploaded is served through the pointer to it, however it was cut into
pieces and however often and in whatever order the filter is asked.

* `PointsTo`              an object is the pointer to a content that the service offers;
* `PointsTo.openStream`, `PointsTo.md5`, …   what the filter answers about such an object;
* `exists_finish`         a writer gives the name of its content, which is offered from then on;
* `write_then_serve`      the two together.
-/

namespace LargeFiles.Filter

open Remote (Service)

/-- In the depot an object is the document of a pointer to a content that the service offers, and
    the cache for large files holds nothing of it that is false. -/
structure PointsTo (depot : Depot Service) (object : ObjectName) (pointer : Pointer)
    (content : Bytes) : Prop where
  stored : depot.objects.content? object = some pointer.toBytes
  whole : depot.objects.broken.lookup object = none
  offered : depot.remote.offered pointer.hash = some content
  size : pointer.size.toNat = content.length
  coherent : Coherent depot lfs object

namespace PointsTo

variable {depot other : Depot Service} {object : ObjectName} {pointer : Pointer} {content : Bytes}

/-- Where an object points to a content, that content is served for it. -/
theorem served_eq (h : PointsTo depot object pointer content) :
    served depot lfs object = some content := by
  rw [served, h.stored, Option.bind_some]
  simp only [bytesOf, Pointer.parse_toBytes]
  exact Service.get?_of_offered h.offered

/-! ### Answers -/

theorem yields_pointer? (h : PointsTo depot object pointer content) :
    (pointer? object).Yields (Alike depot) (some pointer) (Alike depot) :=
  yields_pointer?_toBytes h.stored h.whole

/-- The content is delivered whole. -/
theorem openStream (h : PointsTo depot object pointer content) :
    ((lfs.openStream backend object).outcome depot).1 = .ok ⟨content, none⟩ := by
  apply Session.Yields.fst_outcome (Alike.refl depot) (Alike depot)
  apply h.yields_pointer?.bind
  apply (yields_requestReader h.offered object).bind
  exact yields_readRemote h.offered rfl

/-- The content hash names the filter and the content. -/
theorem contentHash (h : PointsTo depot object pointer content) :
    ((lfs.contentHash object).outcome depot).1 = .ok ("lfs " ++ pointer.oid) := by
  apply Session.Yields.fst_outcome (Alike.refl depot) (Alike depot)
  exact h.yields_pointer?.bind (Session.Yields.pure _)

/-- The cache has the MD5 of the content or none. -/
theorem getText_md5Key (h : PointsTo depot object pointer content) :
    depot.metadata.tables.getText (lfs.cache.md5Key object) = .ok none ∨
      depot.metadata.tables.getText (lfs.cache.md5Key object) = .ok (some (md5Hex content)) := by
  rw [Metadata.getText]
  cases found : depot.metadata.tables.get? (lfs.cache.md5Key object) with
  | none => exact .inl rfl
  | some value =>
    -- A record is about what is served, which is the content.
    obtain ⟨bytes, serves, rfl⟩ := h.coherent.md5 value found
    rw [h.served_eq] at serves
    cases serves
    exact .inr rfl

/-- The cache has the size of the content or none. -/
theorem getNumber_sizeKey (h : PointsTo depot object pointer content) :
    depot.metadata.tables.getNumber (lfs.cache.sizeKey object) = .ok none ∨
      depot.metadata.tables.getNumber (lfs.cache.sizeKey object) = .ok (some pointer.size) := by
  rw [Metadata.getNumber]
  cases found : depot.metadata.tables.get? (lfs.cache.sizeKey object) with
  | none => exact .inl rfl
  | some value =>
    obtain ⟨bytes, n, serves, rfl, length⟩ := h.coherent.size value found
    rw [h.served_eq] at serves
    cases serves
    -- A size on record is the length of what is served, which the pointer declares as well.
    have same : n = pointer.size := UInt64.toNat_inj.1 (length.trans h.size.symm)
    exact .inr (by rw [same])

/-- The MD5 is that of the content. -/
theorem md5 (h : PointsTo depot object pointer content) :
    ((lfs.md5 backend object).outcome depot).1 = .ok (md5Hex content) := by
  rw [Filter.md5, Session.outcome_bind, Cache.md5?, Session.outcome_ofFunction]
  rcases h.getText_md5Key with nothing | known
  · rw [nothing]
    -- The content is fetched, measured and recorded.
    have measured : (md5OfStream lfs.cache object true ⟨content, none⟩ :
        Task Service String).Yields (Alike depot) (md5Hex content) fun _ => True :=
      fun _ _ => ⟨rfl, trivial⟩
    show ((pointer? object >>= _).outcome depot).1 = _
    apply Session.Yields.fst_outcome (Alike.refl depot) fun _ => True
    apply h.yields_pointer?.bind
    apply (yields_requestReader h.offered object).bind
    exact (yields_readRemote h.offered rfl).bind measured
  · rw [known]
    rfl

/-- The size is the one that the pointer declares, on record or not. -/
theorem size_eq (h : PointsTo depot object pointer content) :
    ((lfs.size object : Task Service UInt64).outcome depot).1 = .ok pointer.size := by
  rw [Filter.size, Session.outcome_bind, Cache.size?, Session.outcome_ofFunction]
  -- A size on record agrees with the one that the pointer declares.
  rcases h.getNumber_sizeKey with nothing | known
  · rw [nothing]
    show ((pointer? object >>= _).outcome depot).1 = _
    apply Session.Yields.fst_outcome (Alike.refl depot) (Alike depot)
    exact h.yields_pointer?.bind (Session.Yields.pure _)
  · rw [known]
    rfl

/-! ### Requests -/

/-- After a request the object still points to its content. -/
theorem follows (h : PointsTo depot object pointer content)
    (requests : Follows depot lfs object other) : PointsTo other object pointer content where
  stored := (requests.content?_eq object).trans h.stored
  whole := by
    rw [requests.objects.broken]
    exact h.whole
  offered := by
    rw [requests.remote]
    exact h.offered
  size := h.size
  coherent := by
    -- What was recorded meanwhile is about the content, whose length the pointer has.
    apply h.coherent.follows (by decide) (by decide) requests
    intro bytes serves
    rw [h.served_eq] at serves
    cases serves
    rw [← h.size]
    exact pointer.size.toNat_lt

/-- A pointer is short. -/
theorem blobFits (h : PointsTo depot object pointer content) : BlobFits depot object := by
  intro blob stored
  rw [h.stored] at stored
  cases stored
  exact Nat.lt_of_le_of_lt pointer.length_toBytes_le (by decide)

end PointsTo

/-- The depot after some requests to the filter for large files about an object. -/
def askAll (object : ObjectName) (requests : List Request) (depot : Depot Service) :
    Depot Service :=
  requests.foldl (fun depot request => ((request.task lfs object).outcome depot).2) depot

variable {depot : Depot Service} {object : ObjectName} {pointer : Pointer} {content : Bytes}

/-- Requests leave an object the pointer that it is. -/
theorem PointsTo.askAll (h : PointsTo depot object pointer content) (requests : List Request) :
    PointsTo (askAll object requests depot) object pointer content := by
  induction requests generalizing depot with
  | nil => exact h
  | cons request rest ih =>
    exact ih (h.follows (keeps_task h.blobFits (by decide) request depot (.refl _ _ _)).1)

/-- A content that is written in any pieces is served through the pointer to it.  The service has
    to answer, must not refuse the content, and must have no other one under its hash; nothing may
    be cached of the object that is the pointer. -/
theorem write_then_serve (service : Service) (who : Principal) (threshold : UInt64)
    (pieces : List Bytes) (answers : service.emptyBatches = false)
    (accepted : service.refusals.get? (Service.hashOf pieces.flatten) = none)
    (alone : ∀ stored, service.objects.get? (Service.hashOf pieces.flatten) = some stored →
      stored = pieces.flatten)
    (fits : pieces.flatten.length < UInt64.size) :
    ∃ writer after service' oid pointer,
      (Remote.Writer.create who threshold).writeAll pieces = .ok writer ∧
      writer.finish Service.provider service = ((.ok oid, after), service') ∧
      (Pointer.hashOfOid? oid).bind (Pointer.ofHash? · (UInt64.ofNat pieces.flatten.length)) =
        some pointer ∧
      ∀ (depot : Depot Service) (object : ObjectName) (requests : List Request),
        depot.remote = service' →
        depot.objects.content? object = some pointer.toBytes →
        depot.objects.broken.lookup object = none →
        depot.metadata.tables.get? (lfs.cache.md5Key object) = none →
        depot.metadata.tables.get? (lfs.cache.sizeKey object) = none →
        let later := askAll object requests depot
        ((lfs.openStream backend object).outcome later).1 = .ok ⟨pieces.flatten, none⟩ ∧
        ((lfs.size object).outcome later).1 = .ok (UInt64.ofNat pieces.flatten.length) ∧
        ((lfs.md5 backend object).outcome later).1 = .ok (md5Hex pieces.flatten) ∧
        ((lfs.contentHash object).outcome later).1 = .ok ("lfs " ++ oid) := by
  -- The writer gathers the pieces and hands their content to the service, which then offers it.
  obtain ⟨writer, after, service', written, finished, offered⟩ :=
    Remote.Writer.exists_finish service who threshold pieces answers accepted alone fits
  have hash_ok : isContentHash (Service.hashOf pieces.flatten) = true :=
    isContentHash_encode (Digest.Sha256.length_digest _)
  refine ⟨writer, after, service', _, ⟨_, UInt64.ofNat pieces.flatten.length, hash_ok⟩, written,
    finished, ?_, ?_⟩
  · rw [Pointer.hashOfOid?_scheme, Option.bind_some, Pointer.ofHash?, dif_pos hash_ok]
  · rintro depot object requests rfl stored whole noMd5 noSize later
    -- From here on only the pointer counts: it is stored, and what it names is offered.
    have start : PointsTo depot object ⟨_, UInt64.ofNat pieces.flatten.length, hash_ok⟩
        pieces.flatten :=
      ⟨stored, whole, offered, UInt64.toNat_ofNat_of_lt' fits, coherent_of_none noMd5 noSize⟩
    have pointsTo := start.askAll requests
    exact ⟨pointsTo.openStream, pointsTo.size_eq, pointsTo.md5, pointsTo.contentHash⟩

/-- Three bytes in two pieces, the second of which does not fit in memory, are served through the
    pointer to them after their MD5 and their size were asked for. -/
theorem write_then_serve_two_pieces :
    ∃ (writer : Remote.Writer) (after : Remote.Writer) (service : Service) (oid : String)
      (pointer : Pointer),
      (Remote.Writer.create .anonymous 2).writeAll [[1, 2], [3]] = .ok writer ∧
      writer.finish Service.provider {} = ((.ok oid, after), service) ∧
      ((lfs.openStream backend .null).outcome (askAll .null [.md5, .size]
        { objects := ObjectStore.insert {} .null pointer.toBytes, metadata := .memory .empty,
          remote := service })).1 = .ok ⟨[1, 2, 3], none⟩ := by
  obtain ⟨writer, after, service, oid, pointer, written, finished, -, serves⟩ :=
    write_then_serve {} .anonymous 2 [[1, 2], [3]] rfl rfl (fun _ found => nomatch found)
      (by decide)
  refine ⟨writer, after, service, oid, pointer, written, finished, ?_⟩
  exact (serves _ .null [.md5, .size] rfl rfl rfl rfl rfl).1

end LargeFiles.Filter
