import LargeFiles.Remote.Service
import LargeFiles.Remote.Transfer
import LargeFiles.Proofs.Pointer
import LargeFiles.Proofs.Session
import LargeFiles.Proofs.Text.Hex

/-!
# Transfers with the in-memory service

What a negotiation followed by a transfer does when the service is the one in memory: downloads
leave the service alone and deliver what is stored, uploads store the content that was announced
or nothing.

* `outcome_getReader`   the reader of a content that the service offers;
* `outcome_read`        reading through it;
* `outcome_putObject`   an upload, with everything that may stand in its way.
-/

namespace LargeFiles.Remote.Service

/-- The hash of a content. -/
abbrev hashOf (content : Bytes) : String := Text.Hex.encode (Digest.Sha256.digest content)

/-! ### Links -/

/-- The links of an object to be fetched. -/
def downloadLinks (hash : String) : Api.Links := Api.Links.none.insert "download" (linkTo hash)

/-- The links of an object to be sent. -/
def uploadLinks (hash : String) : Api.Links := Api.Links.none.insert "upload" (linkTo hash)

/-- A link leads to the hash that it was made for. -/
theorem hashOfLink_linkTo (hash : String) : hashOfLink (linkTo hash) = .ok hash := by
  have scheme : linkScheme.toList.isPrefixOf (linkScheme ++ hash).toList = true := by
    rw [List.isPrefixOf_iff_prefix, String.toList_append]
    exact List.prefix_append _ _
  have href : (linkTo hash).href = linkScheme ++ hash := rfl
  rw [hashOfLink, href, if_pos scheme, String.toList_append, List.drop_left, String.ofList_toList]

theorem download?_downloadLinks (hash : String) :
    (downloadLinks hash).download? = some (linkTo hash) := by
  simp [downloadLinks, Api.Links.insert, Api.Links.download?]

theorem upload?_uploadLinks (hash : String) : (uploadLinks hash).upload? = some (linkTo hash) := by
  simp [uploadLinks, Api.Links.insert, Api.Links.upload?]

/-! ### Downloads -/

/-- The content that is offered under a hash: one that is stored, unless it is refused or batches
    are not answered. -/
def offered (s : Service) (hash : String) : Option Bytes :=
  if s.emptyBatches || (s.refusals.get? hash).isSome then none else s.objects.get? hash

/-- What is offered is stored. -/
theorem get?_of_offered {s : Service} {hash : String} {content : Bytes}
    (h : s.offered hash = some content) : s.objects.get? hash = some content := by
  rw [offered] at h
  split at h
  · cases h
  · exact h

/-- A batch gives a reader for a content that is offered. -/
theorem readerOf_batch (s : Service) (hash : String) :
    Provider.readerOf (s.batch (.basic .download [⟨hash, 0⟩])) =
      (s.offered hash).map fun content =>
        ⟨⟨hash, UInt64.ofNat content.length⟩, downloadLinks hash⟩ := by
  rw [batch, offered]
  cases s.emptyBatches with
  | true => rfl
  | false =>
    -- A refused item has no links, and neither has one whose content is absent.
    cases refused : s.refusals.get? hash with
    | some error => simp [Provider.readerOf, Api.BatchRequest.basic, batchItem, refused]
    | none =>
      cases stored : s.objects.get? hash with
      | some content =>
        simp [Provider.readerOf, Api.BatchRequest.basic, batchItem, refused, stored,
          downloadLinks, Api.BatchItem.object]
      | none => simp [Provider.readerOf, Api.BatchRequest.basic, batchItem, refused, stored]

/-- A download is negotiated without a change of the service. -/
theorem outcome_getReader (s : Service) (hash : String) (who : Principal) :
    (provider.getReader (Pointer.scheme ++ hash) who).outcome s =
      (.ok ((s.offered hash).map fun content =>
        ⟨⟨hash, UInt64.ofNat content.length⟩, downloadLinks hash⟩), s) := by
  rw [← readerOf_batch]
  simp only [Provider.getReader, Pointer.hashOfOid?_scheme]
  rfl

/-- The links of a download give the content that is stored under the hash. -/
theorem getObject_downloadLinks (s : Service) (hash : String) :
    s.getObject (downloadLinks hash) =
      match s.objects.get? hash with
      | some content => .ok content
      | none => .error (.api (linkTo hash).href 404 missingObject.message) := by
  cases stored : s.objects.get? hash <;>
    simp only [getObject, download?_downloadLinks, hashOfLink_linkTo, stored]

/-- Reading through the links of a stored object. -/
theorem outcome_read (s : Service) (reader : Reader) :
    (provider.read reader).outcome s = (s.getObject reader.links, s) := rfl

/-! ### Uploads -/

/-- An upload through links, with what may stand in its way. -/
theorem putObject_uploadLinks (s : Service) (source : Source) (object : Api.ObjectMeta)
    (hash : String) :
    s.putObject source object (uploadLinks hash) =
      match source with
      | .error fault => (.error (.io fault), s)
      | .ok content =>
        if Text.Hex.encode (Digest.Sha256.digest content) = hash ∧
            content.length = object.size.toNat then
          (.ok true, { s with objects := s.objects.insert hash content })
        else
          (.error (.uploadRejected object.oid
            (mismatchReason (Text.Hex.encode (Digest.Sha256.digest content)) hash content.length
              object.size)), s) := by
  rw [putObject, upload?_uploadLinks]
  simp only [hashOfLink_linkTo]
  cases source with
  | error fault => rfl
  | ok content =>
    -- The link names the hash, so the content is compared with that.
    show (if _ then _ else _) = (if _ then _ else _)
    split
    · next fits => rw [fits.1]
    · rfl

/-- A batch for one object has one item, unless batches are empty. -/
theorem batch_upload (s : Service) (hash : String) (size : UInt64)
    (answers : s.emptyBatches = false) :
    (s.batch (.basic .upload [⟨hash, size⟩])).objects =
      [s.batchItem .upload ⟨hash, size⟩] := by
  simp [batch, Api.BatchRequest.basic, answers]

/-- A single item is refused, or its content is put along its links. -/
theorem outcome_uploadItems_single {σ : Type} (client : Client σ) (source : Source)
    (item : Api.BatchItem) (state : σ) :
    (Provider.uploadItems client source [item]).outcome state =
      match item.error with
      | some error => (.error (.item item.oid error), state)
      | none =>
        let outcome := (client.putObject source item.object item.actions).outcome state
        (outcome.1.map fun _ => (), outcome.2) := by
  cases failed : item.error with
  | some error => simp [Provider.uploadItems, failed]
  | none =>
    simp only [Provider.uploadItems, failed, Session.outcome_bind]
    rcases (client.putObject source item.object item.actions).outcome state with ⟨⟨⟩ | ⟨⟩, _⟩ <;>
      rfl

/-- The outcome of an upload.  The service goes on as it is, unless the content is new and is the
    one that was announced. -/
theorem outcome_putObject (s : Service) (who : Principal) (source : Source) (hash : String)
    (size : UInt64) :
    (provider.putObject who source hash size).outcome s =
      if s.emptyBatches then (.error (.emptyBatch .upload hash), s)
      else match s.refusals.get? hash, s.objects.get? hash, source with
        | some error, _, _ => (.error (.item hash error), s)
        | none, some _, _ => (.ok (), s)
        | none, none, .error fault => (.error (.io fault), s)
        | none, none, .ok content =>
          if Text.Hex.encode (Digest.Sha256.digest content) = hash ∧
              content.length = size.toNat then
            (.ok (), { s with objects := s.objects.insert hash content })
          else
            (.error (.uploadRejected hash
              (mismatchReason (Text.Hex.encode (Digest.Sha256.digest content)) hash content.length
                size)), s) := by
  -- The obstacles in the order in which they are met: no answer, a refusal, a stored content.
  by_cases silent : s.emptyBatches = true
  · rw [if_pos silent]
    simp only [Provider.putObject, provider, Session.outcome_bind, Session.outcome_pure, client,
      Session.outcome_ofFunction, batch, silent]
    rfl
  · rw [if_neg silent]
    have items := batch_upload s hash size (Bool.eq_false_iff.2 silent)
    simp only [Provider.putObject, provider, Session.outcome_bind, Session.outcome_pure, client,
      Session.outcome_ofFunction, items, List.isEmpty_cons, Bool.false_eq_true, if_false]
    rw [outcome_uploadItems_single]
    cases refused : s.refusals.get? hash with
    | some error => simp only [batchItem, refused]
    | none =>
      cases stored : s.objects.get? hash with
      | some content =>
        simp only [batchItem, refused, stored]
        rfl
      | none =>
        have links : Api.Links.none.insert "upload" (linkTo hash) = uploadLinks hash := rfl
        simp only [batchItem, refused, stored, links, Session.outcome_ofFunction,
          putObject_uploadLinks, Api.BatchItem.object]
        cases source with
        | error fault => rfl
        | ok content =>
          by_cases fits : Text.Hex.encode (Digest.Sha256.digest content) = hash ∧
              content.length = size.toNat
          · simp only [if_pos fits]
            rfl
          · simp only [if_neg fits]
            rfl

/-- What an upload leaves of the service: the service as it is, or with one content more, which
    is the one that was announced. -/
theorem snd_putObject_cases (s : Service) (who : Principal) (source : Source) (hash : String)
    (size : UInt64) :
    ((provider.putObject who source hash size).outcome s).2 = s ∨
      ∃ content, s.objects.get? hash = none ∧
        Text.Hex.encode (Digest.Sha256.digest content) = hash ∧ content.length = size.toNat ∧
        ((provider.putObject who source hash size).outcome s).2 =
          { s with objects := s.objects.insert hash content } := by
  rw [outcome_putObject]
  split
  · exact .inl rfl
  · split
    · exact .inl rfl
    · exact .inl rfl
    · exact .inl rfl
    · next refused absent =>
      split
      -- Only here, where nothing stands against it, is a content stored.
      · next fits => exact .inr ⟨_, absent, fits.1, fits.2, rfl⟩
      · exact .inl rfl

/-- Whether an upload of a content is taken. -/
def Takes (s : Service) (content : Bytes) : Prop :=
  s.emptyBatches = false ∧ s.refusals.get? (hashOf content) = none

/-- The service with a content, unless it has one under the same hash. -/
def keeping (s : Service) (content : Bytes) : Service :=
  match s.objects.get? (hashOf content) with
  | some _ => s
  | none => { s with objects := s.objects.insert (hashOf content) content }

/-- A content that is kept is found under its hash, unless there was one before. -/
theorem get?_keeping (s : Service) (content : Bytes) :
    (s.keeping content).objects.get? (hashOf content) =
      some ((s.objects.get? (hashOf content)).getD content) := by
  rw [keeping]
  split
  · next stored => rw [stored, Option.getD_some]
  · next absent => rw [SortedMap.get?_insert_self, absent, Option.getD_none]

/-- A service that has taken a content takes it again. -/
theorem Takes.keeping {s : Service} {content : Bytes} (takes : s.Takes content) :
    (s.keeping content).Takes content := by
  rw [Service.keeping]
  split <;> exact takes

/-- A content that is uploaded under its own hash is kept, if it is taken. -/
theorem outcome_putObject_of_takes {s : Service} {content : Bytes} (takes : s.Takes content)
    (fits : content.length < UInt64.size) (who : Principal) :
    (provider.putObject who (.ok content) (hashOf content)
      (UInt64.ofNat content.length)).outcome s = (.ok (), s.keeping content) := by
  have announced : Text.Hex.encode (Digest.Sha256.digest content) = hashOf content ∧
      content.length = (UInt64.ofNat content.length).toNat :=
    ⟨rfl, (UInt64.toNat_ofNat_of_lt' fits).symm⟩
  rw [outcome_putObject, if_neg (Bool.eq_false_iff.1 takes.1), takes.2, keeping]
  cases s.objects.get? (hashOf content) with
  | some stored => rfl
  | none => exact if_pos announced

/-- An upload that is not taken changes nothing. -/
theorem outcome_putObject_of_not_takes {s : Service} {content : Bytes}
    (declines : ¬ s.Takes content) (who : Principal) (source : Source) (size : UInt64) :
    ∃ error,
      (provider.putObject who source (hashOf content) size).outcome s = (.error error, s) := by
  rw [outcome_putObject]
  by_cases silent : s.emptyBatches = true
  · exact ⟨_, if_pos silent⟩
  · rw [if_neg silent]
    cases refused : s.refusals.get? (hashOf content) with
    | some error => exact ⟨_, rfl⟩
    | none => exact absurd ⟨Bool.eq_false_iff.2 silent, refused⟩ declines

/-- A content is offered under its hash once it was uploaded, if the service answers, does not
    refuse it, and has no other content under the hash. -/
theorem exists_putObject (s : Service) (who : Principal) {content : Bytes}
    (answers : s.emptyBatches = false) (accepted : s.refusals.get? (hashOf content) = none)
    (alone : ∀ stored, s.objects.get? (hashOf content) = some stored → stored = content)
    (fits : content.length < UInt64.size) :
    ∃ after, (provider.putObject who (.ok content) (hashOf content)
        (UInt64.ofNat content.length)).outcome s = (.ok (), after) ∧
      after.offered (hashOf content) = some content := by
  have takes : s.Takes content := ⟨answers, accepted⟩
  refine ⟨s.keeping content, outcome_putObject_of_takes takes fits who, ?_⟩
  have kept : (s.objects.get? (hashOf content)).getD content = content := by
    cases present : s.objects.get? (hashOf content) with
    | some stored => rw [Option.getD_some, alone stored present]
    | none => rw [Option.getD_none]
  rw [offered, takes.keeping.1, takes.keeping.2, get?_keeping, kept]
  rfl

/-! ### Stored contents -/

/-- Contents are kept under their hash, and their sizes can be told. -/
def Addressed (s : Service) : Prop :=
  ∀ hash content, s.objects.get? hash = some content →
    hash = Text.Hex.encode (Digest.Sha256.digest content) ∧ content.length < UInt64.size

/-- A service that has all contents of another. -/
def Extends (s t : Service) : Prop :=
  ∀ hash content, s.objects.get? hash = some content → t.objects.get? hash = some content

/-- A content that is inserted is found under its hash, and others stay. -/
theorem get?_insertObject (s : Service) (content : Bytes) (hash : String) :
    (s.insertObject content).2.objects.get? hash =
      if hash = Text.Hex.encode (Digest.Sha256.digest content) then some content
      else s.objects.get? hash := by
  rw [insertObject]
  split
  · next same => rw [same, SortedMap.get?_insert_self]
  · next ne => rw [SortedMap.get?_insert_of_ne _ ne]

/-- A content that is found after an insertion was inserted, or was there before. -/
theorem get?_insertObject_cases {s : Service} {content other : Bytes} {hash : String}
    (found : (s.insertObject content).2.objects.get? hash = some other) :
    other = content ∨ s.objects.get? hash = some other := by
  rw [get?_insertObject] at found
  split at found
  · exact .inl (Option.some.inj found).symm
  · exact .inr found

variable {s : Service}

/-- A content of a fitting length may be inserted under its hash. -/
theorem Addressed.insert (h : s.Addressed) {content : Bytes}
    (fits : content.length < UInt64.size) : (s.insertObject content).2.Addressed := by
  intro hash stored found
  rw [get?_insertObject] at found
  split at found
  · next same =>
    cases found
    exact ⟨same, fits⟩
  · exact h hash stored found

/-- A content that is inserted takes the place of none but itself, unless digests collide. -/
theorem Addressed.extends_insert (h : s.Addressed) {content : Bytes}
    (distinct : ∀ hash stored, s.objects.get? hash = some stored →
      Digest.Sha256.digest stored = Digest.Sha256.digest content → stored = content) :
    s.Extends (s.insertObject content).2 := by
  intro hash stored found
  rw [get?_insertObject]
  split
  · next same =>
    have digests := Text.Hex.encode_injective ((h hash stored found).1.symm.trans same)
    rw [distinct hash stored found digests]
  · exact found

/-- An upload adds a content under its hash or nothing. -/
theorem Addressed.putObject (h : s.Addressed) (who : Principal) (source : Source)
    (hash : String) (size : UInt64) :
    ((provider.putObject who source hash size).outcome s).2.Addressed ∧
      s.Extends ((provider.putObject who source hash size).outcome s).2 := by
  rcases s.snd_putObject_cases who source hash size with same | ⟨content, absent, named, sized, new⟩
  · rw [same]
    exact ⟨h, fun _ _ found => found⟩
  · rw [new]
    constructor
    · rw [← named]
      exact h.insert (by rw [sized]; exact size.toNat_lt)
    · intro other stored found
      -- A content is stored only under a hash that had none, so no other one is replaced.
      have ne : other ≠ hash := by
        rintro rfl
        rw [absent] at found
        cases found
      exact (SortedMap.get?_insert_of_ne _ ne _).trans found

end LargeFiles.Remote.Service
