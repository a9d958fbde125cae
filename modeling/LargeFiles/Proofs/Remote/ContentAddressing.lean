import LargeFiles.Proofs.Remote.Writer

/-!
# Content addressing

Whatever is inserted, uploaded or written, and under whatever hash and size it is announced, the
service keeps each content under its own hash.  An upload is taken as a whole or not at all.

* `KeyedByHash`             the invariant;
* `KeyedByHash.run`         every run keeps it;
* `uploadsWhole_putObject`  what one upload does, in any state;
* `uploads_atomic`          both, in every reachable state.
-/

namespace LargeFiles.Remote

/-- What may happen to the objects of a service. -/
inductive StorageEvent
  /-- A content is stored without negotiation. -/
  | insert (content : Bytes)
  /-- A content, if it can be opened, is announced under some hash and with some size. -/
  | upload (who : Principal) (source : Source) (hash : String) (size : UInt64)
  /-- A writer is finished, however far it has come. -/
  | commit (writer : Writer)
  | refuse (hash : String) (error : Api.ObjectError)
  | setEmptyBatches (on : Bool)

namespace Service

/-- The service after something has happened to its objects. -/
def store (s : Service) : StorageEvent → Service
  | .insert content => (s.insertObject content).2
  | .upload who source hash size => ((provider.putObject who source hash size).outcome s).2
  | .commit writer => (writer.finish provider s).2
  | .refuse hash error => s.refuse hash error
  | .setEmptyBatches on => { s with emptyBatches := on }

/-- The service after some events. -/
def storeAll (s : Service) (events : List StorageEvent) : Service := events.foldl store s

/-! ### The invariant -/

/-- Every content is kept under its own hash, in lower case. -/
def KeyedByHash (s : Service) : Prop :=
  ∀ hash content, s.objects.get? hash = some content → hash = hashOf content

namespace KeyedByHash

variable {s : Service}

theorem start : KeyedByHash {} := fun _ _ found => nomatch found

/-- A content that is inserted is held under its hash. -/
theorem insertObject (h : s.KeyedByHash) (content : Bytes) :
    (s.insertObject content).2.KeyedByHash := by
  intro hash stored found
  rw [get?_insertObject] at found
  split at found
  · next same =>
    cases found
    exact same
  · exact h hash stored found

/-- The announced hash may be any text: what is stored under it has it. -/
theorem putObject (h : s.KeyedByHash) (who : Principal) (source : Source) (hash : String)
    (size : UInt64) :
    ((provider.putObject who source hash size).outcome s).2.KeyedByHash := by
  obtain same | ⟨content, -, named, -, new⟩ := s.snd_putObject_cases who source hash size
  · rwa [same]
  · rw [new, ← named]
    exact h.insertObject content

/-- Every event keeps the invariant. -/
theorem store (h : s.KeyedByHash) (event : StorageEvent) : (s.store event).KeyedByHash := by
  cases event with
  | insert content => exact h.insertObject content
  | upload who source hash size => exact h.putObject who source hash size
  | commit writer =>
    -- A writer that is committed uploads its content or does nothing.
    obtain same | ⟨source, hash, size, uploaded⟩ := writer.snd_finish_cases provider s
    · rwa [Service.store, same]
    · rw [Service.store, uploaded]
      exact h.putObject writer.who source hash size
  | refuse => exact h
  | setEmptyBatches => exact h

/-- Storage events keep every content under its hash. -/
theorem run (h : s.KeyedByHash) (events : List StorageEvent) : (s.storeAll events).KeyedByHash := by
  induction events generalizing s with
  | nil => exact h
  | cons event rest ih => exact ih (h.store event)

end KeyedByHash

/-! ### Single uploads -/

/-- What the outcome of an upload is: of a content that is announced with a hash and a size, to a
    service in some state. -/
structure UploadsWhole (s : Service) (content : Bytes) (hash : String) (size : UInt64)
    (outcome : Except RemoteError Unit × Service) : Prop where
  /-- A service that does not refuse the object has it already, or takes a content that is what
      was announced. -/
  ok_iff : s.emptyBatches = false → s.refusals.get? hash = none →
    (outcome.1 = .ok () ↔ (∃ stored, s.objects.get? hash = some stored) ∨
      hash = hashOf content ∧ size.toNat = content.length)
  /-- Success adds one entry at most, and only where there was none. -/
  of_ok : outcome.1 = .ok () →
    (∃ stored, s.objects.get? hash = some stored) ∧ outcome.2 = s ∨
      s.objects.get? hash = none ∧ hash = hashOf content ∧
        outcome.2 = { s with objects := s.objects.insert hash content }
  /-- No entry is lost or replaced, whatever the outcome. -/
  kept : ∀ other stored, s.objects.get? other = some stored →
    outcome.2.objects.get? other = some stored
  /-- A failure leaves everything as it was, and has one of three reasons. -/
  of_error : ∀ error, outcome.1 = .error error → outcome.2 = s ∧
    (s.emptyBatches = true ∧ error = .emptyBatch .upload hash ∨
      (∃ refusal, s.refusals.get? hash = some refusal ∧ error = .item hash refusal) ∨
      error = .uploadRejected hash (mismatchReason (hashOf content) hash content.length size))

/-- A batch without items or a refusal ends the upload before anything is stored. -/
theorem UploadsWhole.failed {s : Service} {content : Bytes} {hash : String} {size : UInt64}
    {error : RemoteError}
    (reason : s.emptyBatches = true ∧ error = .emptyBatch .upload hash ∨
      ∃ refusal, s.refusals.get? hash = some refusal ∧ error = .item hash refusal) :
    s.UploadsWhole content hash size (.error error, s) where
  ok_iff answers accepted := by
    -- Either reason goes against what is assumed of the service.
    obtain ⟨silent, -⟩ | ⟨refusal, refused, -⟩ := reason
    · rw [answers] at silent
      cases silent
    · rw [accepted] at refused
      cases refused
  of_ok := nofun
  kept _ _ found := found
  of_error other same := by
    cases same
    exact ⟨rfl, reason.imp_right .inl⟩

/-- A content is stored whole under its announced hash, or not at all. -/
theorem uploadsWhole_putObject (s : Service) (who : Principal) (content : Bytes) (hash : String)
    (size : UInt64) :
    s.UploadsWhole content hash size
      ((provider.putObject who (.ok content) hash size).outcome s) := by
  rw [outcome_putObject]
  split
  · next silent => exact .failed (.inl ⟨silent, rfl⟩)
  · cases refused : s.refusals.get? hash with
    | some refusal => exact .failed (.inr ⟨refusal, refused, rfl⟩)
    | none =>
      cases found : s.objects.get? hash with
      -- An object that is there is not uploaded again.
      | some stored =>
        exact {
          ok_iff := fun _ _ => iff_of_true rfl (.inl ⟨stored, found⟩)
          of_ok := fun _ => .inl ⟨⟨stored, found⟩, rfl⟩
          kept := fun _ _ found => found
          of_error := by rintro _ ⟨⟩ }
      | none =>
        have absent : ¬ ∃ stored, s.objects.get? hash = some stored := by simp [found]
        -- The service compares what came with what was announced.
        by_cases fits : hashOf content = hash ∧ content.length = size.toNat
        · simp only [if_pos fits]
          exact {
            ok_iff := fun _ _ => iff_of_true rfl (.inr ⟨fits.1.symm, fits.2.symm⟩)
            of_ok := fun _ => .inr ⟨found, fits.1.symm, rfl⟩
            kept := by
              intro other stored present
              have ne : other ≠ hash := by
                rintro rfl
                exact absent ⟨stored, present⟩
              exact (SortedMap.get?_insert_of_ne _ ne _).trans present
            of_error := by rintro _ ⟨⟩ }
        · simp only [if_neg fits]
          exact {
            ok_iff := fun _ _ => iff_of_false (by rintro ⟨⟩)
              (not_or.2 ⟨absent, fun announced => fits ⟨announced.1.symm, announced.2.symm⟩⟩)
            of_ok := by rintro ⟨⟩
            kept := fun _ _ found => found
            of_error := fun _ same => by
              cases same
              exact ⟨rfl, .inr (.inr rfl)⟩ }

end Service

/-- Whatever is inserted, uploaded and written in any order, and announced as whatever, each content
    is kept under its hash.  An upload to a service in such a state succeeds exactly if the hash has
    a content already, or the content is the one that was announced; it adds the content where there
    was none, and changes nothing if it fails. -/
theorem uploads_atomic (events : List StorageEvent) :
    (Service.storeAll {} events).KeyedByHash ∧
      ∀ who content hash size, (Service.storeAll {} events).UploadsWhole content hash size
        ((Service.provider.putObject who (.ok content) hash size).outcome
          (Service.storeAll {} events)) :=
  ⟨Service.KeyedByHash.start.run events, fun who content hash size =>
    Service.uploadsWhole_putObject _ who content hash size⟩

end LargeFiles.Remote
