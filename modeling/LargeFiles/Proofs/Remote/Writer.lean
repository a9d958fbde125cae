import LargeFiles.Proofs.Remote.Service
import LargeFiles.Proofs.Spill
import LargeFiles.Remote.Writer

/-!
# Writers and the service

However a content is cut into pieces and wherever a writer keeps them, finishing the writer is an
upload of the whole content under its hash.

* `writeAll_create`                          what a writer has gathered from some pieces;
* `finish_of_writing`                        finishing it;
* `finish_of_takes`, `finish_of_not_takes`   finishing a writer, by what the service takes;
* `snd_finish_cases`                         a finished writer changes the service by its upload
                                             at most.
-/

namespace LargeFiles.Remote.Writer

variable {σ : Type}

/-- Writes some pieces, one after another. -/
def writeAll (w : Writer) (pieces : List Bytes) : Except RemoteError Writer :=
  pieces.foldlM write w

/-- Pieces are written to the buffer one after the other. -/
theorem writeAll_of_writing (who : Principal) (buffer : Spill.Buffer) (pieces : List Bytes) :
    writeAll ⟨who, .writing buffer⟩ pieces =
      .ok ⟨who, .writing (pieces.foldl Spill.Buffer.write buffer)⟩ := by
  induction pieces generalizing buffer with
  | nil => rfl
  | cons piece rest ih =>
    rw [List.foldl_cons, ← ih]
    rfl

/-- What a writer has gathered from some pieces is all their bytes. -/
theorem writeAll_create (who : Principal) (threshold : UInt64) (pieces : List Bytes) :
    ∃ buffer : Spill.Buffer, buffer.content = pieces.flatten ∧
      (create who threshold).writeAll pieces = .ok ⟨who, .writing buffer⟩ := by
  refine ⟨pieces.foldl Spill.Buffer.write (.empty threshold), ?_, writeAll_of_writing _ _ _⟩
  rw [Spill.Buffer.content_foldl_write, Spill.Buffer.content_empty, List.nil_append]

/-- Finishing a writer uploads what it has gathered. -/
theorem finish_of_writing (who : Principal) {buffer : Spill.Buffer} {content : Bytes}
    (gathered : buffer.content = content) (provider : Provider σ) {state after : σ}
    (uploaded : (provider.putObject who (.ok content) (Service.hashOf content)
      (UInt64.ofNat content.length)).outcome state = (.ok (), after)) :
    finish ⟨who, .writing buffer⟩ provider state =
      ((.ok (Pointer.scheme ++ Service.hashOf content), ⟨who, .committed content.length⟩),
        after) := by
  subst gathered
  simp only [finish, seal?, Spill.Content.size_eq, Spill.Content.read_eq, Spill.Buffer.bytes_finish,
    uploaded]

/-- A finished writer changes the service by its upload at most. -/
theorem snd_finish_cases (w : Writer) (provider : Provider σ) (state : σ) :
    (w.finish provider state).2 = state ∨
      ∃ source hash size, (w.finish provider state).2 =
        ((provider.putObject w.who source hash size).outcome state).2 := by
  rw [finish]
  split
  · exact .inl rfl
  · next content hash sealed =>
    refine .inr ⟨.ok content.read, hash, UInt64.ofNat content.size, ?_⟩
    simp only
    split <;> next uploaded => rw [uploaded]

/-- A writer that still has its content is left with it unless the upload succeeds. -/
theorem finish_cases {w : Writer} {content : Spill.Content} {hash : String}
    (kept : w.seal? = some (content, hash)) (provider : Provider σ) (state : σ) :
    (∃ after, w.finish provider state =
        ((.ok (Pointer.scheme ++ hash), { w with state := .committed content.size }), after)) ∨
      ∃ error after, w.finish provider state =
        ((.error error, { w with state := .finished content hash }), after) := by
  rw [finish, kept]
  simp only
  split
  · next after _ => exact .inl ⟨after, rfl⟩
  · next error after _ => exact .inr ⟨error, after, rfl⟩

/-- Finishing a writer whose content is taken. -/
theorem finish_of_takes {w : Writer} {content : Spill.Content} {s : Service}
    (kept : w.seal? = some (content, Service.hashOf content.bytes)) (takes : s.Takes content.bytes)
    (fits : content.bytes.length < UInt64.size) :
    w.finish Service.provider s =
      ((.ok (Pointer.scheme ++ Service.hashOf content.bytes),
        { w with state := .committed content.size }), s.keeping content.bytes) := by
  have uploaded := Service.outcome_putObject_of_takes takes fits w.who
  simp only [finish, kept, Spill.Content.size_eq, Spill.Content.read_eq, uploaded]

/-- Finishing a writer whose content is not taken. -/
theorem finish_of_not_takes {w : Writer} {content : Spill.Content} {s : Service}
    (kept : w.seal? = some (content, Service.hashOf content.bytes))
    (declines : ¬ s.Takes content.bytes) :
    ∃ error, w.finish Service.provider s =
      ((.error error,
        { w with state := .finished content (Service.hashOf content.bytes) }), s) := by
  obtain ⟨error, failed⟩ := Service.outcome_putObject_of_not_takes declines w.who
    (.ok content.bytes) (UInt64.ofNat content.bytes.length)
  exact ⟨error, by simp only [finish, kept, Spill.Content.size_eq, Spill.Content.read_eq, failed]⟩

/-- A content that is written in any pieces is offered under its hash once the writer is finished,
    if the service answers, does not refuse it, and has no other content under the hash. -/
theorem exists_finish (service : Service) (who : Principal) (threshold : UInt64)
    (pieces : List Bytes) (answers : service.emptyBatches = false)
    (accepted : service.refusals.get? (Service.hashOf pieces.flatten) = none)
    (alone : ∀ stored, service.objects.get? (Service.hashOf pieces.flatten) = some stored →
      stored = pieces.flatten)
    (fits : pieces.flatten.length < UInt64.size) :
    ∃ writer after service', (create who threshold).writeAll pieces = .ok writer ∧
      writer.finish Service.provider service =
        ((.ok (Pointer.scheme ++ Service.hashOf pieces.flatten), after), service') ∧
      service'.offered (Service.hashOf pieces.flatten) = some pieces.flatten := by
  obtain ⟨buffer, gathered, written⟩ := writeAll_create who threshold pieces
  obtain ⟨service', uploaded, offered⟩ := service.exists_putObject who answers accepted alone fits
  exact ⟨_, _, service', written, finish_of_writing who gathered Service.provider uploaded, offered⟩

end LargeFiles.Remote.Writer
