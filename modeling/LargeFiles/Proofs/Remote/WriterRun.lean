import LargeFiles.Proofs.Remote.Writer
import Mathlib.Data.List.Induction

/-!
# Runs of a writer

A writer is written to, asked for its size and finished in any order, while the service goes in and
out of order.  What it does at any point follows from what was written before it was first
finished, and from whether it has been finished with success.

* `gathered`          what counts as the content of the writer;
* `Progress`          how far a writer has come, by what happened before;
* `Progress.step`     every event keeps it;
* `writer_behaves`    what the writer and the service do at any point of any run.
-/

namespace LargeFiles.Remote

/-! ### Events -/

/-- What can happen while a writer is in use. -/
inductive WriterEvent
  | write (data : Bytes)
  | size
  | finish
  /-- The service refuses an object in every batch from now on. -/
  | refuse (hash : String) (error : Api.ObjectError)
  /-- The service stops or starts to leave batches unanswered. -/
  | setEmptyBatches (on : Bool)
  deriving DecidableEq

/-- What the writer answers. -/
inductive WriterAnswer
  | written (result : Except RemoteError Unit)
  | size (bytes : Nat)
  | finished (result : Except RemoteError String)
  /-- Nothing was asked of the writer. -/
  | nothing
  deriving DecidableEq

/-- A writer and the service that it uploads to. -/
structure Workplace where
  writer : Writer
  service : Service
  deriving DecidableEq

namespace Workplace

/-- The answer to an event, and what is there after it. -/
def step (place : Workplace) : WriterEvent → WriterAnswer × Workplace
  | .write data =>
    match place.writer.write data with
    | .ok writer => (.written (.ok ()), { place with writer })
    | .error error => (.written (.error error), place)
  | .size => (.size place.writer.size, place)
  | .finish =>
    let ((result, writer), service) := place.writer.finish Service.provider place.service
    (.finished result, ⟨writer, service⟩)
  | .refuse hash error => (.nothing, { place with service := place.service.refuse hash error })
  | .setEmptyBatches on =>
    (.nothing, { place with service := { place.service with emptyBatches := on } })

/-- The answers to some events, and what is there after them. -/
def run (place : Workplace) (events : List WriterEvent) : List WriterAnswer × Workplace :=
  events.foldl
    (fun reached event =>
      (reached.1 ++ [(reached.2.step event).1], (reached.2.step event).2))
    ([], place)

/-- The last event is a step from where the others lead. -/
theorem run_concat (place : Workplace) (events : List WriterEvent) (event : WriterEvent) :
    place.run (events ++ [event]) =
      ((place.run events).1 ++ [((place.run events).2.step event).1],
        ((place.run events).2.step event).2) := by
  rw [run, List.foldl_append]
  rfl

end Workplace

/-! ### Histories -/

namespace WriterEvent

/-- Whether the writer is to be finished. -/
def isFinish : WriterEvent → Bool
  | finish => true
  | _ => false

/-- The bytes that are to be written. -/
def bytes : WriterEvent → Bytes
  | write data => data
  | _ => []

end WriterEvent

/-- What is written before the writer is first finished. -/
def gathered (events : List WriterEvent) : Bytes :=
  (events.takeWhile (!·.isFinish)).flatMap (·.bytes)

/-- Whether the writer has been finished, with success or without. -/
def isSealed (events : List WriterEvent) : Bool := events.any (·.isFinish)

/-- Whether the writer has been finished with success. -/
def IsCommitted (answers : List WriterAnswer) : Prop := ∃ oid, .finished (.ok oid) ∈ answers

theorem isSealed_concat (events : List WriterEvent) (event : WriterEvent) :
    isSealed (events ++ [event]) = (isSealed events || event.isFinish) := by
  simp [isSealed]

/-- What is written is gathered until the writer is sealed. -/
theorem gathered_concat (events : List WriterEvent) (event : WriterEvent) :
    gathered (events ++ [event]) =
      gathered events ++ if isSealed events then [] else event.bytes := by
  induction events with
  | nil => cases event <;> simp [gathered, isSealed, WriterEvent.isFinish, WriterEvent.bytes]
  | cons first rest ih =>
    cases finishes : first.isFinish with
    | true => simp [gathered, isSealed, finishes]
    | false =>
      simp only [gathered, isSealed] at ih
      simp [gathered, isSealed, finishes, ih]

/-- A writer is committed once it has finished successfully. -/
theorem isCommitted_concat (answers : List WriterAnswer) (answer : WriterAnswer) :
    IsCommitted (answers ++ [answer]) ↔
      IsCommitted answers ∨ ∃ oid, answer = .finished (.ok oid) := by
  simp only [IsCommitted, List.mem_append, List.mem_singleton, exists_or, eq_comm]

/-! ### Progress -/

/-- How far a writer has come when some events have had some answers. -/
inductive Progress (events : List WriterEvent) (answers : List WriterAnswer) : Writer → Prop
  | writing {who : Principal} {buffer : Spill.Buffer} (unsealed : isSealed events = false)
      (pending : ¬ IsCommitted answers) (content : buffer.content = gathered events) :
      Progress events answers ⟨who, .writing buffer⟩
  | finished {who : Principal} {content : Spill.Content} (closed : isSealed events = true)
      (pending : ¬ IsCommitted answers) (bytes : content.bytes = gathered events) :
      Progress events answers ⟨who, .finished content (Service.hashOf content.bytes)⟩
  | committed {who : Principal} (closed : isSealed events = true)
      (done : IsCommitted answers) :
      Progress events answers ⟨who, .committed (gathered events).length⟩

namespace Progress

variable {events : List WriterEvent} {answers : List WriterAnswer} {writer : Writer}

theorem start (who : Principal) (threshold : UInt64) :
    Progress [] [] (.create who threshold) :=
  .writing rfl (by simp [IsCommitted]) rfl

/-- The size that is told is that of what was gathered. -/
theorem size_eq (h : Progress events answers writer) : writer.size = (gathered events).length := by
  cases h with
  | @writing _ buffer _ _ content => exact buffer.counted.trans (congrArg List.length content)
  | @finished _ content _ _ bytes => exact content.size_eq.trans (congrArg List.length bytes)
  | committed => rfl

/-- Until a writer is finished with success it has what was gathered. -/
theorem exists_seal (h : Progress events answers writer) (pending : ¬ IsCommitted answers) :
    ∃ content : Spill.Content, content.bytes = gathered events ∧
      writer.seal? = some (content, Service.hashOf content.bytes) := by
  cases h with
  | @writing _ buffer _ _ content =>
    refine ⟨buffer.finish, buffer.bytes_finish.trans content, ?_⟩
    rw [buffer.bytes_finish]
    rfl
  | finished _ _ bytes => exact ⟨_, bytes, rfl⟩
  | committed _ done => exact absurd done pending

/-- A writer that is committed has nothing left to seal. -/
theorem seal?_of_committed (h : Progress events answers writer) (done : IsCommitted answers) :
    writer.seal? = none := by
  cases h with
  | writing _ pending | finished _ pending => exact absurd done pending
  | committed => rfl

/-- A writer that is committed is sealed. -/
theorem sealed_of_committed (h : Progress events answers writer) (done : IsCommitted answers) :
    isSealed events = true := by
  cases h with
  | writing _ pending => exact absurd done pending
  | finished closed | committed closed => exact closed

/-- A writer that is not sealed is not committed. -/
theorem pending_of_unsealed (h : Progress events answers writer)
    (unsealed : isSealed events = false) : ¬ IsCommitted answers := by
  cases h with
  | writing _ pending | finished _ pending => exact pending
  | committed closed =>
    rw [unsealed] at closed
    cases closed

/-- A writer that is not sealed adds what is written to its buffer. -/
theorem write_of_unsealed (h : Progress events answers writer) (unsealed : isSealed events = false)
    (data : Bytes) :
    ∃ buffer : Spill.Buffer, buffer.content = gathered events ++ data ∧
      writer.write data = .ok ⟨writer.who, .writing buffer⟩ := by
  cases h with
  | writing _ _ content => exact ⟨_, by rw [Spill.Buffer.content_write, content], rfl⟩
  | finished closed | committed closed =>
    rw [unsealed] at closed
    cases closed

/-- A writer that is sealed refuses to write. -/
theorem write_of_sealed (h : Progress events answers writer) (closed : isSealed events = true)
    (data : Bytes) : writer.write data = .error .writerFinished := by
  cases h with
  | writing unsealed =>
    rw [unsealed] at closed
    cases closed
  | finished | committed => rfl

/-- A writer that an event leaves as it is, as far as it had come before. -/
theorem idle (h : Progress events answers writer) {event : WriterEvent} {answer : WriterAnswer}
    (closed : isSealed (events ++ [event]) = isSealed events)
    (same : gathered (events ++ [event]) = gathered events)
    (failed : ∀ oid, answer ≠ .finished (.ok oid)) :
    Progress (events ++ [event]) (answers ++ [answer]) writer := by
  have committed : IsCommitted (answers ++ [answer]) ↔ IsCommitted answers := by
    rw [isCommitted_concat]
    exact or_iff_left fun ⟨oid, eq⟩ => failed oid eq
  -- The writer is where it was, as neither its content nor its state has changed.
  cases h with
  | writing unsealed pending content =>
    exact .writing (closed.trans unsealed) (mt committed.1 pending) (content.trans same.symm)
  | finished sealed pending bytes =>
    exact .finished (closed.trans sealed) (mt committed.1 pending) (bytes.trans same.symm)
  | committed sealed done =>
    rw [← same]
    exact .committed (closed.trans sealed) (committed.2 done)

/-- Every event keeps what is known of the writer. -/
theorem step {place : Workplace} (h : Progress events answers place.writer) (event : WriterEvent) :
    Progress (events ++ [event]) (answers ++ [(place.step event).1])
      (place.step event).2.writer := by
  have closed := isSealed_concat events event
  have same := gathered_concat events event
  cases event with
  | size | refuse | setEmptyBatches =>
    simp only [WriterEvent.isFinish, Bool.or_false] at closed
    simp only [WriterEvent.bytes, ite_self, List.append_nil] at same
    exact h.idle closed same (by simp [Workplace.step])
  -- A writer that was closed refuses to write, and any other one takes the bytes.
  | write data =>
    simp only [WriterEvent.isFinish, Bool.or_false] at closed
    cases before : isSealed events with
    | true =>
      rw [before, if_pos rfl, List.append_nil] at same
      rw [Workplace.step, h.write_of_sealed before data]
      exact h.idle closed same (by simp)
    | false =>
      obtain ⟨buffer, content, written⟩ := h.write_of_unsealed before data
      rw [before, if_neg (by decide)] at same
      rw [Workplace.step, written]
      refine .writing (closed.trans before) ?_ (content.trans same.symm)
      rw [isCommitted_concat]
      rintro (done | ⟨oid, ⟨⟩⟩)
      exact h.pending_of_unsealed before done
  | finish =>
    simp only [WriterEvent.isFinish, Bool.or_true] at closed
    simp only [WriterEvent.bytes, ite_self, List.append_nil] at same
    -- After a failure the content is kept, and finishing may be tried again.
    by_cases done : IsCommitted answers
    · rw [Workplace.step, Writer.finish, h.seal?_of_committed done]
      exact h.idle (closed.trans (h.sealed_of_committed done).symm) same (by simp)
    · obtain ⟨content, bytes, kept⟩ := h.exists_seal done
      rcases Writer.finish_cases kept Service.provider place.service with
        ⟨after, finished⟩ | ⟨error, after, finished⟩
      · rw [Workplace.step, finished, Spill.Content.size_eq, bytes, ← same]
        exact .committed closed ((isCommitted_concat _ _).2 (.inr ⟨_, rfl⟩))
      · rw [Workplace.step, finished]
        refine .finished closed ?_ (bytes.trans same.symm)
        rw [isCommitted_concat]
        rintro (done' | ⟨oid, ⟨⟩⟩)
        exact done done'

/-- A writer makes progress with every event. -/
theorem run (who : Principal) (threshold : UInt64) (service : Service)
    (events : List WriterEvent) :
    Progress events (Workplace.run ⟨.create who threshold, service⟩ events).1
      (Workplace.run ⟨.create who threshold, service⟩ events).2.writer := by
  induction events using List.reverseRecOn with
  | nil => exact start who threshold
  | append_singleton before event ih =>
    rw [Workplace.run_concat]
    exact ih.step event

end Progress

/-! ### What a writer does -/

/-- What a writer and its service do next, when the writer has some content, is closed to more, and
    is done if the content was uploaded. -/
structure Behaves (place : Workplace) (content : Bytes) (closed : Bool) (done : Prop) : Prop where
  write_of_open : closed = false → ∀ data, (place.step (.write data)).1 = .written (.ok ())
  write_of_closed : closed = true →
    ∀ data, place.step (.write data) = (.written (.error .writerFinished), place)
  size : place.step .size = (.size content.length, place)
  /-- The content is uploaded.  One that is stored under its hash already stays.  A batch tells
      sizes in 64 bits, so there is no negotiating about a content that is longer than that. -/
  finish_of_takes : ¬ done → content.length < UInt64.size → place.service.Takes content → ∃ after,
    place.step .finish = (.finished (.ok (Pointer.scheme ++ Service.hashOf content)), after) ∧
      after.service.objects.get? (Service.hashOf content) =
        some ((place.service.objects.get? (Service.hashOf content)).getD content)
  finish_of_not_takes : ¬ done → ¬ place.service.Takes content → ∃ error after,
    place.step .finish = (.finished (.error error), after) ∧ after.service = place.service
  finish_of_done : done → place.step .finish = (.finished (.error .writerFinished), place)

/-- At any point of any run, a writer has what was written before it was first finished.  It takes
    more until then, always tells its size, and can be finished with success once: as soon as the
    service answers batches and does not refuse the content. -/
theorem writer_behaves (who : Principal) (threshold : UInt64) (service : Service)
    (before : List WriterEvent) :
    Behaves (Workplace.run ⟨.create who threshold, service⟩ before).2 (gathered before)
      (isSealed before)
      (IsCommitted (Workplace.run ⟨.create who threshold, service⟩ before).1) := by
  -- All that the writer does follows from the progress that it has made so far.
  have progress := Progress.run who threshold service before
  constructor
  case write_of_open =>
    intro unsealed data
    obtain ⟨buffer, -, written⟩ := progress.write_of_unsealed unsealed data
    rw [Workplace.step, written]
  case write_of_closed =>
    intro closed data
    rw [Workplace.step, progress.write_of_sealed closed data]
  case size => rw [Workplace.step, progress.size_eq]
  case finish_of_takes =>
    intro pending fits takes
    obtain ⟨content, bytes, kept⟩ := progress.exists_seal pending
    rw [← bytes] at takes fits ⊢
    rw [Workplace.step, Writer.finish_of_takes kept takes fits]
    exact ⟨_, rfl, Service.get?_keeping _ _⟩
  case finish_of_not_takes =>
    intro pending declines
    obtain ⟨content, bytes, kept⟩ := progress.exists_seal pending
    rw [← bytes] at declines
    obtain ⟨error, failed⟩ := Writer.finish_of_not_takes kept declines
    rw [Workplace.step, failed]
    exact ⟨error, _, rfl, rfl⟩
  case finish_of_done =>
    intro done
    rw [Workplace.step, Writer.finish, progress.seal?_of_committed done]

/-- Two bytes whose upload has failed because the service left the batch unanswered: a third byte is
    not taken any more, and the two are uploaded when the service answers again. -/
theorem writer_behaves_retry :
    let before : List WriterEvent :=
      [.write [1, 2], .setEmptyBatches true, .finish, .write [3], .setEmptyBatches false]
    let place := (Workplace.run ⟨.create .anonymous 1, {}⟩ before).2
    place.step (.write [4]) = (.written (.error .writerFinished), place) ∧
    place.step .size = (.size 2, place) ∧
    ∃ after,
      place.step .finish =
        (.finished (.ok (Pointer.scheme ++ Service.hashOf [1, 2])), after) ∧
      after.service.objects.get? (Service.hashOf [1, 2]) = some [1, 2] := by
  intro before place
  have behaves := writer_behaves .anonymous 1 {} before
  have answers : (Workplace.run ⟨.create .anonymous 1, {}⟩ before).1 =
      [.written (.ok ()), .nothing,
        .finished (.error (.emptyBatch .upload (Service.hashOf [1, 2]))),
        .written (.error .writerFinished), .nothing] := rfl
  -- The first attempt failed because batches were empty.
  have pending : ¬ IsCommitted (Workplace.run ⟨.create .anonymous 1, {}⟩ before).1 := by
    rw [answers]
    simp [IsCommitted]
  exact ⟨behaves.write_of_closed rfl [4], behaves.size,
    behaves.finish_of_takes pending (by decide) ⟨rfl, rfl⟩⟩

end LargeFiles.Remote
