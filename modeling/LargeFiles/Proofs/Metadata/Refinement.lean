import LargeFiles.Metadata.Store
import LargeFiles.Proofs.Metadata.Journal

/-!
# A journal behaves like tables in memory

A run of operations on a metadata store gives an answer for each.  The answers of a journal that
was opened from any file are those of a store in memory that starts with the same tables and for
which closing and opening again means nothing.

* `step_journal`             one operation on a settled journal;
* `run_journal`              a run of them;
* `journal_refines_memory`   a journal opened from any file answers as the store in memory does,
                             and its file grows by the records of the entries that were new.
-/

namespace LargeFiles.Metadata

/-- What is asked of a store. -/
inductive Operation
  | get (key : Key)
  | getText (key : Key)
  | getNumber (key : Key)
  | putIfAbsent (key : Key) (value : Value)
  /-- Closes the store and opens it again. -/
  | reopen
  deriving DecidableEq

/-- What a store answers. -/
inductive Answer
  | value (value : Option Value)
  | text (result : Except StoreError (Option String))
  | number (result : Except StoreError (Option UInt64))
  /-- What the key had before a put. -/
  | previous (value : Option Value)
  | reopened
  deriving DecidableEq

/-- The entry that an operation has stored, to go by the answer: that of a put whose key had no
    value before. -/
def stored? : Operation → Answer → Option Entry
  | .putIfAbsent key value, .previous none => some ⟨key, value⟩
  | _, _ => none

/-- The entries that a run has stored, in order. -/
def newEntries (operations : List Operation) (answers : List Answer) : List Entry :=
  (operations.zip answers).filterMap fun p => stored? p.1 p.2

@[simp] theorem newEntries_nil (answers : List Answer) : newEntries [] answers = [] := rfl

/-- The first operation may store an entry, and the others come after it. -/
@[simp] theorem newEntries_cons (op : Operation) (ops : List Operation) (answer : Answer)
    (answers : List Answer) :
    newEntries (op :: ops) (answer :: answers) =
      (stored? op answer).toList ++ newEntries ops answers := by
  simp only [newEntries, List.zip_cons_cons, List.filterMap_cons]
  cases stored? op answer <;> rfl

namespace Store

/-- Closes the store and opens it again.  Tables in memory are taken to be kept. -/
def reopen : Store → Store
  | memory tables => memory tables
  | journal j => journal j.reopen

/-- Carries out one operation. -/
def step (store : Store) : Operation → Answer × Store
  | .get key => (.value (store.tables.get? key), store)
  | .getText key => (.text (store.tables.getText key), store)
  | .getNumber key => (.number (store.tables.getNumber key), store)
  | .putIfAbsent key value =>
    (.previous (store.putIfAbsent key value).1, (store.putIfAbsent key value).2)
  | .reopen => (.reopened, store.reopen)

/-- Carries out some operations, one after another. -/
def run (store : Store) : List Operation → List Answer × Store
  | [] => ([], store)
  | op :: ops =>
    ((store.step op).1 :: ((store.step op).2.run ops).1, ((store.step op).2.run ops).2)

@[simp] theorem run_nil (store : Store) : store.run [] = ([], store) := rfl

/-- The first operation is run on the store, and the others on what it leaves. -/
theorem run_cons (store : Store) (op : Operation) (ops : List Operation) :
    store.run (op :: ops) =
      ((store.step op).1 :: ((store.step op).2.run ops).1, ((store.step op).2.run ops).2) :=
  rfl

/-! ### Puts and what survives -/

/-- A put into a store is the put into its tables. -/
theorem tables_putIfAbsent (store : Store) (key : Key) (value : Value) :
    (store.putIfAbsent key value).2.tables = (store.tables.putIfAbsent key value).2 := by
  cases store with
  | memory tables => rfl
  | journal j => exact (congrArg Prod.snd (j.tables_putIfAbsent key value)).symm

/-- Closing the store and opening it again loses nothing. -/
def Durable (store : Store) : Prop := store.reopen = store

/-- A store in memory has nothing to lose by being reopened. -/
theorem durable_memory (tables : Metadata) : (memory tables).Durable := rfl

theorem durable_journal {j : Journal} : (journal j).Durable ↔ j.Settled := by
  rw [Durable, reopen, journal.injEq, Journal.Settled]

/-- A durable store is durable after an entry that fits. -/
theorem Durable.putIfAbsent {store : Store} (h : store.Durable) {key : Key} {value : Value}
    (fits : Entry.Fits ⟨key, value⟩) : (store.putIfAbsent key value).2.Durable := by
  cases store with
  | memory tables => rfl
  | journal j => exact durable_journal.2 ((durable_journal.1 h).putIfAbsent fun _ => fits)

/-! ### Steps of a journal -/

/-- A journal and the store in memory with its tables answer alike. -/
theorem fst_step_journal (j : Journal) (op : Operation) :
    ((journal j).step op).1 = ((memory j.tables).step op).1 := by
  cases op with
  | putIfAbsent key value =>
    have answers := congrArg Prod.fst (j.tables_putIfAbsent key value)
    exact congrArg Answer.previous answers.symm
  | _ => rfl

/-- One operation on a settled journal.  The tables go on as those in memory do, the file gets the
    record of an entry that is new, and the journal is settled again. -/
theorem step_journal {j : Journal} (settled : j.Settled) (op : Operation)
    (fit : ∀ e ∈ stored? op ((journal j).step op).1, e.Fits) :
    ∃ j' : Journal, ((journal j).step op).2 = journal j' ∧
      ((memory j.tables).step op).2 = memory j'.tables ∧
      j'.file = j.file ++ frames (stored? op ((journal j).step op).1).toList ∧ j'.Settled := by
  cases op with
  | get key | getText key | getNumber key => exact ⟨j, rfl, rfl, by simp [stored?], settled⟩
  | reopen => exact ⟨j, congrArg journal settled, rfl, by simp [stored?], settled⟩
  -- A frame is appended only if the key had no value, and then the tables get one as well.
  | putIfAbsent key value =>
    refine ⟨(j.putIfAbsent key value).2, rfl, ?_, ?_, settled.putIfAbsent fun absent => ?_⟩
    · simp only [step, putIfAbsent, j.tables_putIfAbsent]
    · cases present : j.tables.get? key with
      | some previous =>
        simp [step, putIfAbsent, Journal.putIfAbsent_of_some present, stored?]
      | none =>
        simp [step, putIfAbsent, Journal.putIfAbsent_of_none present, stored?]
    · apply fit
      simp [step, putIfAbsent, Journal.putIfAbsent_of_none absent, stored?]

/-! ### Runs of a journal -/

/-- A run of operations on a settled journal. -/
theorem run_journal {j : Journal} (settled : j.Settled) (ops : List Operation)
    (fit : ∀ e ∈ newEntries ops ((journal j).run ops).1, e.Fits) :
    ∃ j' : Journal, (journal j).run ops = (((memory j.tables).run ops).1, journal j') ∧
      ((memory j.tables).run ops).2 = memory j'.tables ∧
      j'.file = j.file ++ frames (newEntries ops ((journal j).run ops).1) ∧ j'.Settled := by
  -- Induction on the operations; the invariant is that the journal is settled.
  induction ops generalizing j with
  | nil => exact ⟨j, rfl, rfl, by simp, settled⟩
  | cons op ops ih =>
    rw [run_cons, newEntries_cons] at fit
    obtain ⟨j₁, next, tables₁, file₁, settled₁⟩ := step_journal settled op fun e mem =>
      fit e (List.mem_append_left _ (by simpa using mem))
    rw [next] at fit
    obtain ⟨j₂, ran, tables₂, file₂, settled₂⟩ := ih settled₁ fun e mem =>
      fit e (List.mem_append_right _ mem)
    refine ⟨j₂, ?_, ?_, ?_, settled₂⟩
    · rw [run_cons, run_cons, next, ran, tables₁, fst_step_journal]
    · rw [run_cons, tables₁, tables₂]
    · rw [run_cons, newEntries_cons, frames_append, next, file₂, file₁, List.append_assoc]

/-- A journal opened from any file answers every run of operations as the store in memory does
    that starts with the same tables and ignores being reopened.  Its size is the number of keys
    that have a value, its file grows by one record for each put that found no value, and opening
    the file again changes neither the file nor the tables. -/
theorem journal_refines_memory (file : Bytes) (ops : List Operation)
    (fit : ∀ e ∈ newEntries ops ((journal (.openFile file)).run ops).1, e.Fits) :
    ∃ j : Journal,
      (journal (.openFile file)).run ops =
        (((memory (Journal.openFile file).tables).run ops).1, journal j) ∧
      ((memory (Journal.openFile file).tables).run ops).2 = memory j.tables ∧
      {key | j.tables.get? key ≠ none}.encard = j.size ∧
      j.file = (Journal.openFile file).file ++
        frames (newEntries ops ((journal (.openFile file)).run ops).1) ∧
      j.reopen = j := by
  obtain ⟨j, ran, tables, grown, settled⟩ := run_journal (Journal.settled_openFile file) ops fit
  exact ⟨j, ran, tables, encard_keys j.tables, grown, settled⟩

/-- A file of three bytes, and a put of a number that is found under its key after the journal was
    opened again: a second put is told, and a text is not found. -/
theorem journal_refines_memory_torn :
    ∃ j : Journal,
      (journal (.openFile [1, 2, 3])).run [.putIfAbsent ⟨"t", "k"⟩ (.number 7), .reopen,
          .putIfAbsent ⟨"t", "k"⟩ (.text "x"), .getText ⟨"t", "k"⟩] =
        ([.previous none, .reopened, .previous (some (.number 7)),
          .text (.error (.typeMismatch "t" "k" "string"))], journal j) ∧
      j.file = Entry.frame ⟨⟨"t", "k"⟩, .number 7⟩ ∧ j.reopen = j := by
  have answers : ((journal (.openFile [1, 2, 3])).run [.putIfAbsent ⟨"t", "k"⟩ (.number 7), .reopen,
      .putIfAbsent ⟨"t", "k"⟩ (.text "x"), .getText ⟨"t", "k"⟩]).1 =
        [.previous none, .reopened, .previous (some (.number 7)),
          .text (.error (.typeMismatch "t" "k" "string"))] := by decide +kernel
  -- Three bytes are less than a header, so they are cut off.
  have opened : (Journal.openFile [1, 2, 3]).file = [] := by decide +kernel
  have fit : Entry.Fits ⟨⟨"t", "k"⟩, .number 7⟩ := by
    unfold Entry.Fits
    decide
  obtain ⟨j, ran, -, -, grown, settled⟩ := journal_refines_memory [1, 2, 3] _
    (by rw [answers]; simpa [newEntries, stored?] using fit)
  refine ⟨j, ?_, ?_, settled⟩
  · rw [ran] at answers ⊢
    exact congrArg (·, journal j) answers
  · rw [grown, opened, answers]
    simp [newEntries, stored?]

end Store

end LargeFiles.Metadata
