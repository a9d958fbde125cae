import LargeFiles.Proofs.Metadata.Record
import LargeFiles.Proofs.Metadata.Table

/-!
# Journals and their files

An open journal is settled: opening its file again gives the same journal.  What stands after the
records of a settled journal is read on its own.

* `settled_openFile`          an opened journal is settled;
* `openFile_append`           opening a file that goes on after the records of a settled journal;
* `get?_openFile_append`      what a file gives it gives whatever is appended to it;
* `Settled.putIfAbsent`       a put of an entry that fits keeps a journal settled;
* `openFile_frames_append`    written records are read back, and a torn tail after them is cut off.
-/

namespace LargeFiles.Metadata

/-- The record of an entry. -/
def Entry.frame (e : Entry) : Bytes := Record.frame e.payload

/-- Whether the payload of an entry can be given its length in the four bytes of a header. -/
def Entry.Fits (e : Entry) : Prop := e.payload.length < UInt32.size

/-- The records of some entries, one after another. -/
def frames (entries : List Entry) : Bytes := entries.flatMap Entry.frame

@[simp] theorem frames_nil : frames [] = [] := rfl

@[simp] theorem frames_cons (e : Entry) (entries : List Entry) :
    frames (e :: entries) = e.frame ++ frames entries := rfl

@[simp] theorem frames_append (a b : List Entry) : frames (a ++ b) = frames a ++ frames b :=
  List.flatMap_append

/-- The record of an entry that fits is read as that entry. -/
theorem Entry.Fits.checks_ofPayload {e : Entry} (fits : e.Fits) :
    Record.entry? (Record.ofPayload e.payload) = some e := by
  rw [Record.checks_ofPayload]
  exact ofPayload?_payload (Nat.lt_trans fits (by decide))

namespace Journal

/-- The entries that a file gives. -/
def entriesOf (file : Bytes) : List Entry := (Record.all file).filterMap Record.entry?

/-- The tables after some entries were put into them. -/
def putAll (m : Metadata) (entries : List Entry) : Metadata :=
  entries.foldl (fun m e => (m.putIfAbsent e.key e.value).2) m

@[simp] theorem putAll_nil (m : Metadata) : putAll m [] = m := rfl

@[simp] theorem putAll_cons (m : Metadata) (e : Entry) (entries : List Entry) :
    putAll m (e :: entries) = putAll (m.putIfAbsent e.key e.value).2 entries := rfl

theorem putAll_append (m : Metadata) (a b : List Entry) :
    putAll m (a ++ b) = putAll (putAll m a) b :=
  List.foldl_append

/-- Opening keeps the whole records and puts the entries that are read from them. -/
theorem openFile_eq (file : Bytes) :
    openFile file = ⟨file.take (keptSize file), putAll .empty (entriesOf file)⟩ := rfl

/-! ### Settled journals -/

/-- Opening the file of the journal again gives the same journal. -/
def Settled (j : Journal) : Prop := j.reopen = j

/-- A scan of a file that goes on after what was kept of it. -/
theorem all_kept_append (file more : Bytes) :
    Record.all (file.take (keptSize file) ++ more) = Record.all file ++ Record.all more := by
  obtain ⟨front, tail, split, length, -, scan⟩ := Record.exists_scan file
  rw [split, List.take_left' (by rw [← split, length]), ← split, scan]

/-- What is kept has the same records. -/
theorem all_kept (file : Bytes) :
    Record.all (file.take (keptSize file)) = Record.all file := by
  simpa using all_kept_append file []

/-- No more is kept than there was. -/
theorem keptSize_le (file : Bytes) : keptSize file ≤ file.length := by
  obtain ⟨front, tail, split, length, -, -⟩ := Record.exists_scan file
  have lengths := congrArg List.length split
  rw [List.length_append] at lengths
  omega

/-- An opened journal is settled. -/
theorem settled_openFile (file : Bytes) : (openFile file).Settled := by
  have kept : keptSize (file.take (keptSize file)) = keptSize file := by
    rw [keptSize, all_kept, ← keptSize]
  have entries : entriesOf (file.take (keptSize file)) = entriesOf file := by
    rw [entriesOf, all_kept, ← entriesOf]
  simp only [Settled, reopen, openFile_eq, kept, entries, List.take_take, Nat.min_self]

/-- A sum of sizes may begin with any number. -/
private theorem foldr_size_init (records : List Record) (init : Nat) :
    records.foldr (fun r n => r.size + n) init =
      records.foldr (fun r n => r.size + n) 0 + init := by
  induction records with
  | nil => simp
  | cons r rest ih =>
    rw [List.foldr_cons, List.foldr_cons, ih]
    omega

theorem Settled.file_eq {j : Journal} (h : j.Settled) : j.file.take (keptSize j.file) = j.file :=
  congrArg Journal.file h

/-- Opening a file that goes on after the records of a settled journal. -/
theorem openFile_append {j : Journal} (h : j.Settled) (more : Bytes) :
    openFile (j.file ++ more) =
      ⟨j.file ++ more.take (keptSize more), putAll j.tables (entriesOf more)⟩ := by
  have scan : Record.all (j.file ++ more) = Record.all j.file ++ Record.all more := by
    have := all_kept_append j.file more
    rwa [h.file_eq] at this
  -- Since the front is settled, nothing of it is cut off or read otherwise.
  have length : keptSize j.file = j.file.length := by
    have := keptSize_le j.file
    have lengths := congrArg List.length h.file_eq
    rw [List.length_take] at lengths
    omega
  have kept : keptSize (j.file ++ more) = j.file.length + keptSize more := by
    rw [keptSize, scan, List.foldr_append, foldr_size_init, ← keptSize, ← keptSize, length]
  have tables : putAll .empty (entriesOf j.file) = j.tables := congrArg Journal.tables h
  rw [openFile_eq, kept, List.take_length_add_append, entriesOf, scan, List.filterMap_append,
    putAll_append, ← entriesOf, ← entriesOf, tables]

/-- A value that is there stays, whatever is put. -/
theorem get?_putAll_of_some {m : Metadata} {key : Key} {value : Value}
    (found : m.get? key = some value) (entries : List Entry) :
    (putAll m entries).get? key = some value := by
  induction entries generalizing m with
  | nil => exact found
  | cons e rest ih => exact ih (get?_putIfAbsent_of_some found e.key e.value)

/-- What a file gives it gives whatever is appended to it, be it records or not. -/
theorem get?_openFile_append {file : Bytes} {key : Key} {value : Value}
    (found : (openFile file).tables.get? key = some value) (more : Bytes) :
    (openFile (file ++ more)).tables.get? key = some value := by
  -- A torn tail may make records with what is appended, but these come after those of the file.
  have parts : file ++ more =
      (openFile file).file ++ (file.drop (keptSize file) ++ more) := by
    rw [openFile_eq, ← List.append_assoc, List.take_append_drop]
  rw [parts, openFile_append (settled_openFile file)]
  exact get?_putAll_of_some found _

/-! ### Written records -/

theorem all_frame_append {e : Entry} (fits : e.Fits) (tail : Bytes) :
    Record.all (e.frame ++ tail) = Record.ofPayload e.payload :: Record.all tail :=
  Record.all_of_split? (Record.split?_frame_append fits tail)

/-- Frames in front are read as the entries that they were made for. -/
theorem entriesOf_frames_append {entries : List Entry} (fit : ∀ e ∈ entries, e.Fits)
    (tail : Bytes) : entriesOf (frames entries ++ tail) = entries ++ entriesOf tail := by
  induction entries with
  | nil => rfl
  | cons e rest ih =>
    have fits := fit e List.mem_cons_self
    rw [frames_cons, List.append_assoc, entriesOf, all_frame_append fits, List.filterMap_cons,
      fits.checks_ofPayload, ← entriesOf, ih fun e mem => fit e (List.mem_cons_of_mem _ mem)]
    rfl

/-- Frames in front are kept whole. -/
theorem keptSize_frames_append {entries : List Entry} (fit : ∀ e ∈ entries, e.Fits)
    (tail : Bytes) :
    keptSize (frames entries ++ tail) = (frames entries).length + keptSize tail := by
  induction entries with
  | nil => simp
  | cons e rest ih =>
    -- Each record takes up as many bytes as its frame.
    have size : (Record.ofPayload e.payload).size = e.frame.length := by
      simp [Record.size, Record.ofPayload, Entry.frame]
    rw [frames_cons, List.append_assoc, keptSize, all_frame_append (fit e List.mem_cons_self),
      List.foldr_cons, ← keptSize, ih fun e mem => fit e (List.mem_cons_of_mem _ mem), size,
      List.length_append]
    omega

/-- Written records are read back, and a tail without a whole record is cut off. -/
theorem openFile_frames_append {entries : List Entry} (fit : ∀ e ∈ entries, e.Fits)
    {tail : Bytes} (torn : Record.split? tail = none) :
    openFile (frames entries ++ tail) = ⟨frames entries, putAll .empty entries⟩ := by
  have nothing : Record.all tail = [] := Record.all_eq_nil torn
  have kept : keptSize tail = 0 := by rw [keptSize, nothing]; rfl
  have entries_tail : entriesOf tail = [] := by rw [entriesOf, nothing]; rfl
  rw [openFile_eq, keptSize_frames_append fit, entriesOf_frames_append fit, kept, entries_tail,
    Nat.add_zero, List.take_left, List.append_nil]

/-- A put under a key that has a value changes nothing. -/
theorem putIfAbsent_of_some {j : Journal} {key : Key} {previous : Value}
    (h : j.tables.get? key = some previous) (value : Value) :
    j.putIfAbsent key value = (some previous, j) := by
  unfold putIfAbsent
  split <;> simp_all

/-- A put under a key that has none appends a record. -/
theorem putIfAbsent_of_none {j : Journal} {key : Key} (h : j.tables.get? key = none)
    (value : Value) :
    j.putIfAbsent key value =
      (none, ⟨j.file ++ Entry.frame ⟨key, value⟩, j.tables.add key value h⟩) := by
  unfold putIfAbsent
  split
  · simp_all
  · rfl

/-- A put into a journal is the put into its tables. -/
theorem tables_putIfAbsent (j : Journal) (key : Key) (value : Value) :
    j.tables.putIfAbsent key value =
      ((j.putIfAbsent key value).1, (j.putIfAbsent key value).2.tables) := by
  cases present : j.tables.get? key with
  | some previous => rw [putIfAbsent_of_some present, Metadata.putIfAbsent_of_some present]
  | none => rw [putIfAbsent_of_none present, Metadata.putIfAbsent_of_none present]

/-- A put of an entry that fits keeps a journal settled. -/
theorem Settled.putIfAbsent {j : Journal} (h : j.Settled) {key : Key} {value : Value}
    (fits : j.tables.get? key = none → Entry.Fits ⟨key, value⟩) :
    (j.putIfAbsent key value).2.Settled := by
  cases present : j.tables.get? key with
  | some previous => rwa [putIfAbsent_of_some present]
  -- The new frame is a whole record, and opening the file again finds it at the end.
  | none =>
    have fit : ∀ e ∈ [(⟨key, value⟩ : Entry)], e.Fits := by simpa using fits present
    have kept := keptSize_frames_append fit []
    have entries := entriesOf_frames_append fit []
    simp only [frames_cons, frames_nil, List.append_nil] at kept entries
    have nothing : keptSize [] = 0 ∧ entriesOf [] = [] := by
      simp [keptSize, entriesOf, Record.all_nil]
    rw [putIfAbsent_of_none present, Settled, reopen, openFile_append h, kept, entries,
      nothing.1, nothing.2, Nat.add_zero, List.take_length]
    simp [Metadata.putIfAbsent_of_none present]

end Journal

end LargeFiles.Metadata
