import LargeFiles.Proofs.Metadata.Refinement

/-!
# Recovery after a cut

A journal whose file is cut off at any byte is opened with exactly the entries whose records lie
before the cut, and can be written again as if the others had never been.

* `exists_whole_before_cut`   what a cut leaves of written records: some whole ones, and a tail
                              that holds none;
* `get?_run_of_new`           an entry that a run has stored is found after the run;
* `recovery_after_cut`        opening the cut file, and the runs that may follow.
-/

namespace LargeFiles.Metadata

/-- An entry as the tables hold it. -/
def Entry.pair (e : Entry) : Key × Value := (e.key, e.value)

/-! ### Cut files -/

/-- What a cut leaves of written records: the whole ones before it, and a tail that holds none. -/
theorem exists_whole_before_cut {entries : List Entry} (fit : ∀ e ∈ entries, e.Fits)
    (cut : Nat) :
    ∃ kept tail, (frames entries).take cut = frames (entries.take kept) ++ tail ∧
      Record.split? tail = none ∧
      ∀ n ≤ entries.length, (frames (entries.take n)).length ≤ cut ↔ n ≤ kept := by
  induction entries generalizing cut with
  | nil => exact ⟨0, [], by simp, by decide, by simp⟩
  | cons e rest ih =>
    have fits := fit e List.mem_cons_self
    by_cases whole : e.frame.length ≤ cut
    -- The first record is whole, so the cut is in the others.
    · obtain ⟨kept, tail, split, torn, ends⟩ :=
        ih (fun e mem => fit e (List.mem_cons_of_mem _ mem)) (cut - e.frame.length)
      refine ⟨kept + 1, tail, ?_, torn, fun n le => ?_⟩
      · rw [frames_cons, List.take_append, List.take_of_length_le whole, split, List.take_succ_cons,
          frames_cons, List.append_assoc]
      · cases n with
        | zero => simp
        | succ n =>
          have := ends n (by simpa using le)
          rw [List.take_succ_cons, frames_cons, List.length_append]
          omega
    · -- The cut is inside the first record.
      have torn : cut < (Record.frame e.payload).length := Nat.lt_of_not_le whole
      refine ⟨0, e.frame.take cut, ?_, Record.split?_take_frame fits torn, fun n _ => ?_⟩
      · rw [frames_cons, List.take_append_of_le_length (by omega)]
        simp
      · cases n with
        | zero => simp
        | succ n =>
          rw [List.take_succ_cons, frames_cons, List.length_append]
          omega

/-- Entries with keys of their own are all stored. -/
theorem entries_putAll {m : Metadata} {entries : List Entry}
    (distinct : (m.entries.map (·.1) ++ entries.map (·.key)).Nodup) :
    (Journal.putAll m entries).entries = m.entries ++ entries.map Entry.pair := by
  induction entries generalizing m with
  | nil => simp
  | cons e rest ih =>
    -- The key of the first entry is neither in the table nor among the later ones.
    have absent : m.get? e.key = none := by
      by_contra present
      rw [← ne_eq, get?_ne_none_iff] at present
      exact (List.nodup_append.1 distinct).2.2 _ present _ (by simp) rfl
    rw [Journal.putAll_cons, putIfAbsent_of_none absent, ih]
    · simp [Entry.pair]
    · simpa using distinct

/-- Of entries with keys of their own, each is found under its key, and nothing else is found. -/
theorem get?_putAll_iff {entries : List Entry} (distinct : (entries.map (·.key)).Nodup) {key : Key}
    {value : Value} :
    (Journal.putAll .empty entries).get? key = some value ↔ ⟨key, value⟩ ∈ entries := by
  rw [get?_eq_some_iff, entries_putAll (by simpa [Metadata.empty] using distinct)]
  simp only [Metadata.empty, List.nil_append, List.mem_map, Entry.pair, Prod.mk.injEq]
  constructor
  · rintro ⟨e, mem, rfl, rfl⟩
    exact mem
  · exact fun mem => ⟨_, mem, rfl, rfl⟩

/-- Nothing is found under a key that no entry has. -/
theorem get?_putAll_eq_none {entries : List Entry} (distinct : (entries.map (·.key)).Nodup)
    {key : Key} (absent : key ∉ entries.map (·.key)) :
    (Journal.putAll .empty entries).get? key = none := by
  rw [Option.eq_none_iff_forall_ne_some]
  intro value present
  exact absent (List.mem_map.2 ⟨_, (get?_putAll_iff distinct).1 present, rfl⟩)

/-- What a journal recovers from a file of the records of some entries that was cut off. -/
structure Recovers (entries : List Entry) (cut kept : Nat) (recovered : Journal) : Prop where
  /-- Those are kept whose records end before the cut. -/
  ends : ∀ n ≤ entries.length, (frames (entries.take n)).length ≤ cut ↔ n ≤ kept
  file : recovered.file = frames (entries.take kept)
  found : ∀ key value,
    recovered.tables.get? key = some value ↔ ⟨key, value⟩ ∈ entries.take kept
  lost : ∀ e ∈ entries.drop kept, recovered.tables.get? e.key = none

/-- A file of records is recovered from a cut at any byte. -/
theorem exists_recovers {entries : List Entry} (fit : ∀ e ∈ entries, e.Fits)
    (distinct : (entries.map (·.key)).Nodup) (cut : Nat) :
    ∃ kept, Recovers entries cut kept (.openFile ((frames entries).take cut)) := by
  obtain ⟨kept, tail, split, torn, ends⟩ := exists_whole_before_cut fit cut
  have opened : Journal.openFile ((frames entries).take cut) =
      ⟨frames (entries.take kept), Journal.putAll .empty (entries.take kept)⟩ := by
    -- Up to the cut the file has whole frames, and then a part of one at most.
    rw [split]
    exact Journal.openFile_frames_append (fun e mem => fit e (List.mem_of_mem_take mem)) torn
  rw [← List.take_append_drop kept entries, List.map_append, List.nodup_append] at distinct
  obtain ⟨distinct_kept, -, apart⟩ := distinct
  refine ⟨kept, ends, congrArg Journal.file opened, ?_, fun e mem => ?_⟩
  · rw [opened]
    exact fun key value => get?_putAll_iff distinct_kept
  · rw [opened]
    apply get?_putAll_eq_none distinct_kept
    exact fun present => apart _ present _ (List.mem_map.2 ⟨e, mem, rfl⟩) rfl

/-! ### What runs store -/

namespace Store

/-- The tables in memory after a run are those before it and what the run has stored. -/
theorem entries_run_memory (m : Metadata) (ops : List Operation) :
    ((memory m).run ops).2.tables.entries =
      m.entries ++ (newEntries ops ((memory m).run ops).1).map Entry.pair := by
  induction ops generalizing m with
  | nil => simp [tables]
  | cons op ops ih =>
    rw [run_cons, newEntries_cons, List.map_append, ← List.append_assoc]
    -- Only a value that is put where there was none adds an entry, at the end.
    cases op with
    | putIfAbsent key value =>
      cases present : m.get? key with
      | some previous =>
        simp only [step, putIfAbsent, Metadata.putIfAbsent_of_some present]
        simpa [stored?] using ih m
      | none =>
        simp only [step, putIfAbsent, Metadata.putIfAbsent_of_none present]
        simpa [stored?, Entry.pair] using ih (m.add key value present)
    | _ => simpa [step, reopen, stored?] using ih m

/-- The tables of a settled journal after a run are those before it and what the run has stored. -/
theorem entries_run_journal {j : Journal} (settled : j.Settled) (ops : List Operation)
    (fit : ∀ e ∈ newEntries ops ((journal j).run ops).1, e.Fits) :
    ((journal j).run ops).2.tables.entries =
      j.tables.entries ++ (newEntries ops ((journal j).run ops).1).map Entry.pair := by
  obtain ⟨j', ran, same, -, -⟩ := run_journal settled ops fit
  have := entries_run_memory j.tables ops
  rw [same] at this
  rw [ran]
  exact this

/-- An entry that a run has stored is found after the run. -/
theorem get?_run_of_new {j : Journal} (settled : j.Settled) (ops : List Operation)
    (fit : ∀ e ∈ newEntries ops ((journal j).run ops).1, e.Fits) {e : Entry}
    (stored : e ∈ newEntries ops ((journal j).run ops).1) :
    ((journal j).run ops).2.tables.get? e.key = some e.value := by
  rw [get?_eq_some_iff, entries_run_journal settled ops fit]
  exact List.mem_append_right _ (List.mem_map.2 ⟨e, stored, rfl⟩)

/-- The entries that a run stores in a journal that is started with an empty file. -/
def written (ops : List Operation) : List Entry :=
  newEntries ops ((journal (.openFile [])).run ops).1

/-- The file that a run leaves of a journal that was started with an empty one holds the records
    of what was stored, which have keys of their own. -/
theorem exists_journal_of_written (ops : List Operation) (fit : ∀ e ∈ written ops, e.Fits) :
    ∃ j : Journal, ((journal (.openFile [])).run ops).2 = journal j ∧
      j.file = frames (written ops) ∧ ((written ops).map (·.key)).Nodup := by
  have empty : Journal.openFile [] = ⟨[], .empty⟩ := by
    simp [Journal.openFile_eq, Journal.keptSize, Journal.entriesOf]
  have settled := Journal.settled_openFile []
  obtain ⟨j, ran, -, grown, -⟩ := run_journal settled ops fit
  have ends : ((journal (.openFile [])).run ops).2 = journal j := congrArg Prod.snd ran
  have file : j.file = frames (written ops) := by
    rw [grown, congrArg Journal.file empty, List.nil_append]
    rfl
  -- A table has no key twice, and it has the entries that were written.
  have entries : j.tables.entries = (written ops).map Entry.pair := by
    have := entries_run_journal settled ops fit
    rw [ends, congrArg Journal.tables empty] at this
    exact this
  refine ⟨j, ends, file, ?_⟩
  have := j.tables.distinct
  rw [entries, List.map_map] at this
  exact this

/-- The file that a run leaves of a journal that was started with an empty one, cut off at any
    byte, is opened with exactly the entries whose records end before the cut.  What later runs
    store is found at their ends. -/
theorem recovery_after_cut (ops : List Operation) (fit : ∀ e ∈ written ops, e.Fits) (cut : Nat) :
    ∃ (j : Journal) (kept : Nat),
      ((journal (.openFile [])).run ops).2 = journal j ∧ j.file = frames (written ops) ∧
      Recovers (written ops) cut kept (.openFile (j.file.take cut)) ∧
      ∀ later,
        (∀ e ∈ newEntries later ((journal (.openFile (j.file.take cut))).run later).1, e.Fits) →
        ∀ e ∈ newEntries later ((journal (.openFile (j.file.take cut))).run later).1,
          ((journal (.openFile (j.file.take cut))).run later).2.tables.get? e.key =
            some e.value := by
  obtain ⟨j, ends, file, distinct⟩ := exists_journal_of_written ops fit
  obtain ⟨kept, recovers⟩ := exists_recovers fit distinct cut
  refine ⟨j, kept, ends, file, by rwa [file], fun later later_fit e stored => ?_⟩
  exact get?_run_of_new (Journal.settled_openFile _) later later_fit stored

/-- A cut two bytes into the second of two records: the first entry is found, the second is lost,
    and a new value for its key is found after the journal was opened again. -/
theorem recovery_after_cut_second_record :
    ∃ j : Journal,
      ((journal (.openFile [])).run
        [.putIfAbsent ⟨"t", "a"⟩ (.number 1), .putIfAbsent ⟨"t", "b"⟩ (.number 2)]).2 = journal j ∧
      (Journal.openFile (j.file.take 40)).tables.get? ⟨"t", "a"⟩ = some (.number 1) ∧
      (Journal.openFile (j.file.take 40)).tables.get? ⟨"t", "b"⟩ = none ∧
      ((journal (.openFile (j.file.take 40))).run
        [.putIfAbsent ⟨"t", "b"⟩ (.number 3), .reopen]).2.tables.get? ⟨"t", "b"⟩ =
          some (.number 3) := by
  have fits (key : String) (n : UInt64) (short : (Bytes.ofString key).length = 1) :
      Entry.Fits ⟨⟨"t", key⟩, .number n⟩ := by
    have table : (Bytes.ofString "t").length = 1 := by decide
    simp [Entry.Fits, Entry.payload, Entry.textBytes, Entry.valueBytes, short, table, UInt32.size]
  have stored : written
      [.putIfAbsent ⟨"t", "a"⟩ (.number 1), .putIfAbsent ⟨"t", "b"⟩ (.number 2)] =
        [⟨⟨"t", "a"⟩, .number 1⟩, ⟨⟨"t", "b"⟩, .number 2⟩] := by decide +kernel
  obtain ⟨j, kept, ran, -, recovers, later⟩ := recovery_after_cut _ (by
    rw [stored]
    simp [fits "a" 1 (by decide), fits "b" 2 (by decide)]) 40
  rw [stored] at recovers
  -- The cut at forty is behind the first frame and within the second one.
  have kept_eq : kept = 1 := by
    have first := (recovers.ends 1 (by simp)).1 (by decide)
    have second := (not_congr (recovers.ends 2 (by simp))).1 (by decide)
    omega
  subst kept_eq
  have lost := recovers.lost ⟨⟨"t", "b"⟩, .number 2⟩ (by simp)
  -- The lost key is free, so that its new value is stored.
  have put_stored : newEntries [.putIfAbsent ⟨"t", "b"⟩ (.number 3), .reopen]
      ((journal (.openFile (j.file.take 40))).run
        [.putIfAbsent ⟨"t", "b"⟩ (.number 3), .reopen]).1 = [⟨⟨"t", "b"⟩, .number 3⟩] := by
    simp [run_cons, step, putIfAbsent, Journal.putIfAbsent_of_none lost, stored?]
  refine ⟨j, ran, (recovers.found _ _).2 (by simp), lost, ?_⟩
  exact later _ (by rw [put_stored]; simpa using fits "b" 3 (by decide)) ⟨⟨"t", "b"⟩, .number 3⟩
    (by rw [put_stored]; simp)

end Store

end LargeFiles.Metadata
