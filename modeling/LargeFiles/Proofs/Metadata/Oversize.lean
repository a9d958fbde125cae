import LargeFiles.Proofs.Metadata.Refinement

/-!
# Entries of any size

The header of a record has four bytes for the length of the payload, and a put writes as much of the
length as these can hold.  An entry that does not fit is taken like any other and can be seen until
the journal is closed.  But its header announces less than what follows, so a scan of the file goes
out of step: the entry is not found when the file is opened again, and those after it may be lost
with it.

* `Entry.length_payload_le`         a payload that gives an entry is at least as long as its own;
* `Journal.fits_of_mem_entriesOf`   what is read from a file fits, so what does not is never read;
* `Journal.declares_iff`            which headers tell the truth;
* `Journal.found_iff`               which entries are found again;
* `entriesOf_oversize`              what is read from the record of an entry that does not fit;
* `Store.New`                       the puts of a run that store something;
* `Store.puts_recorded_iff`         these are recorded if and only if what they store fits;
* `oversize_put_lost`               an entry that is taken and lost, and another one with it.
-/

namespace LargeFiles.Metadata

/-! ### What a file can give -/

namespace Entry

/-- What is taken and what is left are the whole. -/
theorem length_of_take? {n : Nat} {b front rest : Bytes} (h : take? n b = some (front, rest)) :
    front.length = n ∧ b.length = n + rest.length := by
  simp only [take?] at h
  split at h
  · next enough =>
    cases h
    simp only [List.length_take, List.length_drop]
    omega
  · cases h

/-- A number takes its width. -/
theorem length_of_takeNumber? {width n : Nat} {b rest : Bytes}
    (h : takeNumber? width b = some (n, rest)) : b.length = width + rest.length := by
  obtain ⟨⟨front, _⟩, taken, same⟩ := Option.map_eq_some_iff.1 h
  cases same
  exact (length_of_take? taken).2

/-- A text takes as many bytes as it would be written in. -/
theorem length_of_takeText? {s : String} {b rest : Bytes} (h : takeText? b = some (s, rest)) :
    b.length = (textBytes s).length + rest.length := by
  simp only [takeText?, Option.bind_eq_bind, Option.bind_eq_some_iff, Prod.exists] at h
  obtain ⟨length, after, number, bytes, rest', taken, text, read, same⟩ := h
  cases same
  obtain ⟨width, whole⟩ := length_of_take? taken
  rw [length_of_takeNumber? number, whole, textBytes, Bytes.ofString_of_toString? read,
    List.length_append, Bytes.length_littleEndian, width, Nat.add_assoc]

/-- A value takes as many bytes as it would be written in. -/
theorem length_of_takeValue? {value : Value} {b rest : Bytes}
    (h : takeValue? b = some (value, rest)) :
    b.length = (valueBytes value).length + rest.length := by
  simp only [takeValue?, Option.bind_eq_bind, Option.bind_eq_some_iff, Prod.exists] at h
  obtain ⟨kind, after, number, h⟩ := h
  have front := length_of_takeNumber? number
  split at h
  -- The kind of the value tells whether a text or a number follows.
  · obtain ⟨⟨s, _⟩, text, same⟩ := Option.map_eq_some_iff.1 h
    cases same
    rw [front, length_of_takeText? text, valueBytes, List.length_append, Bytes.length_littleEndian,
      Nat.add_assoc]
  · obtain ⟨⟨n, _⟩, taken, same⟩ := Option.map_eq_some_iff.1 h
    cases same
    rw [front, length_of_takeNumber? taken, valueBytes, List.length_append,
      Bytes.length_littleEndian, Bytes.length_littleEndian, Nat.add_assoc]
  · cases h

/-- A payload that gives an entry is at least as long as the payload of the entry. -/
theorem length_payload_le {b : Bytes} {e : Entry} (h : ofPayload? b = some e) :
    e.payload.length ≤ b.length := by
  simp only [ofPayload?, Option.bind_eq_bind, Option.bind_eq_some_iff, Prod.exists] at h
  obtain ⟨table, rest, first, key, rest', second, value, rest'', third, same⟩ := h
  cases same
  -- Each part is at least as long as what it is written as.
  have := length_of_takeText? first
  have := length_of_takeText? second
  have := length_of_takeValue? third
  simp only [payload, List.length_append]
  omega

end Entry

/-- No record of a file has a payload that is too long for a header. -/
theorem Record.length_lt_of_mem_all {file : Bytes} {r : Record} (mem : r ∈ Record.all file) :
    r.payload.length < UInt32.size := by
  fun_induction Record.all file with
  | case1 file first rest h ih =>
    obtain rfl | later := List.mem_cons.1 mem
    · obtain ⟨length, checksum, width, -, announced, -, -⟩ := Record.exists_header_of_split? h
      -- The length was read from four bytes.
      have bound := Bytes.toNatLE_lt length
      rw [announced, width] at bound
      exact bound
    · exact ih later
  | case2 => cases mem

namespace Journal

/-- What is read from a file fits into a record. -/
theorem fits_of_mem_entriesOf {file : Bytes} {e : Entry} (mem : e ∈ entriesOf file) : e.Fits := by
  obtain ⟨r, found, read⟩ := List.mem_filterMap.1 mem
  unfold Record.entry? at read
  split at read
  · exact Nat.lt_of_le_of_lt (Entry.length_payload_le read) (Record.length_lt_of_mem_all found)
  · cases read

/-- A value that was put into tables was there before, or is that of one of the entries. -/
theorem get?_putAll_cases {m : Metadata} {entries : List Entry} {key : Key} {value : Value}
    (found : (putAll m entries).get? key = some value) :
    m.get? key = some value ∨ ⟨key, value⟩ ∈ entries := by
  induction entries generalizing m with
  | nil => exact .inl found
  | cons e rest ih =>
    -- A later entry cannot have replaced what was there.
    obtain before | later := ih found
    · by_cases same : key = e.key
      · subst same
        rw [Metadata.get?_putIfAbsent_self, Option.some.injEq] at before
        cases known : m.get? e.key with
        | some previous =>
          rw [known, Option.getD_some] at before
          exact .inl (congrArg some before)
        | none =>
          rw [known, Option.getD_none] at before
          exact .inr (before ▸ List.mem_cons_self)
      · rw [Metadata.get?_putIfAbsent_of_ne _ same] at before
        exact .inl before
    · exact .inr (List.mem_cons_of_mem _ later)

/-! ### Single puts -/

/-- The record that a put adds to the file announces as many bytes as follow its header. -/
def Declares (j : Journal) (key : Key) (value : Value) : Prop :=
  ∃ length checksum payload : Bytes, length.length = 4 ∧ checksum.length = 4 ∧
    (j.putIfAbsent key value).2.file = j.file ++ (length ++ (checksum ++ payload)) ∧
    Bytes.toNatLE length = payload.length

/-- What a put under a key that has no value is meant to do. -/
structure Records (j : Journal) (key : Key) (value : Value) : Prop where
  /-- The record that it adds to the file announces as many bytes as follow its header. -/
  declared : j.Declares key value
  /-- The value is found when the file is opened again. -/
  found : (j.putIfAbsent key value).2.reopen.tables.get? key = some value
  /-- Under other keys there is what there was before. -/
  others : ∀ other, other ≠ key →
    (j.putIfAbsent key value).2.reopen.tables.get? other = j.tables.get? other

variable {j : Journal} {key : Key} {value : Value}

/-- The header tells the truth about an entry that fits, and about no other. -/
theorem declares_iff (absent : j.tables.get? key = none) :
    j.Declares key value ↔ Entry.Fits ⟨key, value⟩ := by
  have frame : Entry.frame ⟨key, value⟩ =
      Bytes.littleEndian 4 (Entry.payload ⟨key, value⟩).length ++
        (Bytes.littleEndian 4 (Digest.Crc32.checksum (Entry.payload ⟨key, value⟩)).toNat ++
          Entry.payload ⟨key, value⟩) := List.append_assoc ..
  rw [Declares, putIfAbsent_of_none absent, frame]
  constructor
  · rintro ⟨length, checksum, payload, width, width', file, announced⟩
    -- The header is the one that was written, so the announced length fits into four bytes.
    obtain ⟨rfl, rest⟩ := List.append_inj (List.append_cancel_left file) (by simp [width])
    obtain ⟨-, rfl⟩ := List.append_inj rest (by simp [width'])
    have bound := Bytes.toNatLE_lt (Bytes.littleEndian 4 (Entry.payload ⟨key, value⟩).length)
    rw [announced, Bytes.length_littleEndian] at bound
    exact bound
  · intro fits
    refine ⟨_, _, _, by simp, by simp, rfl, ?_⟩
    rw [Bytes.toNatLE_littleEndian]
    exact Nat.mod_eq_of_lt fits

/-- An entry that fits is found when the file is opened again, and no other. -/
theorem found_iff (settled : j.Settled) (absent : j.tables.get? key = none) :
    (j.putIfAbsent key value).2.reopen.tables.get? key = some value ↔
      Entry.Fits ⟨key, value⟩ := by
  constructor
  · intro found
    rw [putIfAbsent_of_none absent, reopen, openFile_append settled] at found
    -- The key was free, so a value that is found there was read from the file.
    obtain before | read := get?_putAll_cases found
    · rw [absent] at before
      cases before
    · exact fits_of_mem_entriesOf read
  · intro fits
    rw [settled.putIfAbsent fun _ => fits, putIfAbsent_of_none absent, Metadata.get?_add,
      if_pos rfl]

/-- A put does what it is meant to do if and only if the entry fits. -/
theorem records_iff (settled : j.Settled) (absent : j.tables.get? key = none) :
    j.Records key value ↔ Entry.Fits ⟨key, value⟩ := by
  refine ⟨fun records => (declares_iff absent).1 records.declared, fun fits => ?_⟩
  refine ⟨(declares_iff absent).2 fits, (found_iff settled absent).2 fits, fun other apart => ?_⟩
  rw [settled.putIfAbsent fun _ => fits, putIfAbsent_of_none absent, Metadata.get?_add,
    if_neg apart]

end Journal

/-! ### An entry of four gigabytes -/

/-- The letter `a`. -/
def letter : UInt8 := 97

/-- What four letters announce as the length of a payload. -/
theorem toNatLE_letters : Bytes.toNatLE (List.replicate 4 letter) = 1633771873 := by decide

/-- A record of letters among letters. -/
theorem Record.split?_letters (n : Nat) (rest : Bytes) :
    split? (List.replicate (1633771881 + n) letter ++ rest) =
      some (⟨1633771873, List.replicate 1633771873 letter⟩, List.replicate n letter ++ rest) := by
  have parts : List.replicate (1633771881 + n) letter ++ rest =
      List.replicate 4 letter ++ (List.replicate 4 letter ++
        (List.replicate 1633771873 letter ++ (List.replicate n letter ++ rest))) := by
    have count : 1633771881 + n = 4 + (4 + (1633771873 + n)) := by omega
    simp only [count, ← List.replicate_append_replicate, List.append_assoc]
  rw [parts, split?_header_append List.length_replicate List.length_replicate
    (toNatLE_letters.trans List.length_replicate.symm), toNatLE_letters]

/-- Fewer letters announce more than there is. -/
theorem Record.split?_letters_eq_none {n : Nat} {rest : Bytes} (header : 4 ≤ n)
    (short : n + rest.length < 1633771881) : split? (List.replicate n letter ++ rest) = none := by
  -- Four letters announce more bytes than there are.
  have length : (List.replicate n letter ++ rest).take 4 = List.replicate 4 letter := by
    rw [List.take_append_of_le_length (by simpa using header), List.take_replicate,
      Nat.min_eq_left header]
  simp only [split?, length, toNatLE_letters]
  rw [if_neg]
  rw [Bytes.hasSize_iff, List.length_append, List.length_replicate]
  simp only [headerSize]
  omega

/-- Letters are no payload: the length of the first text would be too large. -/
theorem Entry.ofPayload?_letters {n : Nat} (short : n < UInt32.size) :
    ofPayload? (List.replicate n letter) = none := by
  have eight : Bytes.toNatLE (List.replicate 8 letter) = 7016996765293437281 := by decide
  have none_taken : takeText? (List.replicate n letter) = none := by
    rw [takeText?, takeNumber?, take?, List.length_replicate]
    split
    · next enough =>
      -- Eight letters are read as a length, far beyond what comes after them.
      have large : ¬7016996765293437281 ≤ n - 8 := by
        simp only [UInt32.size] at short
        omega
      simp only [Option.map_some, List.take_replicate, List.drop_replicate,
        Nat.min_eq_left enough, eight, Option.bind_eq_bind, Option.bind_some, take?,
        List.length_replicate, if_neg large, Option.bind_none]
    · rfl
  rw [ofPayload?, none_taken]
  rfl

/-- Where the payload is no entry, the record is none. -/
theorem Record.not_checks_of_ofPayload? {r : Record} (h : Entry.ofPayload? r.payload = none) :
    Record.entry? r = none := by
  unfold entry?
  rw [h, ite_self]

/-- Four gigabytes of letters give no entry. -/
theorem Journal.entriesOf_letters {more : Bytes} (short : more.length < 606348347) :
    entriesOf (List.replicate UInt32.size letter ++ more) = [] := by
  -- Two records among the letters, and a header that announces more than is left.
  have count : UInt32.size = 1633771881 + (1633771881 + 1027423534) := by decide
  have unread : Record.entry? ⟨1633771873, List.replicate 1633771873 letter⟩ = none :=
    Record.not_checks_of_ofPayload? (Entry.ofPayload?_letters (by decide))
  have last : Record.split? (List.replicate 1027423534 letter ++ more) = none :=
    Record.split?_letters_eq_none (by decide) (by omega)
  rw [entriesOf, count, Record.all_of_split? (Record.split?_letters (1633771881 + 1027423534) more),
    Record.all_of_split? (Record.split?_letters 1027423534 more), Record.all_eq_nil last]
  rw [List.filterMap_cons_none unread, List.filterMap_cons_none unread, List.filterMap_nil]

/-- A text of letters is its length and the letters. -/
theorem Entry.textBytes_replicate (n : Nat) :
    textBytes (String.ofList (List.replicate n 'a')) =
      Bytes.littleEndian 8 n ++ List.replicate n letter := by
  -- Letters in ASCII are one byte each.
  have bytes : Bytes.ofString (String.ofList (List.replicate n 'a')) = List.replicate n letter := by
    rw [Bytes.ofString_eq_map, String.toList_ofList, List.map_replicate]
    · rfl
    · intro c mem
      rw [String.toList_ofList] at mem
      rw [List.eq_of_mem_replicate mem]
      decide
  rw [textBytes, bytes, List.length_replicate]

/-- A text of four gigabytes. -/
def oversize : Entry := ⟨⟨"t", "k"⟩, .text (String.ofList (List.replicate UInt32.size 'a'))⟩

/-- What stands before the letters in its payload. -/
def oversizeFront : Bytes :=
  Entry.textBytes "t" ++ Entry.textBytes "k" ++ Bytes.littleEndian 4 0 ++
    Bytes.littleEndian 8 UInt32.size

/-- What comes before the wrapped part has thirty bytes. -/
theorem length_oversizeFront : oversizeFront.length = 30 := by decide +kernel

/-- The payload is a front and so many letters that their number wraps to zero. -/
theorem payload_oversize :
    oversize.payload = oversizeFront ++ List.replicate UInt32.size letter := by
  have letters := Entry.textBytes_replicate UInt32.size
  simp only [oversize, Entry.payload, Entry.valueBytes, letters, oversizeFront, List.append_assoc]

/-- The record of the text announces no more than what stands before the letters, which then are
    read as records, and so is what follows them. -/
theorem entriesOf_oversize {more : Bytes} (short : more.length < 606348347) :
    Journal.entriesOf (oversize.frame ++ more) = [] := by
  have announced : Bytes.toNatLE (Bytes.littleEndian 4 (oversizeFront.length + UInt32.size)) =
      oversizeFront.length := by
    rw [length_oversizeFront]
    decide
  -- The front alone, which the wrapped length announces, is no entry, whatever its checksum.
  have unread (checksum : Nat) : Record.entry? ⟨checksum, oversizeFront⟩ = none := by
    apply Record.not_checks_of_ofPayload?
    show Entry.ofPayload? oversizeFront = none
    decide +kernel
  have letters : Journal.entriesOf (List.replicate UInt32.size letter ++ more) = [] :=
    Journal.entriesOf_letters short
  -- The length of the payload is that of the front, once it has wrapped.
  have size : oversize.payload.length = oversizeFront.length + UInt32.size := by
    rw [payload_oversize, List.length_append, List.length_replicate]
  rw [Entry.frame, Record.frame, size, payload_oversize, List.append_assoc, List.append_assoc,
    List.append_assoc, Journal.entriesOf, Record.all_of_split? (Record.split?_header_append
      (Bytes.length_littleEndian ..) (Bytes.length_littleEndian ..) announced _),
    List.filterMap_cons_none (unread _)]
  exact letters

/-! ### Runs -/

namespace Store

/-- Operations after others are run on what those leave. -/
theorem run_append (store : Store) (before after : List Operation) :
    store.run (before ++ after) = ((store.run before).1 ++ ((store.run before).2.run after).1,
      ((store.run before).2.run after).2) := by
  induction before generalizing store with
  | nil => rfl
  | cons op before ih =>
    rw [List.cons_append, run_cons, ih, run_cons]
    rfl

/-- Each operation has an answer. -/
theorem length_run (store : Store) (ops : List Operation) :
    (store.run ops).1.length = ops.length := by
  induction ops generalizing store with
  | nil => rfl
  | cons op ops ih => rw [run_cons, List.length_cons, ih, List.length_cons]

/-- What a run stores is stored by its parts. -/
theorem newEntries_append (store : Store) (before after : List Operation) :
    newEntries (before ++ after) (store.run (before ++ after)).1 =
      newEntries before (store.run before).1 ++
        newEntries after ((store.run before).2.run after).1 := by
  rw [run_append]
  simp only [newEntries, List.zip_append (store.length_run before).symm, List.filterMap_append]

/-- A run leaves a journal a journal. -/
theorem exists_journal_run (j : Journal) (ops : List Operation) :
    ∃ j', ((journal j).run ops).2 = journal j' := by
  induction ops generalizing j with
  | nil => exact ⟨j, rfl⟩
  | cons op ops ih => cases op <;> exact ih _

/-- After the first operations of a run the journal has no value under the key of an entry, and the
    next operation puts it. -/
structure New (start : Store) (ops before : List Operation) (j : Journal) (e : Entry) : Prop where
  next : before ++ [.putIfAbsent e.key e.value] <+: ops
  reached : (start.run before).2 = journal j
  absent : j.tables.get? e.key = none

/-- What is stored by the operation that comes after some others. -/
theorem New.mem_newEntries {start : Store} {ops before : List Operation} {j : Journal} {e : Entry}
    (new : New start ops before j e) : e ∈ newEntries ops (start.run ops).1 := by
  obtain ⟨⟨after, rfl⟩, reached, absent⟩ := new
  rw [List.append_assoc, newEntries_append, reached]
  refine List.mem_append_right _ ?_
  rw [List.singleton_append, run_cons, newEntries_cons]
  refine List.mem_append_left _ ?_
  simp [step, putIfAbsent, Journal.putIfAbsent_of_none absent, stored?]

/-- What was new before an operation is new in the whole run. -/
theorem New.mem_of_before {start : Store} {ops before : List Operation} {j : Journal}
    {e other : Entry} (new : New start ops before j e)
    (mem : other ∈ newEntries before (start.run before).1) :
    other ∈ newEntries ops (start.run ops).1 := by
  obtain ⟨after, rfl⟩ := new.next
  rw [List.append_assoc, newEntries_append]
  exact List.mem_append_left _ mem

/-- The entries that a run stores are new when they are put. -/
theorem exists_new_of_mem_newEntries {start : Journal} {ops : List Operation} {e : Entry}
    (mem : e ∈ newEntries ops ((journal start).run ops).1) :
    ∃ before j, New (journal start) ops before j e := by
  induction ops generalizing start with
  | nil => cases mem
  | cons op ops ih =>
    rw [run_cons, newEntries_cons] at mem
    obtain now | later := List.mem_append.1 mem
    -- The entry is put by this operation, which found nothing at its key.
    · cases op with
      | putIfAbsent key value =>
        cases known : start.tables.get? key with
        | some previous =>
          simp [step, putIfAbsent, Journal.putIfAbsent_of_some known, stored?] at now
        | none =>
          simp only [step, putIfAbsent, Journal.putIfAbsent_of_none known, stored?,
            Option.mem_toList] at now
          cases now
          exact ⟨[], start, ⟨ops, rfl⟩, rfl, known⟩
      | _ => cases now
    · obtain ⟨j, stepped⟩ := exists_journal_run start [op]
      have stepped : ((journal start).step op).2 = journal j := stepped
      rw [stepped] at later
      -- Or it is put later, on the journal that this operation leaves.
      obtain ⟨before, j', ⟨after, rest⟩, reached, absent⟩ := ih later
      refine ⟨op :: before, j', ⟨after, congrArg (op :: ·) rest⟩, ?_, absent⟩
      rw [run_cons, stepped, reached]

/-- What a put does with an entry that is new: it is never refused, whatever its size. -/
structure Takes (j : Journal) (e : Entry) : Prop where
  answer : (j.putIfAbsent e.key e.value).1 = none
  file : (j.putIfAbsent e.key e.value).2.file = j.file ++ e.frame
  visible : (j.putIfAbsent e.key e.value).2.tables.get? e.key = some e.value

/-- Where there was nothing, the journal takes the entry into its file and its tables. -/
theorem takes_of_absent {j : Journal} {e : Entry} (absent : j.tables.get? e.key = none) :
    Takes j e := by
  constructor
  · rw [Journal.putIfAbsent_of_none absent]
  · rw [Journal.putIfAbsent_of_none absent]
  · rw [Journal.putIfAbsent_of_none absent, Metadata.get?_add, if_pos rfl]

/-- Every new entry of a run on a journal is taken.  If those before it fit, its header tells the
    truth if and only if it fits too, and it is found when the file is opened again if and only if
    it does.  So all puts of new entries do what they are meant to do if and only if all of these
    fit. -/
theorem puts_recorded_iff (file : Bytes) (ops : List Operation) :
    let start := journal (.openFile file)
    (∀ before j e, New start ops before j e → Takes j e ∧
      ((∀ e ∈ newEntries before (start.run before).1, e.Fits) →
        (j.Declares e.key e.value ↔ e.Fits) ∧
        ((j.putIfAbsent e.key e.value).2.reopen.tables.get? e.key = some e.value ↔ e.Fits))) ∧
    ((∀ e ∈ newEntries ops (start.run ops).1, e.Fits) ↔
      ∀ before j e, New start ops before j e → j.Records e.key e.value) := by
  intro start
  -- As long as everything fitted, the journal is settled, and only the next entry counts.
  have settled {before : List Operation} {j : Journal}
      (fit : ∀ e ∈ newEntries before (start.run before).1, e.Fits)
      (reached : (start.run before).2 = journal j) : j.Settled := by
    obtain ⟨j', ran, -, -, settled⟩ := run_journal (Journal.settled_openFile file) before fit
    rw [ran] at reached
    exact journal.inj reached ▸ settled
  refine ⟨fun before j e new => ⟨takes_of_absent new.absent, fun fit =>
    ⟨Journal.declares_iff new.absent, Journal.found_iff (settled fit new.reached) new.absent⟩⟩,
    fun fit before j e new => ?_, fun recorded e mem => ?_⟩
  · have before_fit : ∀ e ∈ newEntries before (start.run before).1, e.Fits :=
      fun e mem => fit e (new.mem_of_before mem)
    exact (Journal.records_iff (settled before_fit new.reached) new.absent).2
      (fit e new.mem_newEntries)
  -- Every new entry was once put on a journal, whose header for it was then true.
  · obtain ⟨before, j, new⟩ := exists_new_of_mem_newEntries mem
    exact (Journal.declares_iff new.absent).1 (recorded before j e new).declared

end Store

/-- A text of four gigabytes is taken and can be seen, but its record announces less than what
    follows.  When the file is opened again neither the text is found nor the small value that was
    put after it. -/
theorem oversize_put_lost :
    let j := Journal.openFile []
    let first := j.putIfAbsent oversize.key oversize.value
    let second := first.2.putIfAbsent ⟨"t", "b"⟩ (.text "v")
    first.1 = none ∧ first.2.tables.get? oversize.key = some oversize.value ∧
      ¬j.Declares oversize.key oversize.value ∧ first.2.reopen.tables = .empty ∧
      second.1 = none ∧ second.2.reopen.tables = .empty := by
  intro j first second
  have empty : j = ⟨[], .empty⟩ := by
    simp [j, Journal.openFile_eq, Journal.keptSize, Journal.entriesOf]
  have absent : j.tables.get? oversize.key = none := by
    rw [empty]
    exact Metadata.get?_empty _
  have taken : first = (none, ⟨j.file ++ oversize.frame, j.tables.add _ _ absent⟩) :=
    Journal.putIfAbsent_of_none absent oversize.value
  have absent' : first.2.tables.get? ⟨"t", "b"⟩ = none := by
    rw [taken, Metadata.get?_add, if_neg (by decide), empty]
    exact Metadata.get?_empty _
  have taken' : second = (none, ⟨first.2.file ++ Entry.frame ⟨⟨"t", "b"⟩, .text "v"⟩,
      first.2.tables.add _ _ absent'⟩) :=
    Journal.putIfAbsent_of_none absent' (.text "v")
  have noFile : j.file = [] := by rw [empty]
  have file : first.2.file = oversize.frame := by rw [taken, noFile, List.nil_append]
  have unfit : ¬oversize.Fits := by
    rw [Entry.Fits, payload_oversize, List.length_append, List.length_replicate]
    omega
  -- The letters and what follows them are read as records that are no entries.
  have nothing {more : Bytes} (short : more.length < 606348347) :
      (Journal.openFile (oversize.frame ++ more)).tables = .empty := by
    rw [Journal.openFile_eq, entriesOf_oversize short, Journal.putAll_nil]
  refine ⟨?_, ?_, fun declared => unfit ((Journal.declares_iff absent).1 declared), ?_, ?_, ?_⟩
  · rw [taken]
  · rw [taken, Metadata.get?_add, if_pos rfl]
  · rw [Journal.reopen, file, ← List.append_nil oversize.frame]
    exact nothing (by decide)
  · rw [taken']
  · rw [Journal.reopen, taken', file]
    exact nothing (by decide +kernel)

end LargeFiles.Metadata
