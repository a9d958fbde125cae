import LargeFiles.Proofs.Digest.Crc32
import LargeFiles.Proofs.Metadata.Recovery

/-!
# A damaged record

One byte of a journal's file is changed, within the checksum or the payload of a record.  The
record keeps its length, so the others are read as before, and its checksum gives it away, so
nothing is read from it.

* `exists_body_of_damage`           a damaged payload does not have the checksum before it;
* `exists_record_of_damage`         the damaged record is read as one that holds no entry;
* `openFile_damage`                 opening the file of which it is a part;
* `Store.damaged_record_is_lost`    what is lost of a journal, and how it can be put again.
-/

namespace LargeFiles.Metadata

/-! ### Damage -/

/-- Some bytes with the one at a position changed, in the bits that are set in a mask. -/
def damage (bytes : Bytes) (position : Nat) (mask : UInt8) : Bytes :=
  bytes.modify position (· ^^^ mask)

@[simp] theorem length_damage (bytes : Bytes) (position : Nat) (mask : UInt8) :
    (damage bytes position mask).length = bytes.length :=
  List.length_modify ..

theorem damage_append (front back : Bytes) (position : Nat) (mask : UInt8) :
    damage (front ++ back) (front.length + position) mask = front ++ damage back position mask :=
  List.modifyTailIdx_add ..

theorem damage_append_cons (front : Bytes) (b : UInt8) (back : Bytes) (mask : UInt8) :
    damage (front ++ b :: back) front.length mask = front ++ (b ^^^ mask) :: back :=
  damage_append front (b :: back) 0 mask

/-- A mask that is not zero changes the byte. -/
theorem xor_ne_self (b : UInt8) {mask : UInt8} (changed : mask ≠ 0) : b ^^^ mask ≠ b := by
  intro same
  have cancelled : b ^^^ mask = b ^^^ 0 := by rw [same, UInt8.xor_zero]
  exact changed ((UInt8.xor_right_inj b).1 cancelled)

/-! ### Records -/

/-- The checksum of a payload as a header gives it. -/
def checksumBytes (payload : Bytes) : Bytes :=
  Bytes.littleEndian 4 (Digest.Crc32.checksum payload).toNat

@[simp] theorem length_checksumBytes (payload : Bytes) : (checksumBytes payload).length = 4 :=
  Bytes.length_littleEndian ..

/-- The bytes of a checksum are read as the checksum. -/
theorem toNatLE_checksumBytes (payload : Bytes) :
    Bytes.toNatLE (checksumBytes payload) = (Digest.Crc32.checksum payload).toNat := by
  rw [checksumBytes, Bytes.toNatLE_littleEndian]
  exact Nat.mod_eq_of_lt (Digest.Crc32.checksum payload).toNat_lt

/-- Bytes of one length that denote one number are the same. -/
theorem eq_of_toNatLE_eq {a b : Bytes} (length : a.length = b.length)
    (h : Bytes.toNatLE a = Bytes.toNatLE b) : a = b := by
  rw [← Bytes.littleEndian_toNatLE a, ← Bytes.littleEndian_toNatLE b, length, h]

/-- A checksum and its payload, of which one byte is damaged: the payload does not have the
    checksum any more. -/
theorem exists_body_of_damage (payload : Bytes) {position : Nat}
    (inside : position < 4 + payload.length) {mask : UInt8} (changed : mask ≠ 0) :
    ∃ checksum payload' : Bytes, checksum.length = 4 ∧ payload'.length = payload.length ∧
      (Digest.Crc32.checksum payload').toNat ≠ Bytes.toNatLE checksum ∧
      ∀ rest, damage (checksumBytes payload ++ (payload ++ rest)) position mask =
        checksum ++ (payload' ++ rest) := by
  by_cases header : position < 4
  · -- The byte is in the checksum.
    obtain ⟨front, b, stop, whole, rfl, -⟩ := List.exists_of_modify id
      (show position < (checksumBytes payload).length by simpa using header)
    have length := congrArg List.length whole
    rw [length_checksumBytes, List.length_append, List.length_cons] at length
    refine ⟨front ++ (b ^^^ mask) :: stop, payload, ?_, rfl, fun same => ?_, fun rest => ?_⟩
    · rw [List.length_append, List.length_cons, length]
    · rw [← toNatLE_checksumBytes, whole] at same
      have bytes := eq_of_toNatLE_eq (by simp) same
      rw [List.append_cancel_left_eq, List.cons.injEq] at bytes
      exact xor_ne_self b changed bytes.1.symm
    · rw [whole, List.append_assoc, List.cons_append, damage_append_cons, List.append_assoc,
        List.cons_append]
  · -- The byte is in the payload.
    obtain ⟨offset, rfl⟩ := Nat.exists_eq_add_of_le (Nat.le_of_not_lt header)
    obtain ⟨start, b, back, whole, rfl, -⟩ := List.exists_of_modify id
      (show offset < payload.length by omega)
    refine ⟨checksumBytes payload, start ++ (b ^^^ mask) :: back, by simp, by simp [whole], ?_,
      fun rest => ?_⟩
    · rw [toNatLE_checksumBytes, whole, ne_eq, UInt32.toNat_inj]
      exact Digest.Crc32.checksum_ne_of_byte_ne (xor_ne_self b changed) start back
    · have place := damage_append (checksumBytes payload) (payload ++ rest) start.length mask
      rw [length_checksumBytes] at place
      rw [place, whole, List.append_assoc, List.cons_append, damage_append_cons, List.append_assoc,
        List.cons_append]

/-- The record of an entry, damaged behind its length, is read as a record of the same size that
    holds no entry. -/
theorem exists_record_of_damage {e : Entry} (fits : e.Fits) {position : Nat}
    (inside : 4 ≤ position ∧ position < e.frame.length) {mask : UInt8} (changed : mask ≠ 0) :
    ∃ r : Record, r.entry? = none ∧ r.size = e.frame.length ∧
      ∀ rest, Record.split? (damage (e.frame ++ rest) position mask) = some (r, rest) := by
  obtain ⟨offset, rfl⟩ := Nat.exists_eq_add_of_le inside.1
  have size : e.frame.length = Record.headerSize + e.payload.length := Record.length_frame _
  simp only [Record.headerSize] at size
  obtain ⟨checksum, payload, width, length, mismatch, damaged⟩ :=
    exists_body_of_damage e.payload (show offset < 4 + e.payload.length by omega) changed
  -- The length in front of the record is not hit, so the next record is still found.
  have announced : Bytes.toNatLE (Bytes.littleEndian 4 e.payload.length) = payload.length := by
    rw [Bytes.toNatLE_littleEndian, length]
    exact Nat.mod_eq_of_lt fits
  refine ⟨⟨Bytes.toNatLE checksum, payload⟩, ?_, ?_, fun rest => ?_⟩
  -- The checksum of a payload tells every change of one byte.
  · rw [Record.entry?, if_neg mismatch]
  · simp only [Record.size, Record.headerSize, length, size]
  · have frame : e.frame ++ rest = Bytes.littleEndian 4 e.payload.length ++
        (checksumBytes e.payload ++ (e.payload ++ rest)) := by
      simp [Entry.frame, Record.frame, checksumBytes]
    have place := damage_append (Bytes.littleEndian 4 e.payload.length)
      (checksumBytes e.payload ++ (e.payload ++ rest)) offset mask
    rw [Bytes.length_littleEndian] at place
    rw [frame, place, damaged rest, Record.split?_header_append (by simp) width announced]

/-! ### Files -/

/-- A file of records of which one is damaged is opened as it is, with the entries of the others. -/
theorem openFile_damage {before after : List Entry} {lost : Entry}
    (fit : ∀ e ∈ before ++ lost :: after, e.Fits) {position : Nat}
    (inside : 4 ≤ position ∧ position < lost.frame.length) {mask : UInt8} (changed : mask ≠ 0) :
    let file := damage (frames (before ++ lost :: after)) ((frames before).length + position) mask
    Journal.openFile file = ⟨file, Journal.putAll .empty (before ++ after)⟩ := by
  intro file
  have fit_before : ∀ e ∈ before, e.Fits := fun e mem => fit e (List.mem_append_left _ mem)
  have fit_after : ∀ e ∈ after, e.Fits := fun e mem =>
    fit e (List.mem_append_right _ (List.mem_cons_of_mem _ mem))
  obtain ⟨r, nothing, size, read⟩ := exists_record_of_damage (fit lost (by simp)) inside changed
  have parts : file = frames before ++ damage (lost.frame ++ frames after) position mask := by
    show damage _ _ _ = _
    rw [frames_append, frames_cons, damage_append]
  -- The length of the frame is intact, so the next record is found where it was.
  have scan := Record.all_of_split? (read (frames after))
  -- The damaged record takes up its place and gives no entry.
  have kept : Journal.keptSize (damage (lost.frame ++ frames after) position mask) =
      lost.frame.length + (frames after).length := by
    have whole := Journal.keptSize_frames_append fit_after []
    simp only [List.append_nil, Journal.keptSize, Record.all_nil, List.foldr_nil] at whole
    rw [Journal.keptSize, scan, List.foldr_cons, size, whole, Nat.add_zero]
  have entries : Journal.entriesOf (damage (lost.frame ++ frames after) position mask) = after := by
    have whole := Journal.entriesOf_frames_append fit_after []
    simp only [List.append_nil, Journal.entriesOf, Record.all_nil, List.filterMap_nil] at whole
    rw [Journal.entriesOf, scan, List.filterMap_cons_none nothing, whole]
  have all_kept : file.take (Journal.keptSize file) = file := by
    apply List.take_of_length_le
    rw [parts, Journal.keptSize_frames_append fit_before, kept]
    simp
  have all_entries : Journal.entriesOf file = before ++ after := by
    rw [parts, Journal.entriesOf_frames_append fit_before, entries]
  rw [Journal.openFile_eq, all_kept, all_entries]

/-- What a journal recovers from a file in which the record of one entry was damaged. -/
structure Loses (lost : Entry) (others : List Entry) (file : Bytes) (recovered : Journal) :
    Prop where
  file : recovered.file = file
  absent : recovered.tables.get? lost.key = none
  found : ∀ key value, recovered.tables.get? key = some value ↔ ⟨key, value⟩ ∈ others

/-- Of records with different keys only the one that was hit is lost. -/
theorem loses_of_damage {before after : List Entry} {lost : Entry}
    (fit : ∀ e ∈ before ++ lost :: after, e.Fits)
    (distinct : ((before ++ lost :: after).map (·.key)).Nodup) {position : Nat}
    (inside : 4 ≤ position ∧ position < lost.frame.length) {mask : UInt8} (changed : mask ≠ 0) :
    let file := damage (frames (before ++ lost :: after)) ((frames before).length + position) mask
    Loses lost (before ++ after) file (.openFile file) := by
  intro file
  have opened : Journal.openFile file = ⟨file, Journal.putAll .empty (before ++ after)⟩ :=
    openFile_damage fit inside changed
  -- No other entry has the key of the lost one.
  rw [List.map_append, List.map_cons, List.nodup_middle, ← List.map_append,
    List.nodup_cons] at distinct
  constructor
  · rw [opened]
  · rw [opened]
    exact get?_putAll_eq_none distinct.2 distinct.1
  · rw [opened]
    exact fun key value => get?_putAll_iff distinct.2

/-! ### Runs -/

/-- What a run stores has been put. -/
theorem mem_of_mem_newEntries {ops : List Operation} {answers : List Answer} {e : Entry}
    (h : e ∈ newEntries ops answers) : .putIfAbsent e.key e.value ∈ ops := by
  obtain ⟨⟨op, answer⟩, mem, stored⟩ := List.mem_filterMap.1 h
  have asked := (List.of_mem_zip mem).1
  simp only [stored?] at stored
  split at stored
  · cases stored
    exact asked
  · cases stored

namespace Store

/-- A key that is not put keeps what it has. -/
theorem get?_run_of_not_put {j : Journal} (settled : j.Settled) (ops : List Operation)
    (fit : ∀ e ∈ newEntries ops ((journal j).run ops).1, e.Fits) {key : Key}
    (notPut : ∀ value, .putIfAbsent key value ∉ ops) :
    ((journal j).run ops).2.tables.get? key = j.tables.get? key := by
  have entries := entries_run_journal settled ops fit
  -- What was added is what was put, so none of it has this key.
  have unknown : ((newEntries ops ((journal j).run ops).1).map Entry.pair).lookup key = none := by
    rw [List.lookup_eq_none_iff]
    rintro _ mem
    obtain ⟨e, new, rfl⟩ := List.mem_map.1 mem
    rw [bne_iff_ne]
    rintro rfl
    exact notPut _ (mem_of_mem_newEntries new)
  rw [get?, entries, List.lookup_append, unknown, Option.or_none, get?]

/-- A journal of which one record is damaged, in one byte of its checksum or its payload, loses the
    entry of this record and no other.  The entry can be put again, with any value, and this is
    found from then on. -/
theorem damaged_record_is_lost (ops : List Operation) (fit : ∀ e ∈ written ops, e.Fits)
    {before after : List Entry} {lost : Entry} (stored : written ops = before ++ lost :: after)
    {position : Nat} (inside : 4 ≤ position ∧ position < lost.frame.length) {mask : UInt8}
    (changed : mask ≠ 0) :
    ∃ (j : Journal) (file : Bytes),
      ((journal (.openFile [])).run ops).2 = journal j ∧
      j.file = frames before ++ (lost.frame ++ frames after) ∧
      file = damage j.file ((frames before).length + position) mask ∧
      Loses lost (before ++ after) file (.openFile file) ∧
      ∀ between value further,
        let store := ((journal (.openFile file)).run between).2
        let put := Operation.putIfAbsent lost.key value
        (∀ value, .putIfAbsent lost.key value ∉ between) →
        (∀ e ∈ newEntries between ((journal (.openFile file)).run between).1, e.Fits) →
        (∀ e ∈ newEntries (put :: further) (store.run (put :: further)).1, e.Fits) →
        (store.step put).1 = .previous none ∧
          (store.run (put :: further)).2.tables.get? lost.key = some value := by
  obtain ⟨j, ends, written_eq, distinct⟩ := exists_journal_of_written ops fit
  rw [stored] at fit written_eq distinct
  have loses := loses_of_damage fit distinct inside changed
  rw [← written_eq] at loses
  refine ⟨j, _, ends, by rw [written_eq, frames_append, frames_cons], rfl, loses, ?_⟩
  intro between value further store put notPut between_fit further_fit
  have settled := Journal.settled_openFile (damage j.file ((frames before).length + position) mask)
  -- What happens before the entry is put again leaves its key without a value.
  have still := (get?_run_of_not_put settled between between_fit notPut).trans loses.absent
  obtain ⟨j', ran, -, -, settled'⟩ := run_journal settled between between_fit
  have store_eq : store = journal j' := congrArg Prod.snd ran
  have none_before : j'.tables.get? lost.key = none := by
    rwa [ran] at still
  -- The key is free, so the value that is put there is stored.
  have answer : (store.step put).1 = .previous none := by
    rw [store_eq]
    simp only [put, step, putIfAbsent, Journal.putIfAbsent_of_none none_before]
  refine ⟨answer, ?_⟩
  rw [store_eq] at answer further_fit ⊢
  -- Once it is put again, its record is whole and stays.
  apply get?_run_of_new settled' (put :: further) further_fit (e := ⟨lost.key, value⟩)
  rw [run_cons, newEntries_cons, answer]
  exact List.mem_append_left _ (by simp [put, stored?])

/-- The lowest bit of one byte in the first of two records is changed: the first entry is lost, the
    second is found, and a new value for the first key is found after the journal was opened
    again. -/
theorem damaged_record_is_lost_first :
    ∃ (j : Journal) (file : Bytes),
      ((journal (.openFile [])).run
        [.putIfAbsent ⟨"t", "a"⟩ (.number 1), .putIfAbsent ⟨"t", "b"⟩ (.number 2)]).2 = journal j ∧
      file = damage j.file 9 1 ∧ (Journal.openFile file).file = file ∧
      (Journal.openFile file).tables.get? ⟨"t", "a"⟩ = none ∧
      (Journal.openFile file).tables.get? ⟨"t", "b"⟩ = some (.number 2) ∧
      ((journal (.openFile file)).run
        [.putIfAbsent ⟨"t", "a"⟩ (.number 3), .reopen]).2.tables.get? ⟨"t", "a"⟩ =
          some (.number 3) := by
  -- Position 9 comes after the header of the first record, so it is in the payload.
  have stored : written
      [.putIfAbsent ⟨"t", "a"⟩ (.number 1), .putIfAbsent ⟨"t", "b"⟩ (.number 2)] =
        [] ++ ⟨⟨"t", "a"⟩, .number 1⟩ :: [⟨⟨"t", "b"⟩, .number 2⟩] := by decide +kernel
  have fits : Entry.Fits ⟨⟨"t", "a"⟩, .number 1⟩ ∧ Entry.Fits ⟨⟨"t", "b"⟩, .number 2⟩ ∧
      Entry.Fits ⟨⟨"t", "a"⟩, .number 3⟩ := by
    unfold Entry.Fits
    decide
  obtain ⟨j, file, ran, -, file_eq, loses, later⟩ := damaged_record_is_lost
    [.putIfAbsent ⟨"t", "a"⟩ (.number 1), .putIfAbsent ⟨"t", "b"⟩ (.number 2)]
    (by rw [stored]; simpa using ⟨fits.1, fits.2.1⟩) stored
    (show 4 ≤ 9 ∧ 9 < (Entry.frame ⟨⟨"t", "a"⟩, .number 1⟩).length by decide)
    (show (1 : UInt8) ≠ 0 by decide)
  refine ⟨j, file, ran, file_eq, loses.file, loses.absent, (loses.found _ _).2 (by simp), ?_⟩
  refine (later [] (.number 3) [.reopen] (by simp) (by simp) ?_).2
  -- The key is free after the damage, and the value that is put there is a new entry.
  have put_stored : newEntries [.putIfAbsent ⟨"t", "a"⟩ (.number 3), .reopen]
      ((journal (.openFile file)).run
        [.putIfAbsent ⟨"t", "a"⟩ (.number 3), .reopen]).1 = [⟨⟨"t", "a"⟩, .number 3⟩] := by
    simp [run_cons, step, putIfAbsent, Journal.putIfAbsent_of_none loses.absent, stored?]
  simpa [put_stored] using fits.2.2

end Store

end LargeFiles.Metadata
