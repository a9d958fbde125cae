import LargeFiles.Metadata.Journal
import LargeFiles.Proofs.Bytes

/-!
# Journal records read back

The two codecs of a journal are undone by their readers, whatever stands after what they wrote,
and a scan of a file splits it into whole records and a torn tail.

* `Entry.ofPayload?_payload`        an entry is read back from its payload;
* `Record.split?_frame_append`      a record is read back from the front of a file;
* `Record.split?_append`            what stands after a record does not change how it is read;
* `Record.exists_scan`              a file is its whole records followed by a tail without one.
-/

namespace LargeFiles.Metadata

/-! ### Payloads -/

namespace Entry

theorem take?_append {n : Nat} {front : Bytes} (length : front.length = n) (rest : Bytes) :
    take? n (front ++ rest) = some (front, rest) := by
  subst length
  simp [take?]

theorem takeNumber?_littleEndian {width n : Nat} (fits : n < Nat.pow 256 width) (rest : Bytes) :
    takeNumber? width (Bytes.littleEndian width n ++ rest) = some (n, rest) := by
  rw [takeNumber?, take?_append (Bytes.length_littleEndian width n)]
  simp only [Option.map_some, Bytes.toNatLE_littleEndian, Nat.mod_eq_of_lt fits]

theorem takeText?_textBytes {s : String} (fits : (Bytes.ofString s).length < UInt64.size)
    (rest : Bytes) : takeText? (textBytes s ++ rest) = some (s, rest) := by
  rw [takeText?, textBytes, List.append_assoc, takeNumber?_littleEndian fits]
  simp only [Option.bind_eq_bind, Option.bind_some, take?_append rfl, Bytes.toString?_ofString]
  rfl

theorem takeValue?_valueBytes {value : Value} (fits : (valueBytes value).length < UInt64.size)
    (rest : Bytes) : takeValue? (valueBytes value ++ rest) = some (value, rest) := by
  cases value with
  | text s =>
    -- The text is shorter than its value, which has a kind and a length before it.
    have fits' : (Bytes.ofString s).length < UInt64.size := by
      simp only [valueBytes, textBytes, List.length_append] at fits
      omega
    rw [valueBytes, List.append_assoc, takeValue?, takeNumber?_littleEndian (by decide)]
    simp only [Option.bind_eq_bind, Option.bind_some, takeText?_textBytes fits', Option.map_some]
  | number n =>
    have bound : n.toNat < Nat.pow 256 8 := n.toNat_lt
    rw [valueBytes, List.append_assoc, takeValue?, takeNumber?_littleEndian (by decide)]
    simp only [Option.bind_eq_bind, Option.bind_some, takeNumber?_littleEndian bound,
      Option.map_some, UInt64.ofNat_toNat]

/-- An entry is read back from its payload. -/
theorem ofPayload?_payload {e : Entry} (fits : e.payload.length < UInt64.size) :
    ofPayload? e.payload = some e := by
  obtain ⟨⟨table, key⟩, value⟩ := e
  have parts : payload ⟨⟨table, key⟩, value⟩ =
      textBytes table ++ (textBytes key ++ (valueBytes value ++ [])) := by
    simp [payload]
  -- No part is longer than the whole.
  have lengths := congrArg List.length parts
  have table_le : (Bytes.ofString table).length ≤ (textBytes table).length := by simp [textBytes]
  have key_le : (Bytes.ofString key).length ≤ (textBytes key).length := by simp [textBytes]
  simp only [List.length_append, List.length_nil] at lengths
  rw [parts, ofPayload?, takeText?_textBytes (by omega)]
  simp only [Option.bind_eq_bind, Option.bind_some]
  rw [takeText?_textBytes (by omega)]
  simp only [Option.bind_some]
  rw [takeValue?_valueBytes (by omega)]
  rfl

end Entry

/-! ### Records -/

namespace Record

/-- The record that is written for a payload. -/
def ofPayload (payload : Bytes) : Record :=
  ⟨(Digest.Crc32.checksum payload).toNat, payload⟩

@[simp] theorem length_frame (payload : Bytes) :
    (frame payload).length = headerSize + payload.length := by
  simp only [frame, List.length_append, Bytes.length_littleEndian, headerSize]

/-- A written record passes its own check. -/
@[simp] theorem checks_ofPayload (payload : Bytes) :
    Record.entry? (ofPayload payload) = Entry.ofPayload? payload := by
  simp [ofPayload, entry?]

/-- A header and as many bytes as it announces are a record, whatever checksum it gives. -/
theorem split?_header_append {length checksum payload : Bytes} (length_width : length.length = 4)
    (checksum_width : checksum.length = 4) (announced : Bytes.toNatLE length = payload.length)
    (rest : Bytes) :
    split? (length ++ (checksum ++ (payload ++ rest))) =
      some (⟨Bytes.toNatLE checksum, payload⟩, rest) := by
  have body : (length ++ (checksum ++ (payload ++ rest))).drop headerSize = payload ++ rest := by
    rw [← List.append_assoc]
    exact List.drop_left' (by simp [length_width, checksum_width, headerSize])
  -- There are as many bytes as the header announces.
  have whole : Bytes.hasSize (length ++ (checksum ++ (payload ++ rest)))
      (headerSize + payload.length) = true := by
    rw [Bytes.hasSize_iff]
    simp only [headerSize, List.length_append]
    omega
  simp only [split?]
  rw [body, List.take_left' length_width, List.drop_left' length_width,
    List.take_left' checksum_width, announced, if_pos whole, List.take_left, List.drop_left]

/-- A record at the front of a file is a header and as many bytes as it announces. -/
theorem exists_header_of_split? {file rest : Bytes} {r : Record}
    (h : split? file = some (r, rest)) :
    ∃ length checksum : Bytes, length.length = 4 ∧ checksum.length = 4 ∧
      Bytes.toNatLE length = r.payload.length ∧ Bytes.toNatLE checksum = r.checksum ∧
      file = length ++ (checksum ++ (r.payload ++ rest)) := by
  simp only [split?] at h
  split at h
  · next fits =>
    simp only [Option.some.injEq, Prod.mk.injEq] at h
    obtain ⟨rfl, rfl⟩ := h
    -- The header is there in full, so each of its parts has four bytes.
    rw [Bytes.hasSize_iff] at fits
    simp only [headerSize] at fits ⊢
    refine ⟨file.take 4, (file.drop 4).take 4, ?_, ?_, ?_, rfl, ?_⟩
    · simp only [List.length_take]
      omega
    · simp only [List.length_take, List.length_drop]
      omega
    · simp only [List.length_take, List.length_drop]
      omega
    · rw [List.take_append_drop, show (8 : Nat) = 4 + 4 from rfl, ← List.drop_drop,
        List.take_append_drop, List.take_append_drop]
  · simp at h

/-- A record is read back from the front of a file. -/
theorem split?_frame_append {payload : Bytes} (fits : payload.length < UInt32.size)
    (rest : Bytes) : split? (frame payload ++ rest) = some (ofPayload payload, rest) := by
  have length_bound : payload.length < Nat.pow 256 4 := fits
  have checksum_bound : (Digest.Crc32.checksum payload).toNat < Nat.pow 256 4 :=
    (Digest.Crc32.checksum payload).toNat_lt
  -- Both numbers fit into four bytes, so they are read as they were written.
  have announced : Bytes.toNatLE (Bytes.littleEndian 4 payload.length) = payload.length := by
    rw [Bytes.toNatLE_littleEndian, Nat.mod_eq_of_lt length_bound]
  rw [frame, List.append_assoc, List.append_assoc,
    split?_header_append (by simp) (by simp) announced, Bytes.toNatLE_littleEndian,
    Nat.mod_eq_of_lt checksum_bound]
  rfl

/-- There is no record in a part of one. -/
theorem split?_take_frame {payload : Bytes} (fits : payload.length < UInt32.size) {n : Nat}
    (torn : n < (frame payload).length) : split? ((frame payload).take n) = none := by
  have length_bound : payload.length < Nat.pow 256 4 := fits
  rw [length_frame] at torn
  simp only [split?, List.take_take]
  rw [if_neg]
  rw [Bytes.hasSize_iff, List.length_take, length_frame]
  by_cases header : 4 ≤ n
  · -- The length can be read, and what it announces is not all there.
    rw [Nat.min_eq_left header, frame, List.append_assoc,
      List.take_left' (Bytes.length_littleEndian 4 _), Bytes.toNatLE_littleEndian,
      Nat.mod_eq_of_lt length_bound]
    omega
  · simp only [headerSize] at torn ⊢
    omega

/-- What stands after a record does not change how it is read. -/
theorem split?_append {file rest : Bytes} {r : Record} (h : split? file = some (r, rest)) :
    ∃ front, file = front ++ rest ∧ front.length = r.size ∧
      ∀ more, split? (front ++ more) = some (r, more) := by
  obtain ⟨length, checksum, length_width, checksum_width, announced, given, rfl⟩ :=
    exists_header_of_split? h
  refine ⟨length ++ (checksum ++ r.payload), by simp, ?_, fun more => ?_⟩
  · simp only [List.length_append, size, headerSize]
    omega
  · simp only [List.append_assoc]
    rw [split?_header_append length_width checksum_width announced, given]

/-! ### Scans -/

theorem all_of_split? {file rest : Bytes} {r : Record} (h : split? file = some (r, rest)) :
    all file = r :: all rest := by
  rw [all]
  split <;> simp_all

theorem all_eq_nil {file : Bytes} (h : split? file = none) : all file = [] := by
  rw [all]
  split <;> simp_all

@[simp] theorem all_nil : all [] = [] := all_eq_nil (by decide)

/-- A file is its whole records followed by a tail without one, and a scan of the records goes on
    with whatever follows them. -/
theorem exists_scan (file : Bytes) :
    ∃ front tail, file = front ++ tail ∧ front.length = Journal.keptSize file ∧
      split? tail = none ∧ ∀ more, all (front ++ more) = all file ++ all more := by
  simp only [Journal.keptSize]
  fun_induction all file with
  | case1 file r rest h ih =>
    obtain ⟨front, tail, rfl, length, torn, scan⟩ := ih
    -- The first record is read in the same way whatever comes after it.
    obtain ⟨record, rfl, size, read⟩ := split?_append h
    refine ⟨record ++ front, tail, by simp, ?_, torn, fun more => ?_⟩
    · rw [List.length_append, List.foldr_cons, length, size]
    · rw [List.append_assoc, all_of_split? (read _), scan, List.cons_append]
  | case2 file h =>
    exact ⟨[], file, rfl, rfl, h, fun more => rfl⟩

end Record

end LargeFiles.Metadata
