import LargeFiles.Spill

/-!
# What a spill buffer shows

However some bytes are cut into pieces, a buffer that they are written to shows their number, and
moves them to a file once they are more than fit in memory: not before, and never back.  The
finished content delivers all of them.  So nothing that can be seen tells how they were cut.

* `Buffer.Placed.write`        one write keeps the rule by which bytes are placed;
* `Buffer.placed_foldl_write`  and so do any number of them;
* `Buffer.eq_of_content`       the bytes tell what the buffer is;
* `pieces_gathered`            what a buffer and its finished content show after some writes.
-/

namespace LargeFiles.Spill

/-- A handle at the end of a file stands where its bytes tell. -/
theorem File.AtEnd.eq_of_bytes {file other : File} (h : file.AtEnd) (h' : other.AtEnd)
    (same : file.bytes = other.bytes) : file = other := by
  have position : file.position = other.position := calc
    file.position = file.bytes.length := h
    _ = other.bytes.length := by rw [same]
    _ = other.position := h'.symm
  cases file
  cases other
  cases same
  cases position
  rfl

/-- A sink is determined by its place and its content. -/
theorem Sink.eq_of_content {sink other : Sink} (place : sink.place = other.place)
    (content : sink.content = other.content) : sink = other := by
  cases sink with
  | memory bytes =>
    cases other with
    | memory bytes' =>
      cases content
      rfl
    | file => cases place
  | file kept atEnd =>
    cases other with
    | memory => cases place
    | file kept' atEnd' =>
      -- A file is at its end, so its position is the length of its content.
      cases atEnd.eq_of_bytes atEnd' content
      rfl

namespace Buffer

variable {buffer other : Buffer}

/-- The bytes of all pieces are gathered in their order. -/
theorem content_foldl_write (buffer : Buffer) (pieces : List Bytes) :
    (pieces.foldl write buffer).content = buffer.content ++ pieces.flatten := by
  induction pieces generalizing buffer with
  | nil => simp
  | cons piece rest ih =>
    rw [List.foldl_cons, ih, content_write, List.append_assoc, List.flatten_cons]

/-- Writing does not change the threshold. -/
theorem threshold_foldl_write (buffer : Buffer) (pieces : List Bytes) :
    (pieces.foldl write buffer).threshold = buffer.threshold := by
  induction pieces generalizing buffer with
  | nil => rfl
  | cons piece rest ih => rw [List.foldl_cons, ih, threshold_write]

theorem size_eq (buffer : Buffer) : buffer.size = buffer.content.length := buffer.counted

/-! ### Where bytes are placed -/

/-- The bytes are in a file if they are more than fit in memory, and only then. -/
def Placed (buffer : Buffer) : Prop :=
  buffer.sink.place = .file ↔ buffer.threshold.toNat < buffer.size

/-- A buffer is in a file exactly if it holds more than the threshold. -/
theorem Placed.place_eq_file_iff (h : buffer.Placed) :
    buffer.sink.place = .file ↔ buffer.threshold.toNat < buffer.content.length := by
  rw [← size_eq]
  exact h

theorem placed_empty (threshold : UInt64) : (empty threshold).Placed := by
  simp [Placed, empty, Sink.place]

/-- A write keeps the rule: what is in a file stays there, and what is in memory moves when the
    new bytes do not fit beside it. -/
theorem Placed.write (h : buffer.Placed) (data : Bytes) : (buffer.write data).Placed := by
  obtain ⟨threshold, sink, size, counted⟩ := buffer
  show (sink.write threshold data).place = .file ↔ threshold.toNat < size + data.length
  cases sink with
  | memory bytes =>
    have counted : size = bytes.length := counted
    rw [Sink.write]
    split
    · simp only [Sink.place, reduceCtorEq, false_iff]
      omega
    · simp only [Sink.place, true_iff]
      omega
  | file kept atEnd =>
    have grown : threshold.toNat < size := h.1 rfl
    simp only [Sink.write, Sink.place, true_iff]
    omega

theorem placed_foldl_write (h : buffer.Placed) (pieces : List Bytes) :
    (pieces.foldl Buffer.write buffer).Placed := by
  induction pieces generalizing buffer with
  | nil => exact h
  | cons piece rest ih => exact ih (h.write piece)

/-- A buffer that places its bytes by the rule is what its threshold and its bytes make of it. -/
theorem eq_of_content (h : buffer.Placed) (h' : other.Placed)
    (threshold : buffer.threshold = other.threshold) (content : buffer.content = other.content) :
    buffer = other := by
  have size : buffer.size = other.size := by rw [size_eq, size_eq, content]
  have inFile : buffer.sink.place = .file ↔ other.sink.place = .file := by
    rw [h.place_eq_file_iff, h'.place_eq_file_iff, threshold, content]
  have place : buffer.sink.place = other.sink.place := by
    revert inFile
    cases buffer.sink.place <;> cases other.sink.place <;> simp
  have sink := Sink.eq_of_content place content
  -- All parts that are not proofs are the same.
  cases buffer
  cases other
  cases threshold
  cases sink
  cases size
  rfl

/-- What a buffer shows that some bytes were written to. -/
structure Shows (buffer : Buffer) (threshold : UInt64) (bytes : Bytes) : Prop where
  size : buffer.size = bytes.length
  isEmpty : buffer.isEmpty = true ↔ bytes.length = 0
  isSpilled : buffer.isSpilled = true ↔ threshold.toNat < bytes.length

theorem Placed.shows (h : buffer.Placed) : buffer.Shows buffer.threshold buffer.content where
  size := buffer.size_eq
  isEmpty := by rw [isEmpty, beq_iff_eq, size_eq]
  isSpilled := by rw [isSpilled, beq_iff_eq, h.place_eq_file_iff]

end Buffer

/-! ### Finished content -/

/-- What a finished content shows and delivers that consists of some bytes: in fresh readings, of
    which there may be any number before the content is used up, and in this last one. -/
structure Content.Delivers (content : Content) (threshold : UInt64) (bytes : Bytes) : Prop where
  place : content.place = .file ↔ threshold.toNat < bytes.length
  size : content.size = bytes.length
  isEmpty : content.isEmpty = true ↔ bytes.length = 0
  read : content.read = bytes
  drain : content.drain = bytes

theorem Buffer.Placed.delivers {buffer : Buffer} (h : buffer.Placed) :
    buffer.finish.Delivers buffer.threshold buffer.content where
  place := by rw [Buffer.place_finish, h.place_eq_file_iff]
  size := by rw [Content.size_eq, Buffer.bytes_finish]
  isEmpty := by rw [Content.isEmpty, beq_iff_eq, Content.size_eq, Buffer.bytes_finish]
  read := by rw [Content.read_eq, Buffer.bytes_finish]
  drain := by rw [Content.drain_eq, Buffer.bytes_finish]

/-- Bytes that are written in any pieces, empty ones among them, are counted, are in a file exactly
    if they are more than fit in memory, and are delivered as a whole once the writing has ended.
    If they are cut into other pieces, the buffer is the same in the end. -/
theorem pieces_gathered (threshold : UInt64) (pieces : List Bytes) :
    let buffer := pieces.foldl Buffer.write (.empty threshold)
    buffer.Shows threshold pieces.flatten ∧ buffer.finish.Delivers threshold pieces.flatten ∧
      ∀ others : List Bytes, others.flatten = pieces.flatten →
        others.foldl Buffer.write (.empty threshold) = buffer := by
  intro buffer
  have gathered (pieces : List Bytes) :
      (pieces.foldl Buffer.write (.empty threshold)).content = pieces.flatten := by
    rw [Buffer.content_foldl_write, Buffer.content_empty, List.nil_append]
  have kept (pieces : List Bytes) :
      (pieces.foldl Buffer.write (.empty threshold)).threshold = threshold :=
    Buffer.threshold_foldl_write _ pieces
  have placed (pieces : List Bytes) :=
    Buffer.placed_foldl_write (Buffer.placed_empty threshold) pieces
  refine ⟨?_, ?_, fun others same => ?_⟩
  · have shown := (placed pieces).shows
    rwa [kept, gathered] at shown
  · have delivered := (placed pieces).delivers
    rwa [kept, gathered] at delivered
  · refine Buffer.eq_of_content (placed others) (placed pieces) ?_ ?_
    · rw [kept, kept]
    · rw [gathered, gathered, same]

/-- Two bytes fit in two places; an empty piece does not make them more, a third byte does, in
    whatever piece it comes. -/
theorem pieces_gathered_cut :
    let pieces : List Bytes := [[1], [2], [], [3]]
    let buffer := pieces.foldl Buffer.write (.empty 2)
    (pieces.take 3).foldl Buffer.write (.empty 2) ≠ buffer ∧
    ((pieces.take 3).foldl Buffer.write (.empty 2)).isSpilled = false ∧
    buffer.isSpilled = true ∧ buffer.finish.drain = [1, 2, 3] ∧
    Buffer.write (.empty 2) [1, 2, 3] = buffer := by
  intro pieces buffer
  obtain ⟨shown, delivered, same⟩ := pieces_gathered 2 pieces
  exact ⟨by decide, by decide, shown.isSpilled.2 (by decide), delivered.drain,
    same [[1, 2, 3]] rfl⟩

end LargeFiles.Spill
