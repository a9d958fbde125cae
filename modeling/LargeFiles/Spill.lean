import LargeFiles.Bytes

/-!
# Spill buffers

Content is gathered in memory until it would grow past a threshold, and in a temporary file from
then on.  The finished content can be read any number of times from its start.

A file is written and read through a handle, which stands somewhere in it.  That a buffer writes
on at the end of its file, and that it has counted its bytes, are proof fields, so the view of what
was written needs no hypothesis:

* `Buffer.content_write`  what was written before goes first, wherever it is kept;
* `Buffer.bytes_finish`   the finished content is what was written;
* `Content.size_eq`       its size is that of its bytes;
* `Content.read_eq`, `Content.drain_eq`  what is read is the whole of it.
-/

namespace LargeFiles.Spill

/-- Where bytes are kept. -/
inductive Place
  | memory
  | file
  deriving DecidableEq, Repr

/-! ### Files -/

/-- An open file: what is in it, and where its handle stands. -/
structure File where
  bytes : Bytes
  position : Nat
  within : position ≤ bytes.length
  deriving DecidableEq

namespace File

/-- A new file. -/
def empty : File := ⟨[], 0, Nat.le_refl 0⟩

/-- Writes where the handle stands, over what is there, and leaves the handle behind it. -/
def write (file : File) (data : Bytes) : File where
  bytes := file.bytes.take file.position ++ data ++ file.bytes.drop (file.position + data.length)
  position := file.position + data.length
  within := by
    have := file.within
    simp only [List.length_append, List.length_take, List.length_drop]
    omega

/-- A second handle on the file, which stands at its start. -/
def reopen (file : File) : File := ⟨file.bytes, 0, Nat.zero_le _⟩

/-- The same handle, moved back to the start. -/
def rewind (file : File) : File := { file with position := 0, within := Nat.zero_le _ }

/-- What is read from where the handle stands. -/
def rest (file : File) : Bytes := file.bytes.drop file.position

/-- The handle has come to the end. -/
def AtEnd (file : File) : Prop := file.position = file.bytes.length

variable {file : File}

theorem atEnd_empty : empty.AtEnd := rfl

/-- At the end there is nothing to write over. -/
theorem AtEnd.bytes_write (h : file.AtEnd) (data : Bytes) :
    (file.write data).bytes = file.bytes ++ data := by
  have same : file.position = file.bytes.length := h
  show file.bytes.take file.position ++ data ++ file.bytes.drop (file.position + data.length) = _
  rw [same, List.take_length, List.drop_eq_nil_of_le (Nat.le_add_right _ _), List.append_nil]

theorem AtEnd.write (h : file.AtEnd) (data : Bytes) : (file.write data).AtEnd := by
  rw [AtEnd, h.bytes_write, List.length_append]
  exact congrArg (· + data.length) h

@[simp] theorem rest_reopen (file : File) : file.reopen.rest = file.bytes := rfl

@[simp] theorem rest_rewind (file : File) : file.rewind.rest = file.bytes := rfl

end File

/-! ### Sinks -/

/-- What has been written: in memory, or in a file that is written on at its end. -/
inductive Sink
  | memory (bytes : Bytes)
  | file (file : File) (atEnd : file.AtEnd)
  deriving DecidableEq

namespace Sink

/-- Where the bytes are. -/
def place : Sink → Place
  | memory _ => .memory
  | file _ _ => .file

/-- The bytes that have been written. -/
def content : Sink → Bytes
  | memory bytes => bytes
  | file kept _ => kept.bytes

/-- Appends some bytes.  If they do not fit in memory all bytes move to a file. -/
def write (threshold : UInt64) (data : Bytes) : Sink → Sink
  | memory bytes =>
    if bytes.length + data.length ≤ threshold.toNat then memory (bytes ++ data)
    else
      -- The file starts with what was in memory.
      file ((File.empty.write bytes).write data) ((File.atEnd_empty.write bytes).write data)
  | file kept atEnd => file (kept.write data) (atEnd.write data)

theorem content_write (threshold : UInt64) (data : Bytes) (sink : Sink) :
    (sink.write threshold data).content = sink.content ++ data := by
  cases sink with
  | memory bytes =>
    rw [write]
    split
    · rfl
    · exact ((File.atEnd_empty.write bytes).bytes_write data).trans
        (congrArg (· ++ data) (File.atEnd_empty.bytes_write bytes))
  | file kept atEnd => exact atEnd.bytes_write data

end Sink

/-! ### Buffers -/

/-- What has been written so far, and how much. -/
structure Buffer where
  threshold : UInt64
  sink : Sink
  /-- The number of bytes written. -/
  size : Nat
  counted : size = sink.content.length
  deriving DecidableEq

/-- Finished content.  That of a file goes with its size. -/
inductive Content
  | memory (bytes : Bytes)
  | file (file : File) (size : Nat) (counted : size = file.bytes.length)
  deriving DecidableEq

namespace Buffer

/-- A buffer that keeps at most `threshold` bytes in memory. -/
def empty (threshold : UInt64) : Buffer := ⟨threshold, .memory [], 0, rfl⟩

/-- Appends some bytes. -/
def write (buffer : Buffer) (data : Bytes) : Buffer where
  threshold := buffer.threshold
  sink := buffer.sink.write buffer.threshold data
  size := buffer.size + data.length
  counted := by rw [Sink.content_write, List.length_append, buffer.counted]

/-- The bytes that have been written. -/
def content (buffer : Buffer) : Bytes := buffer.sink.content

/-- Whether nothing has been written. -/
def isEmpty (buffer : Buffer) : Bool := buffer.size == 0

/-- Whether the bytes are kept in a file. -/
def isSpilled (buffer : Buffer) : Bool := buffer.sink.place == .file

/-- Ends the writing. -/
def finish : Buffer → Content
  | ⟨_, .memory bytes, _, _⟩ => .memory bytes
  | ⟨_, .file kept _, size, counted⟩ => .file kept size counted

@[simp] theorem content_empty (threshold : UInt64) : (empty threshold).content = [] := rfl

@[simp] theorem content_write (buffer : Buffer) (data : Bytes) :
    (buffer.write data).content = buffer.content ++ data :=
  Sink.content_write buffer.threshold data buffer.sink

@[simp] theorem threshold_write (buffer : Buffer) (data : Bytes) :
    (buffer.write data).threshold = buffer.threshold := rfl

@[simp] theorem size_write (buffer : Buffer) (data : Bytes) :
    (buffer.write data).size = buffer.size + data.length := rfl

end Buffer

/-! ### Finished content -/

namespace Content

/-- Where the bytes are kept. -/
def place : Content → Place
  | memory _ => .memory
  | file _ _ _ => .file

/-- The bytes. -/
def bytes : Content → Bytes
  | memory bytes => bytes
  | file kept _ _ => kept.bytes

/-- The number of bytes. -/
def size : Content → Nat
  | memory bytes => bytes.length
  | file _ size _ => size

/-- Whether there is no byte. -/
def isEmpty (content : Content) : Bool := content.size == 0

/-- What a fresh reading delivers.  The content stays as it is. -/
def read : Content → Bytes
  | memory bytes => bytes
  | file kept _ _ => kept.reopen.rest

/-- What is delivered when the content is used up: a file is read through the handle that it was
    written through. -/
def drain : Content → Bytes
  | memory bytes => bytes
  | file kept _ _ => kept.rewind.rest

theorem size_eq (content : Content) : content.size = content.bytes.length := by
  cases content with
  | memory bytes => rfl
  | file kept size counted => exact counted

@[simp] theorem read_eq (content : Content) : content.read = content.bytes := by
  cases content <;> rfl

@[simp] theorem drain_eq (content : Content) : content.drain = content.bytes := by
  cases content <;> rfl

end Content

namespace Buffer

@[simp] theorem bytes_finish (buffer : Buffer) : buffer.finish.bytes = buffer.content := by
  rcases buffer with ⟨threshold, _ | _, size, counted⟩ <;> rfl

@[simp] theorem place_finish (buffer : Buffer) : buffer.finish.place = buffer.sink.place := by
  rcases buffer with ⟨threshold, _ | _, size, counted⟩ <;> rfl

end Buffer

end LargeFiles.Spill
