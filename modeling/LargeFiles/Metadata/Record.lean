import LargeFiles.Metadata.Table
import LargeFiles.Digest.Crc32

/-!
# Journal records

The form in which one metadata entry is kept in a file.  The payload holds the table, the key and
the value, each text after its length; a record is the payload after a header of its length and
its CRC-32.  All numbers are little-endian.

`Entry.payload` and `Entry.ofPayload?` are the codec of an entry, `Record.frame` and
`Record.split?` that of a record.
-/

namespace LargeFiles.Metadata

/-- One value with the table and the key it is kept under. -/
structure Entry where
  key : Key
  value : Value
  deriving DecidableEq, Repr

namespace Entry

/-! ### Payloads -/

/-- The number of bytes of a text, in eight bytes, and its bytes. -/
def textBytes (s : String) : Bytes :=
  Bytes.littleEndian 8 (Bytes.ofString s).length ++ Bytes.ofString s

/-- The kind of a value, in four bytes, and the value. -/
def valueBytes : Value → Bytes
  | .text s => Bytes.littleEndian 4 0 ++ textBytes s
  | .number n => Bytes.littleEndian 4 1 ++ Bytes.littleEndian 8 n.toNat

/-- The payload of an entry. -/
def payload (e : Entry) : Bytes :=
  textBytes e.key.table ++ textBytes e.key.key ++ valueBytes e.value

/-- Cuts off the first `n` bytes, if there are so many. -/
def take? (n : Nat) (b : Bytes) : Option (Bytes × Bytes) :=
  if n ≤ b.length then some (b.take n, b.drop n) else none

/-- Takes a number of the given width off the front. -/
def takeNumber? (width : Nat) (b : Bytes) : Option (Nat × Bytes) :=
  (take? width b).map fun (number, rest) => (Bytes.toNatLE number, rest)

/-- Takes a text off the front. -/
def takeText? (b : Bytes) : Option (String × Bytes) := do
  let (length, rest) ← takeNumber? 8 b
  let (bytes, rest) ← take? length rest
  return (← Bytes.toString? bytes, rest)

/-- Takes a value off the front. -/
def takeValue? (b : Bytes) : Option (Value × Bytes) := do
  let (kind, rest) ← takeNumber? 4 b
  match kind with
  | 0 => (takeText? rest).map fun (s, rest) => (.text s, rest)
  | 1 => (takeNumber? 8 rest).map fun (n, rest) => (.number (UInt64.ofNat n), rest)
  | _ => none

/-- The entry that a payload begins with.  Bytes after it are not looked at. -/
def ofPayload? (b : Bytes) : Option Entry := do
  let (table, rest) ← takeText? b
  let (key, rest) ← takeText? rest
  let (value, _) ← takeValue? rest
  return ⟨⟨table, key⟩, value⟩

end Entry

/-- A record as found in a file: the checksum that its header gives, and its payload. -/
structure Record where
  checksum : Nat
  payload : Bytes
  deriving DecidableEq, Repr

namespace Record

/-- The number of bytes of a header. -/
def headerSize : Nat := 8

/-- The record of a payload: its length in four bytes, its checksum, and the payload. -/
def frame (payload : Bytes) : Bytes :=
  Bytes.littleEndian 4 payload.length ++
    Bytes.littleEndian 4 (Digest.Crc32.checksum payload).toNat ++ payload

/-- The number of bytes of a record. -/
def size (r : Record) : Nat := headerSize + r.payload.length

/-- The record that a file begins with, and the rest, if a whole record is there. -/
def split? (file : Bytes) : Option (Record × Bytes) :=
  let length := Bytes.toNatLE (file.take 4)
  if file.hasSize (headerSize + length) then
    let body := file.drop headerSize
    -- The checksum stands right after the length.
    some (⟨Bytes.toNatLE ((file.drop 4).take 4), body.take length⟩, body.drop length)
  else none

theorem length_of_split? {file rest : Bytes} {r : Record} (h : split? file = some (r, rest)) :
    file.length = r.size + rest.length := by
  simp only [split?] at h
  split at h
  · next fits =>
    simp only [Option.some.injEq, Prod.mk.injEq] at h
    obtain ⟨rfl, rfl⟩ := h
    rw [Bytes.hasSize_iff] at fits
    simp only [size, headerSize, List.length_take, List.length_drop] at *
    omega
  · simp at h

/-- The entry of a record whose checksum is right and whose payload is one of an entry. -/
def entry? (r : Record) : Option Entry :=
  if (Digest.Crc32.checksum r.payload).toNat = r.checksum then Entry.ofPayload? r.payload
  else none

/-- The whole records at the front of a file. -/
def all (file : Bytes) : List Record :=
  match _h : split? file with
  | some (r, rest) => r :: all rest
  | none => []
termination_by file.length
decreasing_by
  have := length_of_split? _h
  simp only [size, headerSize] at this
  omega

end Record

end LargeFiles.Metadata
