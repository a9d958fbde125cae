/-!
# Byte sequences

File contents, journal records and message bodies are lists of bytes.  This file fixes the
type and its two encodings of text and of fixed-width numbers:

* `Bytes.ofString` / `Bytes.toString?`   the UTF-8 encoding of a text, and its partial inverse;
* `Bytes.toStringLossy`                  decoding that replaces ill-formed parts by U+FFFD;
* `Bytes.littleEndian` / `Bytes.toNatLE` fixed-width numbers, least significant byte first.

The round trips are `toNatLE_littleEndian` and `littleEndian_toNatLE`.
-/

namespace LargeFiles

/-- A finite sequence of bytes. -/
abbrev Bytes := List UInt8

namespace Bytes

/-! ### Text -/

/-- The UTF-8 encoding of a text. -/
def ofString (s : String) : Bytes :=
  s.toList.flatMap String.utf8EncodeChar

/-- The text that the bytes encode in UTF-8, if they encode one. -/
def toString? (b : Bytes) : Option String :=
  String.fromUTF8? b.toByteArray

@[simp] theorem ofString_empty : ofString "" = [] := by
  simp [ofString]

@[simp] theorem ofString_append (s t : String) :
    ofString (s ++ t) = ofString s ++ ofString t := by
  simp [ofString]

/-- A continuation byte of a multi-byte UTF-8 sequence. -/
def isContinuation (b : UInt8) : Bool := 0x80 ≤ b && b ≤ 0xBF

/-- The bytes that may follow a given leading byte in well-formed UTF-8: the range of the
    second byte and the number of continuation bytes after it. -/
def followers (lead : UInt8) : Option ((UInt8 × UInt8) × Nat) :=
  if 0xC2 ≤ lead && lead ≤ 0xDF then some ((0x80, 0xBF), 0)
  else if lead == 0xE0 then some ((0xA0, 0xBF), 1)
  else if lead == 0xED then some ((0x80, 0x9F), 1)
  else if 0xE1 ≤ lead && lead ≤ 0xEF then some ((0x80, 0xBF), 1)
  else if lead == 0xF0 then some ((0x90, 0xBF), 2)
  else if 0xF1 ≤ lead && lead ≤ 0xF3 then some ((0x80, 0xBF), 2)
  else if lead == 0xF4 then some ((0x80, 0x8F), 2)
  else none

/-- The number of bytes, after the leading byte, of the longest initial part of a well-formed
    sequence, and whether that part is a whole sequence. -/
def sequenceTail (lead : UInt8) (rest : Bytes) : Nat × Bool :=
  if lead < 0x80 then (0, true)
  else
    match followers lead, rest with
    | some ((low, high), more), second :: rest =>
      if low ≤ second && second ≤ high then
        let run := (rest.take more).takeWhile isContinuation
        (1 + run.length, run.length == more)
      else (0, false)
    | _, _ => (0, false)

/-- Replaces each maximal ill-formed part by the encoding of U+FFFD. -/
def repairUtf8 : Bytes → Bytes
  | [] => []
  | lead :: rest =>
    let (n, whole) := sequenceTail lead rest
    (if whole then lead :: rest.take n else [0xEF, 0xBF, 0xBD]) ++ repairUtf8 (rest.drop n)
termination_by b => b.length
decreasing_by simp only [List.length_cons, List.length_drop]; omega

/-- The text that the bytes encode, with U+FFFD for each maximal ill-formed part. -/
def toStringLossy (b : Bytes) : String :=
  (toString? (repairUtf8 b)).getD ""

/-! ### Fixed-width numbers -/

/-- The `width` low-order bytes of a number, least significant first. -/
def littleEndian : (width : Nat) → Nat → Bytes
  | 0, _ => []
  | width + 1, n => UInt8.ofNat n :: littleEndian width (n / 256)

/-- The number written by its bytes, least significant first. -/
def toNatLE : Bytes → Nat
  | [] => 0
  | b :: rest => b.toNat + 256 * toNatLE rest

@[simp] theorem length_littleEndian (width n : Nat) : (littleEndian width n).length = width := by
  induction width generalizing n with
  | zero => rfl
  | succ width ih => simp [littleEndian, ih]

/-- Reading a fixed-width number back gives it modulo the range of its width. -/
theorem toNatLE_littleEndian (width n : Nat) :
    toNatLE (littleEndian width n) = n % Nat.pow 256 width := by
  induction width generalizing n with
  | zero => simp [littleEndian, toNatLE, Nat.mod_one]
  | succ width ih =>
    have byte : (UInt8.ofNat n).toNat = n % 256 := by simp
    rw [littleEndian, toNatLE, ih, byte, Nat.pow_eq, Nat.pow_eq, Nat.pow_succ', Nat.mod_mul]

/-- Writing the number that some bytes denote gives the bytes back. -/
theorem littleEndian_toNatLE (b : Bytes) : littleEndian b.length (toNatLE b) = b := by
  induction b with
  | nil => rfl
  | cons x rest ih =>
    have hx := x.toNat_lt
    simp only [List.length_cons, littleEndian, toNatLE]
    rw [show (x.toNat + 256 * toNatLE rest) / 256 = toNatLE rest by omega, ih]
    congr 1
    apply UInt8.toNat_inj.1
    rw [UInt8.toNat_ofNat']
    omega

/-- Whether there are at least `n` bytes.  No more than these are looked at. -/
def hasSize (b : Bytes) (n : Nat) : Bool := (b.take n).length == n

theorem hasSize_iff {b : Bytes} {n : Nat} : b.hasSize n = true ↔ n ≤ b.length := by
  simp only [hasSize, List.length_take, beq_iff_eq]
  omega

theorem toNatLE_lt (b : Bytes) : toNatLE b < Nat.pow 256 b.length := by
  induction b with
  | nil => simp [toNatLE]
  | cons x rest ih =>
    have hx := x.toNat_lt
    simp only [List.length_cons, toNatLE, Nat.pow_eq, Nat.pow_succ] at ih ⊢
    omega

end Bytes

end LargeFiles
