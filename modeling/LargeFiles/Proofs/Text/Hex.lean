import LargeFiles.Digest.Sha256
import LargeFiles.ObjectName
import LargeFiles.Pointer

/-!
# Hexadecimal text

The lower-case hexadecimal text of some bytes has two digits for each byte and determines them.

* `length_encode`, `encode_injective`   the text has twice the length and determines the bytes;
* `isContentHash_encode`                that of a SHA-256 digest is the hash of a content;
* `ObjectName.toHex_injective`          different objects have different keys.
-/

namespace LargeFiles

namespace Text.Hex

/-! ### Digits -/

/-- A lower-case hexadecimal digit. -/
def isDigit (c : Char) : Bool := c.isDigit || ('a' ≤ c && c ≤ 'f')

theorem isDigit_digit_fin : ∀ k : Fin 16, isDigit (digit (UInt8.ofNat k)) = true := by decide

theorem digit_injective_fin :
    ∀ j k : Fin 16, digit (UInt8.ofNat j) = digit (UInt8.ofNat k) → j = k := by decide

theorem isDigit_digit {n : UInt8} (lt : n.toNat < 16) : isDigit (digit n) = true := by
  simpa using isDigit_digit_fin ⟨n.toNat, lt⟩

/-- Different numbers have different digits. -/
theorem eq_of_digit_eq {m n : UInt8} (hm : m.toNat < 16) (hn : n.toNat < 16)
    (h : digit m = digit n) : m = n := by
  have := digit_injective_fin ⟨m.toNat, hm⟩ ⟨n.toNat, hn⟩ (by simpa using h)
  exact UInt8.toNat_inj.1 (Fin.mk.inj this)

/-! ### Bytes -/

theorem toNat_high (b : UInt8) : (b >>> 4).toNat = b.toNat / 16 := by
  simp [UInt8.toNat_shiftRight, Nat.shiftRight_eq_div_pow]

theorem toNat_low (b : UInt8) : (b &&& 15).toNat = b.toNat % 16 := by
  rw [UInt8.toNat_and]
  exact Nat.and_two_pow_sub_one_eq_mod b.toNat 4

/-- A byte is written in digits. -/
theorem isDigit_of_mem_ofByte {b : UInt8} {c : Char} (h : c ∈ ofByte b) : isDigit c = true := by
  have := b.toNat_lt
  simp only [ofByte, List.mem_cons, List.not_mem_nil, or_false] at h
  -- Each half of a byte is less than sixteen.
  rcases h with rfl | rfl
  · apply isDigit_digit
    rw [toNat_high]
    omega
  · apply isDigit_digit
    rw [toNat_low]
    omega

/-- A byte is determined by its two digits. -/
theorem ofByte_injective : Function.Injective ofByte := by
  intro a b h
  have ha := a.toNat_lt
  have hb := b.toNat_lt
  simp only [ofByte, List.cons.injEq, and_true] at h
  -- The two halves are a quotient and a remainder, which give the byte back.
  have high := congrArg UInt8.toNat (eq_of_digit_eq (by rw [toNat_high]; omega)
    (by rw [toNat_high]; omega) h.1)
  have low := congrArg UInt8.toNat (eq_of_digit_eq (by rw [toNat_low]; omega)
    (by rw [toNat_low]; omega) h.2)
  rw [toNat_high, toNat_high] at high
  rw [toNat_low, toNat_low] at low
  apply UInt8.toNat_inj.1
  omega

/-! ### Texts -/

@[simp] theorem toList_encode (bytes : Bytes) : (encode bytes).toList = bytes.flatMap ofByte := by
  simp [encode]

/-- Each byte is written in two digits. -/
theorem length_encode (bytes : Bytes) : (encode bytes).toList.length = 2 * bytes.length := by
  rw [toList_encode]
  induction bytes with
  | nil => rfl
  | cons b rest ih =>
    rw [List.flatMap_cons, List.length_append, ih]
    simp only [ofByte, List.length_cons, List.length_nil]
    omega

/-- Bytes are written in digits. -/
theorem isDigit_of_mem_encode {bytes : Bytes} {c : Char} (h : c ∈ (encode bytes).toList) :
    isDigit c = true := by
  rw [toList_encode, List.mem_flatMap] at h
  obtain ⟨b, -, mem⟩ := h
  exact isDigit_of_mem_ofByte mem

/-- Bytes are determined by their digits. -/
theorem flatMap_ofByte_injective :
    Function.Injective fun bytes : Bytes => bytes.flatMap ofByte := by
  intro a b h
  simp only at h
  induction a generalizing b with
  | nil =>
    cases b with
    | nil => rfl
    | cons y ys => simp [ofByte] at h
  | cons x xs ih =>
    cases b with
    | nil => simp [ofByte] at h
    | cons y ys =>
      rw [List.flatMap_cons, List.flatMap_cons] at h
      -- Each byte has two digits, so the digits of the first one can be told from the others.
      obtain ⟨first, rest⟩ := List.append_inj h (by simp [ofByte])
      rw [ofByte_injective first, ih rest]

/-- The text determines the bytes. -/
theorem encode_injective : Function.Injective encode := by
  intro a b h
  apply flatMap_ofByte_injective
  simp only [← toList_encode, h]

end Text.Hex

/-- The text of a SHA-256 digest is the hash of a content. -/
theorem isContentHash_encode {digest : Bytes} (length : digest.length = 32) :
    isContentHash (Text.Hex.encode digest) = true := by
  rw [isContentHash, Text.Hex.length_encode, length, Bool.and_eq_true, List.all_eq_true]
  exact ⟨rfl, fun c mem => Text.Hex.isDigit_of_mem_encode mem⟩

/-- Different objects have different keys. -/
theorem ObjectName.toHex_injective : Function.Injective ObjectName.toHex := by
  intro m n h
  exact ObjectName.ext (Text.Hex.encode_injective h)

end LargeFiles
