import LargeFiles.Digest.Crc32

/-!
# What a CRC-32 notices

The shift register loses nothing: the register before a step can be told from the one after it,
and the byte that was shifted in from the two.  A change of one byte is therefore seen in the
checksum, wherever it is and however much follows it.

* `shiftBit_injective`       a step of the register can be undone;
* `foldl_feed_injective`     so can the shifting of any bytes;
* `checksum_ne_of_byte_ne`   contents that differ in one byte have different checksums.
-/

namespace LargeFiles.Digest.Crc32

/-! ### Steps of the register -/

/-- The lowest bit tells odd registers from even ones. -/
theorem and_one_iff (register : UInt32) : register &&& 1 = 1 ↔ register.toNat % 2 = 1 := by
  rw [← UInt32.toNat_inj, UInt32.toNat_and]
  show register.toNat &&& 1 = 1 ↔ _
  rw [Nat.and_one_is_mod]

/-- A shift to the right halves the register. -/
theorem toNat_half (register : UInt32) : (register >>> 1).toNat = register.toNat / 2 := by
  simp [UInt32.toNat_shiftRight, Nat.shiftRight_eq_div_pow]

/-- The top bit of the register after a step is the bit that the step has shifted out. -/
theorem toNat_shiftBit_lt_iff (register : UInt32) :
    (shiftBit register).toNat < 0x80000000 ↔ register.toNat % 2 = 0 := by
  have small := register.toNat_lt
  -- What is shifted has its top bit clear.
  have half := toNat_half register
  rw [shiftBit]
  split
  · next odd =>
    rw [and_one_iff] at odd
    refine iff_of_false (fun lt => ?_) (by omega)
    -- If the top bit of the sum were gone, the polynomial would not have it either.
    have back : (register >>> 1) ^^^ (register >>> 1 ^^^ 0xEDB88320) = (0xEDB88320 : UInt32) := by
      rw [← UInt32.xor_assoc, UInt32.xor_self, UInt32.zero_xor]
    have sum := congrArg UInt32.toNat back
    rw [UInt32.toNat_xor, show (0xEDB88320 : UInt32).toNat = 0xEDB88320 from rfl] at sum
    have := Nat.xor_lt_two_pow (n := 31) (show (register >>> 1).toNat < _ by omega) lt
    omega
  · next even =>
    rw [and_one_iff] at even
    omega

/-- A step of the register can be undone. -/
theorem shiftBit_injective : Function.Injective shiftBit := by
  intro a b h
  have parity := toNat_shiftBit_lt_iff a
  rw [h, toNat_shiftBit_lt_iff] at parity
  -- Both registers shift out the same bit, which tells whether the polynomial was added.
  have halves : a >>> 1 = b >>> 1 := by
    by_cases odd : a.toNat % 2 = 1
    · rw [shiftBit, shiftBit, if_pos ((and_one_iff a).2 odd),
        if_pos ((and_one_iff b).2 (by omega))] at h
      exact (UInt32.xor_left_inj _).1 h
    · rwa [shiftBit, shiftBit, if_neg (mt (and_one_iff a).1 odd),
        if_neg (mt (and_one_iff b).1 (by omega))] at h
  have halves := congrArg UInt32.toNat halves
  rw [toNat_half, toNat_half] at halves
  apply UInt32.toNat_inj.1
  omega

/-- Eight steps of the register can be undone. -/
theorem shiftByte_injective : Function.Injective shiftByte := by
  intro a b h
  simp only [shiftByte, shiftBit_injective.eq_iff] at h
  exact h

/-! ### Bytes -/

/-- Of the registers before a byte no two lead to the same register after it. -/
theorem feed_injective_register (b : UInt8) : Function.Injective fun register => feed register b :=
  fun _ _ h => (UInt32.xor_left_inj _).1 (shiftByte_injective h)

/-- Of the bytes no two lead from one register to the same register. -/
theorem feed_injective_byte (register : UInt32) : Function.Injective (feed register) := by
  intro a b h
  exact UInt8.toUInt32_inj.1 ((UInt32.xor_right_inj _).1 (shiftByte_injective h))

/-- The register before some bytes can be told from the one after them. -/
theorem foldl_feed_injective (data : Bytes) :
    Function.Injective fun register => data.foldl feed register := by
  induction data with
  | nil => exact fun _ _ h => h
  | cons b rest ih => exact fun _ _ h => feed_injective_register b (ih h)

/-- Contents that differ in one byte have different checksums. -/
theorem checksum_ne_of_byte_ne {a b : UInt8} (ne : a ≠ b) (front back : Bytes) :
    checksum (front ++ a :: back) ≠ checksum (front ++ b :: back) := by
  intro h
  have registers := (UInt32.xor_left_inj _).1 h
  -- What follows the two bytes cannot make up for the difference, nor can they themselves.
  rw [List.foldl_append, List.foldl_append] at registers
  exact ne (feed_injective_byte _ (foldl_feed_injective back registers))

end LargeFiles.Digest.Crc32
