import LargeFiles.Bytes

/-!
# Texts and bytes in order

UTF-8 keeps the order of texts: a text is before another one if its bytes are before those of the
other, where both are compared from the front.

* `utf8EncodeChar_append_lt`   the bytes of a character decide before anything that follows;
* `ofString_lt_iff`            the order of texts is that of their bytes.
-/

namespace LargeFiles.Bytes

/-- What decides between two lists of bytes that are given by numbers. -/
theorem ofNat_cons_lt {m n : Nat} {rest rest' : Bytes} (bound : n < 256) (first : m ≤ n)
    (later : m = n → rest < rest') : UInt8.ofNat m :: rest < UInt8.ofNat n :: rest' := by
  rw [List.cons_lt_cons_iff]
  rcases Nat.lt_or_eq_of_le first with less | rfl
  · left
    rw [UInt8.lt_iff_toNat_lt, UInt8.toNat_ofNat_of_lt' (Nat.lt_trans less bound),
      UInt8.toNat_ofNat_of_lt' bound]
    exact less
  · exact .inr ⟨rfl, later rfl⟩

/-- The bytes of a character decide, before anything that follows. -/
theorem utf8EncodeChar_append_lt {c d : Char} (less : c < d) (rest rest' : Bytes) :
    String.utf8EncodeChar c ++ rest < String.utf8EncodeChar d ++ rest' := by
  have values : c.val.toNat < d.val.toNat := UInt32.lt_iff_toNat_lt.1 less
  -- Code points end at 10FFFF, so that four bytes are enough.
  have bound : d.val.toNat < 1114112 := by
    have := d.valid
    unfold UInt32.isValidChar Nat.isValidChar at this
    omega
  unfold String.utf8EncodeChar
  dsimp only
  generalize c.val.toNat = v at *
  generalize d.val.toNat = w at *
  -- A character with more bytes has the greater first byte.  Of two with as many, the first digit
  -- to the base 64 that differs decides.
  split
  · split
    · exact ofNat_cons_lt (by omega) (by omega) fun _ => by omega
    · split
      · exact ofNat_cons_lt (by omega) (by omega) fun _ => by omega
      · split <;> exact ofNat_cons_lt (by omega) (by omega) fun _ => by omega
  · rw [if_neg (by omega : ¬w ≤ 127)]
    split
    · split
      · exact ofNat_cons_lt (by omega) (by omega) fun _ =>
          ofNat_cons_lt (by omega) (by omega) fun _ => by omega
      · split <;> exact ofNat_cons_lt (by omega) (by omega) fun _ => by omega
    · rw [if_neg (by omega : ¬w ≤ 2047)]
      split
      · split
        · exact ofNat_cons_lt (by omega) (by omega) fun _ =>
            ofNat_cons_lt (by omega) (by omega) fun _ =>
              ofNat_cons_lt (by omega) (by omega) fun _ => by omega
        · exact ofNat_cons_lt (by omega) (by omega) fun _ => by omega
      · rw [if_neg (by omega : ¬w ≤ 65535)]
        exact ofNat_cons_lt (by omega) (by omega) fun _ =>
          ofNat_cons_lt (by omega) (by omega) fun _ =>
            ofNat_cons_lt (by omega) (by omega) fun _ =>
              ofNat_cons_lt (by omega) (by omega) fun _ => by omega

/-- The bytes of a text are before those of any text after it. -/
theorem flatMap_utf8EncodeChar_lt {cs ds : List Char} (less : cs < ds) :
    cs.flatMap String.utf8EncodeChar < ds.flatMap String.utf8EncodeChar := by
  induction less with
  | nil =>
    rename_i d ds
    rw [List.flatMap_cons]
    cases encoded : String.utf8EncodeChar d with
    | nil => exact absurd encoded String.utf8EncodeChar_ne_nil
    | cons => exact .nil
  | rel first => exact utf8EncodeChar_append_lt first _ _
  -- Characters that are the same on both sides take the same bytes.
  | cons _ ih =>
    rw [List.flatMap_cons, List.flatMap_cons]
    exact List.append_left_lt ih

/-- Texts are in the order of their bytes. -/
theorem ofString_lt_iff {s t : String} : ofString s < ofString t ↔ s < t := by
  refine ⟨fun bytes => ?_, fun less => flatMap_utf8EncodeChar_lt less⟩
  apply Decidable.byContradiction
  intro notLess
  -- The order of texts is total, so that the other cases contradict the order of the bytes.
  rcases Decidable.em (t < s) with greater | notGreater
  · exact List.lt_asymm bytes (flatMap_utf8EncodeChar_lt greater)
  · have same : s = t := String.le_antisymm notGreater notLess
    exact List.lt_irrefl _ (same ▸ bytes)

/-- What comparing texts finds out is the order of their bytes. -/
theorem compare_eq_lt_iff {s t : String} : compare s t = .lt ↔ ofString s < ofString t :=
  compareOfLessAndEq_eq_lt.trans ofString_lt_iff.symm

end LargeFiles.Bytes
