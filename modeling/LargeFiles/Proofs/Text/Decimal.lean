import Mathlib.Data.List.Basic
import LargeFiles.Text.Decimal

/-!
# Decimal digits

The characters that decimal numbers are written with.

* `isDigit_iff`      the digits are the ten characters from `0` to `9`;
* `head?_toDigits`   no number but zero starts with a zero;
* `ofNumeral?_eq_some_iff`   which texts are numerals, and of which number.
-/

namespace LargeFiles.Text.Decimal

/-- The decimal digits by their codes. -/
theorem isDigit_iff {c : Char} : c.isDigit = true ↔ 48 ≤ c.toNat ∧ c.toNat ≤ 57 := by
  rw [Char.isDigit, Bool.and_eq_true, decide_eq_true_eq, decide_eq_true_eq, ge_iff_le,
    UInt32.le_iff_toNat_le, UInt32.le_iff_toNat_le]
  rfl

/-- What holds of the ten digits holds of every digit. -/
theorem forall_isDigit {p : Char → Prop} (h : ∀ k : Fin 10, p (Char.ofNat (48 + k))) {c : Char}
    (digit : c.isDigit = true) : p c := by
  have range := isDigit_iff.1 digit
  have one := h ⟨c.toNat - 48, by omega⟩
  rwa [show 48 + (c.toNat - 48) = c.toNat by omega, Char.ofNat_toNat] at one

theorem isDigit_of_mem_toDigits {n : Nat} {c : Char} (mem : c ∈ Nat.toDigits 10 n) :
    c.isDigit = true :=
  Nat.isDigit_of_mem_toDigits (by decide) (by decide) mem

theorem digitChar_ne_zero : ∀ k : Fin 10, k ≠ 0 → Nat.digitChar k ≠ '0' := by decide

/-- The first digit of a number other than zero is not a zero. -/
theorem head?_toDigits {n : Nat} (pos : 0 < n) : (Nat.toDigits 10 n).head? ≠ some '0' := by
  induction n using Nat.strongRecOn with
  | ind n ih =>
    rw [Nat.toDigits_eq_if (by decide)]
    split
    · next below =>
      rw [List.head?_cons, ne_eq, Option.some_inj]
      exact digitChar_ne_zero ⟨n, below⟩ fun zero => Nat.ne_of_gt pos (Fin.mk.inj zero)
    -- The first digit is that of the number without its last digit, which is not zero.
    · next above =>
      rw [List.head?_append_of_ne_nil _ Nat.toDigits_ne_nil]
      exact ih (n / 10) (by omega) (by omega)

/-! ### Numerals -/

/-- The 64-bit number that a text denotes: decimal digits, at least one, after a plus sign or
    none. -/
def Numeral (cs : List Char) (n : UInt64) : Prop :=
  ∃ digits : List Char, (cs = digits ∨ cs = '+' :: digits) ∧ digits ≠ [] ∧
    (∀ c ∈ digits, c.isDigit = true) ∧ Nat.ofDigitChars 10 digits 0 = n.toNat

/-- A number is read from digits only, of which there must be one. -/
theorem ofDigits?_eq_some_iff {cs : List Char} {n : Nat} :
    ofDigits? cs = some n ↔
      cs ≠ [] ∧ (∀ c ∈ cs, c.isDigit = true) ∧ Nat.ofDigitChars 10 cs 0 = n := by
  rw [ofDigits?]
  split
  · next other =>
    refine iff_of_false (Option.some_ne_none n).symm ?_
    rintro ⟨nonempty, all, -⟩
    rw [← List.all_eq_true] at all
    simp [nonempty, all] at other
  -- Otherwise the digits are counted, whatever their number.
  · next decimal =>
    rw [Bool.or_eq_true, not_or, Bool.not_eq_true', Bool.not_eq_false, List.isEmpty_iff,
      List.all_eq_true] at decimal
    rw [Option.some_inj, and_iff_right decimal.1, and_iff_right decimal.2]

/-- A number that is read is told in 64 bits if it fits. -/
theorem fit_eq_some_iff {value : Option Nat} {n : UInt64} :
    (match value with
      | some m => if m < UInt64.size then some (UInt64.ofNat m) else none
      | none => none) = some n ↔ value = some n.toNat := by
  cases value with
  | none => exact iff_of_false (Option.some_ne_none n).symm (Option.some_ne_none n.toNat).symm
  | some m =>
    -- A number that does not fit is not that of any word.
    have bound : n.toNat < UInt64.size := n.toNat_lt
    simp only [Option.ite_none_right_eq_some, Option.some_inj]
    constructor
    · rintro ⟨small, rfl⟩
      exact (UInt64.toNat_ofNat_of_lt small).symm
    · rintro rfl
      exact ⟨bound, UInt64.ofNat_toNat⟩

/-- Only a plus sign may stand before the digits, and the number has to have 64 bits. -/
theorem ofNumeral?_eq_some_iff {cs : List Char} {n : UInt64} :
    ofNumeral? cs = some n ↔ Numeral cs n := by
  have notSign {digits : List Char} (all : ∀ c ∈ digits, c.isDigit = true) (rest : List Char) :
      digits ≠ '+' :: rest := by
    rintro rfl
    cases all '+' List.mem_cons_self
  refine fit_eq_some_iff.trans ?_
  rw [ofDigits?_eq_some_iff]
  -- A sign is no digit, so it can be told from the numeral whether there is one.
  split
  · next rest =>
    constructor
    · exact fun h => ⟨rest, .inr rfl, h⟩
    · rintro ⟨digits, rfl | same, h⟩
      · exact absurd rfl (notSign h.2.1 rest)
      · cases same
        exact h
  · next unsigned =>
    constructor
    · exact fun h => ⟨cs, .inl rfl, h⟩
    · rintro ⟨digits, rfl | rfl, h⟩
      · exact h
      · exact (unsigned digits rfl).elim

/-- The digits of a 64-bit number denote it. -/
theorem ofNumeral?_digits (n : UInt64) : ofNumeral? (digits n.toNat) = some n := by
  have decimal := ofDigits?_eq_some_iff.1 (ofDigits?_digits n.toNat)
  exact ofNumeral?_eq_some_iff.2 ⟨digits n.toNat, .inl rfl, decimal⟩

end LargeFiles.Text.Decimal
