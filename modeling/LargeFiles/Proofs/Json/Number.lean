import LargeFiles.Json.Value
import LargeFiles.Proofs.Bytes
import LargeFiles.Proofs.Text.Decimal

/-!
# Whole numbers in JSON

The decimal digits of a number, with a sign or without one, are a lexeme that ends where the digits
end and that is read as the number again.

* `Numeral`                digits without a leading zero, but for zero itself;
* `nat?_ofNat`, `int?_ofInt`, `uint64?_ofNat`, `int32?_ofInt`   what is read is what was written;
* `numberLength_ofInt`     the lexeme ends before anything that does not go on with a number.
-/

namespace LargeFiles.Json

open LargeFiles.Text.Decimal (isDigit_iff isDigit_of_mem_toDigits head?_toDigits)

/-! ### Digits as bytes -/

/-- The byte of a digit is its code. -/
theorem toNat_digit {c : Char} (digit : c.isDigit = true) : c.toUInt8.toNat = c.toNat := by
  have range := isDigit_iff.1 digit
  show c.val.toUInt8.toNat = c.toNat
  rw [UInt32.toNat_toUInt8]
  exact Nat.mod_eq_of_lt (show c.toNat < 256 by omega)

/-- A digit is a digit as a byte as well. -/
theorem isDigit_toUInt8 {c : Char} (digit : c.isDigit = true) :
    Token.isDigit c.toUInt8 = true := by
  have range := isDigit_iff.1 digit
  simp only [Token.isDigit, Bool.and_eq_true, decide_eq_true_eq, UInt8.le_iff_toNat_le,
    toNat_digit digit]
  exact range

/-- The digits of a number, a byte each. -/
theorem ofString_toString (n : Nat) :
    Bytes.ofString (toString n) = (Nat.toDigits 10 n).map Char.toUInt8 := by
  have digits : (toString n).toList = Nat.toDigits 10 n := Nat.toList_repr
  rw [Bytes.ofString_eq_map, digits]
  intro c mem
  have range := isDigit_iff.1 (isDigit_of_mem_toDigits (digits ▸ mem))
  omega

/-! ### Numerals -/

/-- Some digits, of which the first is a zero only if it stands alone. -/
structure Numeral (lexeme : Bytes) : Prop where
  nonempty : lexeme ≠ []
  digits : ∀ b ∈ lexeme, Token.isDigit b = true
  leading : ∀ rest, lexeme = 0x30 :: rest → rest = []

/-- Digits do not start with a minus sign. -/
theorem Numeral.unsigned {lexeme : Bytes} (numeral : Numeral lexeme) (rest tail : Bytes) :
    lexeme ++ rest ≠ 0x2d :: tail := by
  obtain ⟨b, digits, rfl⟩ := List.exists_cons_of_ne_nil numeral.nonempty
  intro signed
  have digit := numeral.digits b List.mem_cons_self
  rw [(List.cons_eq_cons.1 signed).1] at digit
  cases digit

/-- A natural number is written as a numeral, without leading zeros. -/
theorem numeral_toString (n : Nat) : Numeral (Bytes.ofString (toString n)) := by
  rw [ofString_toString]
  constructor
  case nonempty => simp
  case digits =>
    intro b mem
    obtain ⟨c, mem', rfl⟩ := List.mem_map.1 mem
    exact isDigit_toUInt8 (isDigit_of_mem_toDigits mem')
  -- Only zero is written with a zero in front.
  case leading =>
    intro rest same
    obtain rfl | pos := Nat.eq_zero_or_pos n
    · cases same
      rfl
    · obtain ⟨c, cs, digits, zero, -⟩ := List.map_eq_cons_iff.1 same
      have digit : c.isDigit = true := isDigit_of_mem_toDigits (digits ▸ List.mem_cons_self)
      have code : c.toNat = 48 := (toNat_digit digit).symm.trans (congrArg UInt8.toNat zero)
      have first : c = '0' := Char.toNat_inj.1 code
      exact absurd (by rw [digits, first, List.head?_cons]) (head?_toDigits pos)

/-- A negative number is written with a sign. -/
theorem ofString_toString_negSucc (n : Nat) :
    Bytes.ofString (toString (Int.negSucc n)) = 0x2d :: Bytes.ofString (toString (n + 1)) := by
  show Bytes.ofString ("-" ++ toString (n + 1)) = _
  rw [Bytes.ofString_append]
  rfl

/-- A whole number is digits, after a minus sign if it is negative. -/
theorem numeral_or_signed (n : Int) : ∃ digits, Numeral digits ∧
    (Bytes.ofString (toString n) = digits ∨ Bytes.ofString (toString n) = 0x2d :: digits) := by
  cases n with
  | ofNat n => exact ⟨_, numeral_toString n, .inl rfl⟩
  | negSucc n => exact ⟨_, numeral_toString (n + 1), .inr (ofString_toString_negSucc n)⟩

/-! ### Reading numbers -/

/-- A natural number is read from its digits. -/
theorem natOfDigits?_toString (n : Nat) :
    natOfDigits? (Bytes.ofString (toString n)) = some n := by
  have numeral := numeral_toString n
  have all : (Bytes.ofString (toString n)).all Token.isDigit = true :=
    List.all_eq_true.2 numeral.digits
  rw [natOfDigits?, all, List.isEmpty_eq_false_iff.2 numeral.nonempty, if_neg (by decide),
    ofString_toString, List.foldl_map]
  -- The bytes of the digits give the same sum as the digits themselves.
  refine congrArg some (Eq.trans ?_ Nat.ofDigitChars_ten_toDigits)
  exact List.foldl_ext _ _ _ fun sum c mem => by
    rw [toNat_digit (isDigit_of_mem_toDigits mem)]
    rfl

@[simp] theorem nat?_ofNat (n : Nat) : (ofNat n).nat? = some n := natOfDigits?_toString n

/-- An integer is read as it was written. -/
@[simp] theorem int?_ofInt (n : Int) : (ofInt n).int? = some n := by
  cases n with
  | ofNat n =>
    show (number (Bytes.ofString (toString n))).int? = _
    rw [int?, natOfDigits?_toString]
    · rfl
    · -- The lexeme of a natural number is not taken for a signed one.
      intro tail signed
      exact (numeral_toString n).unsigned [] tail ((List.append_nil _).trans signed)
  | negSucc n =>
    rw [ofInt, ofString_toString_negSucc, int?, natOfDigits?_toString]

theorem uint64?_ofNat (n : UInt64) : (ofNat n.toNat).uint64? = some n := by
  rw [uint64?, nat?_ofNat]
  simp only [if_pos n.toNat_lt_size, UInt64.ofNat_toNat]

/-- A signed number of 32 bits is read as it was written. -/
theorem int32?_ofInt (n : Int32) : (ofInt n.toInt).int32? = some n := by
  rw [int32?, int?_ofInt]
  have low : -2147483648 ≤ n.toInt := n.le_toInt
  have high : n.toInt ≤ 2147483647 := Int.le_of_lt_add_one n.toInt_lt
  simp only [low, high, decide_true, Bool.and_self, if_true, Int32.ofInt_toInt]

/-! ### Where a number ends -/

/-- Whether a byte right after a whole number belongs to it: a digit, the point of a fraction or
    the letter of an exponent. -/
def Token.continuesNumber (b : UInt8) : Bool :=
  isDigit b || b == 0x2e || b == 0x65 || b == 0x45

/-- What a number that comes before it does not go on with. -/
def Token.EndsNumber (rest : Bytes) : Prop :=
  ∀ b ∈ rest.head?, continuesNumber b = false

namespace Token

/-- A number ends before a byte that cannot be part of it. -/
theorem endsNumber_cons {b : UInt8} {rest : Bytes} (h : continuesNumber b = false) :
    EndsNumber (b :: rest) := by
  rintro _ ⟨⟩
  exact h

/-- The digits are counted up to the end of the number. -/
theorem digitCount_append {digits rest : Bytes} (h : ∀ b ∈ digits, isDigit b = true)
    (ends : EndsNumber rest) : digitCount (digits ++ rest) = digits.length := by
  rw [digitCount, List.takeWhile_append_of_pos h]
  cases rest with
  | nil => simp
  | cons b rest =>
    have other := ends b rfl
    simp only [continuesNumber, Bool.or_eq_false_iff] at other
    simp [other.1.1.1]

/-- Where the number ends there is no fraction. -/
theorem fractionLength_of_ends {rest : Bytes} (ends : EndsNumber rest) :
    fractionLength rest = some 0 := by
  rw [fractionLength]
  rintro tail rfl
  exact absurd (ends _ rfl) (by decide)

/-- Where the number ends there is no exponent. -/
theorem exponentLength_of_ends {rest : Bytes} (ends : EndsNumber rest) :
    exponentLength rest = some 0 := by
  cases rest with
  | nil => rfl
  | cons b rest =>
    have other := ends b rfl
    simp only [continuesNumber, Bool.or_eq_false_iff] at other
    simp [exponentLength, other.1.2, other.2]

/-- A numeral is measured up to the end of the number. -/
theorem magnitudeLength_append {lexeme rest : Bytes} (numeral : Numeral lexeme)
    (ends : EndsNumber rest) : magnitudeLength (lexeme ++ rest) = some lexeme.length := by
  obtain ⟨b, digits, rfl⟩ := List.exists_cons_of_ne_nil numeral.nonempty
  have first : isDigit b = true := numeral.digits b List.mem_cons_self
  -- A leading zero stands alone, so that the digits that count are all there are.
  have whole : (if b == 0x30 then 1 else 1 + digitCount (digits ++ rest)) =
      (b :: digits).length := by
    split
    · next zero =>
      rw [numeral.leading digits (by rw [beq_iff_eq.1 zero])]
      rfl
    · rw [digitCount_append (fun c mem => numeral.digits c (List.mem_cons_of_mem _ mem)) ends,
        List.length_cons, Nat.add_comm]
  rw [List.cons_append, magnitudeLength, if_pos first, whole, ← List.cons_append]
  simp only [List.drop_left, fractionLength_of_ends ends, List.drop_zero,
    exponentLength_of_ends ends, Nat.add_zero]

/-- A number that is written ends with its last digit. -/
theorem numberLength_ofInt (n : Int) {rest : Bytes} (ends : EndsNumber rest) :
    numberLength (Bytes.ofString (toString n) ++ rest) =
      some (Bytes.ofString (toString n)).length := by
  obtain ⟨digits, numeral, lexeme | lexeme⟩ := numeral_or_signed n
  · rw [lexeme, numberLength, magnitudeLength_append numeral ends]
    exact numeral.unsigned rest
  · rw [lexeme, List.cons_append, numberLength, magnitudeLength_append numeral ends]
    rfl

end Token

end LargeFiles.Json
