/-!
# Decimal numbers

Natural numbers as decimal digits.  `ofDigits?` reads non-empty digits; `ofNumeral?` also takes
a leading plus sign and refuses numbers of 2^64 and more.
-/

namespace LargeFiles.Text.Decimal

/-- The decimal digits of a number. -/
def digits (n : Nat) : List Char := Nat.toDigits 10 n

/-- The number that non-empty decimal digits denote. -/
def ofDigits? (cs : List Char) : Option Nat :=
  if cs.isEmpty || !cs.all Char.isDigit then none else some (Nat.ofDigitChars 10 cs 0)

/-- The 64-bit number that a numeral denotes: decimal digits after at most one plus sign. -/
def ofNumeral? (cs : List Char) : Option UInt64 :=
  let unsigned := match cs with
    | '+' :: rest => rest
    | _ => cs
  match ofDigits? unsigned with
  | some n => if n < UInt64.size then some (UInt64.ofNat n) else none
  | none => none

@[simp] theorem ofDigits?_digits (n : Nat) : ofDigits? (digits n) = some n := by
  have nonempty : (Nat.toDigits 10 n).isEmpty = false := by
    simp [List.isEmpty_eq_false_iff]
  have all : (Nat.toDigits 10 n).all Char.isDigit = true := by
    simp only [List.all_eq_true]
    exact fun c hc => Nat.isDigit_of_mem_toDigits (by decide) (by decide) hc
  simp [ofDigits?, digits, nonempty, all, Nat.ofDigitChars_ten_toDigits]

theorem toList_toString (n : Nat) : (toString n).toList = digits n := by simp [digits]

/-- The decimal digits of a number tell which it is. -/
theorem toString_injective {m n : Nat} (h : toString m = toString n) : m = n := by
  have same : digits m = digits n := by rw [← toList_toString, h, toList_toString]
  simpa using congrArg ofDigits? same

end LargeFiles.Text.Decimal
