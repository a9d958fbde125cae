import LargeFiles.Proofs.Text.Decimal
import LargeFiles.Timestamp.Reader

/-!
# Reading timestamps that were written

A timestamp is read again from its text, with its leap second, its year of whatever sign and length,
and every digit of its fraction.

* `Reads`            what a reader takes off the front of a text, put together by `Reads.bind`;
* `digitRun_append`  a number is read from digits that end where the reader has to stop;
* `reads_year`, `reads_number`, `reads_fraction`   the parts of a timestamp;
* `ofLocal?_self`    a clock without offset shows the timestamp itself;
* `ofText?_toText`   the text of a timestamp spells it.
-/

namespace LargeFiles.Timestamp

open LargeFiles.Text (Reader trimStart isBlank)

/-! ### Digits -/

theorem ofDigitChars_replicate (k : Nat) : Nat.ofDigitChars 10 (List.replicate k '0') 0 = 0 := by
  induction k with
  | zero => rfl
  | succ k ih => rw [List.replicate_succ, Nat.ofDigitChars_cons]; exact ih

/-- The zeros before a number do not change it. -/
theorem ofDigitChars_padded (width n : Nat) : Nat.ofDigitChars 10 (padded width n) 0 = n := by
  simp only [padded]
  rw [Nat.ofDigitChars_append, ofDigitChars_replicate, Nat.ofDigitChars_ten_toDigits]

/-- A padded number is written in digits. -/
theorem isDigit_of_mem_padded {width n : Nat} {c : Char} (mem : c ∈ padded width n) :
    c.isDigit = true := by
  obtain zero | digit := List.mem_append.1 mem
  · rw [List.eq_of_mem_replicate zero]
    rfl
  · exact Nat.isDigit_of_mem_toDigits (by decide) (by decide) digit

theorem padded_ne_nil (width n : Nat) : padded width n ≠ [] := by
  simp [padded]

/-- A padded number that fits has the width that it is padded to. -/
theorem length_padded {width n : Nat} (pos : 0 < width) (fits : n < Nat.pow 10 width) :
    (padded width n).length = width := by
  have digits := (Nat.length_toDigits_le_iff (by decide) pos).2 fits
  simp only [padded, List.length_append, List.length_replicate]
  omega

namespace Read

/-- A run of digits is read up to its greatest length or up to another character. -/
theorem digitRun_append {digits : List Char} {most : Nat} (rest : List Char)
    (nonempty : digits ≠ [])
    (all : ∀ c ∈ digits, c.isDigit = true)
    (ends : digits.length = most ∨
      digits.length ≤ most ∧ ∀ c ∈ rest.head?, c.isDigit = false) :
    digitRun most (digits ++ rest) =
      some ((Nat.ofDigitChars 10 digits 0, digits.length), rest) := by
  -- Either the run is as long as it may be, or what comes next is no digit.
  have run : ((digits ++ rest).take most).takeWhile Char.isDigit = digits := by
    have fits : digits.length ≤ most := ends.elim Nat.le_of_eq (·.1)
    rw [List.take_append, List.take_of_length_le fits, List.takeWhile_append_of_pos all]
    obtain exact | ⟨-, other⟩ := ends
    · simp [exact]
    · cases rest with
      | nil => simp
      | cons c rest =>
        cases most - digits.length with
        | zero => simp
        | succ k => simp [other c rfl]
  simp [digitRun, run, nonempty]

/-! ### Readers -/

/-- A reader takes a value off the front of a text and leaves the rest. -/
def Reads {α : Type} (reader : Reader α) (text : List Char) (a : α) (rest : List Char) : Prop :=
  reader.take? text = some (a, rest)

/-- What is read in two steps is read in one. -/
theorem Reads.bind {α β : Type} {x : Reader α} {f : α → Reader β} {text text' rest : List Char}
    {a : α} {b : β} (h : Reads x text a text') (h' : Reads (f a) text' b rest) :
    Reads (x >>= f) text b rest := by
  rw [Reads, Reader.take?, StateT.run_bind]
  rw [Reads, Reader.take?] at h
  rw [h]
  exact h'

theorem trimStart_cons {c : Char} (visible : isBlank c = false) (rest : List Char) :
    trimStart (c :: rest) = c :: rest := by
  simp [trimStart, visible]

/-- There is nothing to trim before digits. -/
theorem trimStart_digits {digits : List Char} (nonempty : digits ≠ [])
    (all : ∀ c ∈ digits, c.isDigit = true) (rest : List Char) :
    trimStart (digits ++ rest) = digits ++ rest := by
  obtain ⟨c, tail, rfl⟩ := List.exists_cons_of_ne_nil nonempty
  exact trimStart_cons (Text.Decimal.forall_isDigit (p := (isBlank · = false)) (by decide)
    (all c List.mem_cons_self)) _

/-- A separator is read where it stands. -/
theorem reads_separator {c : Char} (visible : isBlank c = false) (rest : List Char) :
    Reads (separator c) (c :: rest) () rest := by
  show separator c (c :: rest) = some ((), rest)
  simp only [separator, trimStart_cons visible, if_true]

/-- A number of two digits. -/
theorem reads_number {n : Nat} (fits : n < 100) (rest : List Char) :
    Reads number (padded 2 n ++ rest) n rest := by
  have nonempty := padded_ne_nil 2 n
  have all : ∀ c ∈ padded 2 n, c.isDigit = true := fun c => isDigit_of_mem_padded
  -- Two digits are written and two at most are read.
  have run := digitRun_append rest nonempty all
    (.inl (length_padded (by decide) fits))
  rw [ofDigitChars_padded] at run
  show (digitRun 2 (trimStart (padded 2 n ++ rest))).bind (fun p => some (p.1.1, p.2)) = _
  rw [trimStart_digits nonempty all, run]
  rfl

/-- A year with a minus sign has as many digits as there are. -/
theorem reads_year_minus {text rest rest' : List Char} {n count : Nat}
    (h : trimStart text = '-' :: rest)
    (run : digitRun rest.length rest = some ((n, count), rest')) :
    Reads year text (-n) rest' := by
  rw [Reads, Reader.take?, year]
  simp only [StateT.run_bind, StateT.run_modify, StateT.run_get, h, pure_bind,
    Option.bind_eq_bind, StateT.run_set]
  show (digitRun rest.length rest).bind (fun p => some (-(p.1.1 : Int), p.2)) = _
  rw [run]
  rfl

/-- A year with a plus sign has as many digits as there are. -/
theorem reads_year_plus {text rest rest' : List Char} {n count : Nat}
    (h : trimStart text = '+' :: rest)
    (run : digitRun rest.length rest = some ((n, count), rest')) :
    Reads year text n rest' := by
  rw [Reads, Reader.take?, year]
  simp only [StateT.run_bind, StateT.run_modify, StateT.run_get, h, pure_bind,
    Option.bind_eq_bind, StateT.run_set]
  show (digitRun rest.length rest).bind (fun p => some ((p.1.1 : Int), p.2)) = _
  rw [run]
  rfl

/-- A year without a sign has four digits at most. -/
theorem reads_year_digits {text rest rest' : List Char} {c : Char} {n count : Nat}
    (h : trimStart text = c :: rest) (digit : c.isDigit = true)
    (run : digitRun 4 (c :: rest) = some ((n, count), rest')) :
    Reads year text n rest' := by
  -- Neither sign is a digit.
  have notMinus (tail : List Char) : c :: rest ≠ '-' :: tail := by
    rintro ⟨⟩
    cases digit
  have notPlus (tail : List Char) : c :: rest ≠ '+' :: tail := by
    rintro ⟨⟩
    cases digit
  rw [Reads, Reader.take?, year]
  simp only [StateT.run_bind, StateT.run_modify, StateT.run_get, h, pure_bind,
    Option.bind_eq_bind]
  show (digitRun 4 (c :: rest)).bind (fun p => some ((p.1.1 : Int), p.2)) = _
  rw [run]
  rfl

/-- A year of four digits, or of at least four digits after its sign. -/
theorem reads_year (year : Int) (rest : List Char) :
    Reads Read.year (yearDigits year ++ '-' :: rest) year ('-' :: rest) := by
  have ends : ∀ c ∈ ('-' :: rest).head?, c.isDigit = false := by
    rintro _ ⟨⟩
    rfl
  -- After a sign the digits end with the minus sign that separates the year from the month.
  have signed (n : Nat) : digitRun (padded 4 n ++ '-' :: rest).length (padded 4 n ++ '-' :: rest) =
      some ((n, (padded 4 n).length), '-' :: rest) := by
    have within : (padded 4 n).length ≤ (padded 4 n ++ '-' :: rest).length := by simp
    have run := digitRun_append ('-' :: rest) (padded_ne_nil 4 n) (fun c => isDigit_of_mem_padded)
      (.inr ⟨within, ends⟩)
    rwa [ofDigitChars_padded] at run
  rw [yearDigits]
  split
  · next short =>
    simp only [Bool.and_eq_true, decide_eq_true_eq] at short
    -- A year without a sign has exactly four digits, and no more are read.
    have fits : year.toNat < Nat.pow 10 4 := by
      show year.toNat < 10000
      omega
    have run := digitRun_append ('-' :: rest) (padded_ne_nil 4 year.toNat)
      (fun c => isDigit_of_mem_padded) (.inl (length_padded (by decide) fits))
    have visible := trimStart_digits (padded_ne_nil 4 year.toNat)
      (fun c => isDigit_of_mem_padded) ('-' :: rest)
    obtain ⟨c, tail, digits⟩ := List.exists_cons_of_ne_nil (padded_ne_nil 4 year.toNat)
    have digit : c.isDigit = true := isDigit_of_mem_padded (digits ▸ List.mem_cons_self)
    rw [ofDigitChars_padded] at run
    rw [digits, List.cons_append] at run visible ⊢
    have read := reads_year_digits visible digit run
    rwa [show (year.toNat : Int) = year by omega] at read
  · split
    · next negative =>
      have read := reads_year_minus (trimStart_cons (c := '-') (by decide) _) (signed year.natAbs)
      rwa [show -(year.natAbs : Int) = year by omega] at read
    · next positive =>
      have read := reads_year_plus (trimStart_cons (c := '+') (by decide) _) (signed year.natAbs)
      rwa [show (year.natAbs : Int) = year by omega] at read

/-- A fraction that is written in some digits. -/
theorem reads_fraction_digits {digits n : Nat} (pos : 0 < digits) (few : digits ≤ 9)
    (fits : n < Nat.pow 10 digits) :
    Reads fraction ('.' :: padded digits n ++ ['Z']) (n * Nat.pow 10 (9 - digits)) ['Z'] := by
  have length := length_padded pos fits
  have few : (padded digits n).length ≤ 9 := length.symm ▸ few
  -- The digits end with the letter for the zone.
  have ends : ∀ c ∈ ['Z'].head?, c.isDigit = false := by
    rintro _ ⟨⟩
    rfl
  have run := digitRun_append ['Z'] (padded_ne_nil digits n) (fun c => isDigit_of_mem_padded)
    (.inr ⟨few, ends⟩)
  rw [length, ofDigitChars_padded] at run
  show fraction ('.' :: (padded digits n ++ ['Z'])) = _
  simp only [fraction, run]
  rfl

/-- The fraction of a second, in as many digits as it needs. -/
theorem reads_fraction {nanosecond : Nat} (fits : nanosecond < 1000000000) :
    Reads fraction (Timestamp.fraction nanosecond ++ ['Z']) nanosecond ['Z'] := by
  -- Digits are left off where they are zeros, so that they are found again by scaling.
  have shifted (digits unit : Nat) (pos : 0 < digits) (few : digits ≤ 9)
      (scale : Nat.pow 10 (9 - digits) = unit) (all : unit * Nat.pow 10 digits = 1000000000)
      (whole : nanosecond % unit = 0) :
      Reads fraction ('.' :: padded digits (nanosecond / unit) ++ ['Z']) nanosecond ['Z'] := by
    -- The digits that are left on are as many as announced.
    have small : nanosecond / unit < Nat.pow 10 digits := Nat.div_lt_of_lt_mul (all ▸ fits)
    have read := reads_fraction_digits pos few small
    rwa [scale, Nat.div_mul_cancel (Nat.dvd_of_mod_eq_zero whole)] at read
  rw [Timestamp.fraction]
  split
  · next zero =>
    rw [zero]
    rfl
  · split
    · next whole => exact shifted 3 1000000 (by decide) (by decide) rfl rfl whole
    · split
      · next whole => exact shifted 6 1000 (by decide) (by decide) rfl rfl whole
      · have read := shifted 9 1 (by decide) (by decide) rfl rfl (Nat.mod_one _)
        rwa [Nat.div_one] at read

/-- The zone that is written. -/
theorem reads_zone : Reads zone ['Z'] 0 [] := by
  -- One letter is not the word of three that is looked for first.
  have notWord : (String.ofList (['Z'].take 3)).toUpper ≠ "UTC" := by
    intro same
    have chars := congrArg String.toList same
    rw [String.toUpper, String.toList_map] at chars
    simp at chars
  show zone ['Z'] = some (0, [])
  simp only [zone, trimStart_cons (c := 'Z') (by decide), if_neg notWord]
  rfl

end Read

/-! ### Whole timestamps -/

/-- A clock without offset shows the timestamp itself. -/
theorem ofLocal?_self (t : Timestamp) :
    ofLocal? t.year t.month t.day t.hour t.minute t.second t.nanosecond 0 = some t := by
  obtain ⟨year, month, day, hour, minute, second, nanosecond, date_ok, time_ok⟩ := t
  have range := time_ok
  simp only [isTime, Bool.and_eq_true, decide_eq_true_eq] at range
  -- Without an offset no midnight lies between, and the minutes of the day are those of the clock.
  have notBefore : ¬ (60 * hour + minute - 0 : Int) < 0 := by omega
  have notAfter : ¬ (1440 : Int) ≤ 60 * hour + minute - 0 := by omega
  have ofDay : ((60 * hour + minute - 0 : Int) % 1440).toNat = 60 * hour + minute := by omega
  have hours : (60 * hour + minute) / 60 = hour := by omega
  have minutes : (60 * hour + minute) % 60 = minute := by omega
  simp only [ofLocal?, date_ok, time_ok, Bool.and_self, if_true, if_neg notBefore, if_neg notAfter,
    ofDay, hours, minutes, ofFields?, dite_true]

/-- No month has more than thirty-one days. -/
theorem daysInMonth_le (year : Int) (month : Nat) : daysInMonth year month ≤ 31 := by
  rw [daysInMonth]
  split
  · split <;> decide
  · split <;> decide

namespace Read

theorem reads_dateEnd (rest : List Char) : Reads dateEnd ('T' :: rest) () rest := rfl

theorem reads_lift {a : Option Timestamp} {t : Timestamp} (h : a = some t) (rest : List Char) :
    Reads (StateT.lift a) rest t rest := by
  rw [h]
  rfl

/-- A time is read as it was written. -/
theorem reads_timestamp (t : Timestamp) : Reads timestamp t.toChars t [] := by
  have date := t.date_ok
  have time := t.time_ok
  have days := daysInMonth_le t.year t.month
  simp only [isDate, isTime, Bool.and_eq_true, decide_eq_true_eq] at date time
  -- Part by part: each takes its own characters and leaves what follows to the next.
  rw [toChars]
  simp only [List.append_assoc, List.cons_append]
  exact (reads_year t.year _).bind <| (reads_separator (by decide) _).bind <|
    (reads_number (by omega) _).bind <| (reads_separator (by decide) _).bind <|
    (reads_number (by omega) _).bind <| (reads_dateEnd _).bind <|
    (reads_number (by omega) _).bind <| (reads_separator (by decide) _).bind <|
    (reads_number (by omega) _).bind <| (reads_separator (by decide) _).bind <|
    (reads_number (by omega) _).bind <| (reads_fraction time.2).bind <|
    reads_zone.bind <| reads_lift (ofLocal?_self t) []

end Read

/-- The text of a timestamp spells it. -/
theorem ofText?_toText (t : Timestamp) : ofText? t.toText = some t := by
  have read := Read.reads_timestamp t
  rw [Read.Reads] at read
  rw [ofText?, toText, String.toList_ofList, ofChars?, read]
  rfl

end LargeFiles.Timestamp
