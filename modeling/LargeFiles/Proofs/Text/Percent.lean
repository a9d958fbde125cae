import LargeFiles.Proofs.Bytes
import LargeFiles.Text.Percent

/-!
# Reading percent-encoded text

What was percent-encoded can be read back.  Where percent signs are encoded too, what is read is the
text itself; where they are kept, what is read is what could be read before, so that only a text
without percent signs before two digits is encoded as a text that stands for it.

* `decode_flatMap_ofByte`   bytes that were encoded are read, whatever follows them;
* `read_encode`             what was encoded with its percent signs is read as it was;
* `read_encode_of_keep`     what was encoded but for its percent signs is read as before;
* `read_eq_self_iff`        a text stands for itself if it has no percent sign before two digits;
* `encodeForm_injective`    different values of a form are written differently.
-/

namespace LargeFiles.Text.Percent

/-! ### Reading bytes -/

/-- A byte that is no percent sign stands for itself. -/
theorem decode_cons_of_ne {b : UInt8} (plain : b ≠ 0x25) (rest : Bytes) :
    decode (b :: rest) = b :: decode rest := by
  rw [decode]
  exact fun _ _ _ percent _ => plain percent

/-- Bytes without a percent sign stand for themselves. -/
theorem decode_append_of_notMem {bytes : Bytes} (plain : 0x25 ∉ bytes) (rest : Bytes) :
    decode (bytes ++ rest) = bytes ++ decode rest := by
  induction bytes with
  | nil => rfl
  | cons b bytes ih =>
    rw [List.mem_cons, not_or] at plain
    rw [List.cons_append, decode_cons_of_ne (Ne.symm plain.1), ih plain.2, List.cons_append]

/-- A byte that is neither a percent sign nor a digit stands for itself. -/
theorem mem_decode {b : UInt8} (plain : b ≠ 0x25) (noDigit : Hex.value? b = none)
    {bytes : Bytes} (mem : b ∈ bytes) : b ∈ decode bytes := by
  -- A byte that is neither a percent sign nor a digit is not part of an escape.
  fun_induction decode bytes with
  | case1 high low rest h l low_eq high_eq ih =>
    simp only [List.mem_cons] at mem
    rcases mem with rfl | rfl | rfl | mem
    · exact absurd rfl plain
    · exact absurd (high_eq ▸ noDigit) (by simp)
    · exact absurd (low_eq ▸ noDigit) (by simp)
    · exact List.mem_cons_of_mem _ (ih mem)
  | case2 high low rest none ih =>
    rcases List.mem_cons.1 mem with rfl | mem
    · exact absurd rfl plain
    · exact List.mem_cons_of_mem _ (ih mem)
  | case3 c rest not ih =>
    rcases List.mem_cons.1 mem with rfl | mem
    · exact List.mem_cons_self
    · exact List.mem_cons_of_mem _ (ih mem)
  | case4 => exact mem

/-- What is read is never longer than what it is read from. -/
theorem length_decode_le (bytes : Bytes) : (decode bytes).length ≤ bytes.length := by
  fun_induction decode bytes with
  -- An escape is three bytes, and is read as one.
  | case1 high low rest h l low_eq high_eq ih =>
    simp only [List.length_cons]
    omega
  | case2 high low rest none ih =>
    simp only [List.length_cons] at ih ⊢
    omega
  | case3 b rest plain ih =>
    simp only [List.length_cons]
    omega
  | case4 => exact Nat.le_refl _

/-! ### Reading digits -/

/-- The two digits after a percent sign are those of the byte. -/
theorem exists_digits (b : UInt8) :
    ∃ high low, (ofByte b).flatMap String.utf8EncodeChar = [0x25, high, low] ∧
      Hex.value? high = some (b >>> 4) ∧ Hex.value? low = some (b &&& 15) ∧
      (b >>> 4) <<< 4 ||| (b &&& 15) = b := by
  refine ⟨(digit (b >>> 4)).toUInt8, (digit (b &&& 15)).toUInt8, ?_⟩
  revert b
  exact Bytes.forall_byte (by decide +kernel)

/-- A percent sign and two digits stand for the byte. -/
theorem decode_ofByte (b : UInt8) (rest : Bytes) :
    decode ((ofByte b).flatMap String.utf8EncodeChar ++ rest) = b :: decode rest := by
  obtain ⟨high, low, written, high_eq, low_eq, whole⟩ := exists_digits b
  rw [written, List.cons_append, List.cons_append, List.cons_append, List.nil_append, decode,
    high_eq, low_eq]
  simp only [whole]

/-- Bytes that were encoded are read, whatever follows them. -/
theorem decode_flatMap_ofByte (bytes rest : Bytes) :
    decode ((bytes.flatMap ofByte).flatMap String.utf8EncodeChar ++ rest) =
      bytes ++ decode rest := by
  induction bytes with
  | nil => rfl
  | cons b bytes ih =>
    rw [List.flatMap_cons, List.flatMap_append, List.append_assoc, decode_ofByte, ih,
      List.cons_append]

/-! ### Reading texts -/

/-- The bytes that a text stands for. -/
def read (text : List Char) : Bytes := decode (text.flatMap String.utf8EncodeChar)

/-- A character that is a digit after a percent sign. -/
def isDigit (c : Char) : Bool := c.toNat < 128 && (Hex.value? c.toUInt8).isSome

/-- A percent sign and two digits stand at the start of the text. -/
inductive Escapes : List Char → Prop
  | intro {high low : Char} (digit : isDigit high = true) (digit' : isDigit low = true)
      (rest : List Char) : Escapes ('%' :: high :: low :: rest)

theorem utf8EncodeChar_percent : String.utf8EncodeChar '%' = [0x25] := by decide

/-- Every character has a first byte. -/
theorem exists_utf8EncodeChar_eq_cons (c : Char) :
    ∃ first more, String.utf8EncodeChar c = first :: more := by
  apply List.exists_cons_of_ne_nil
  rw [Ne, ← List.length_eq_zero_iff, String.length_utf8EncodeChar]
  exact Nat.ne_of_gt c.utf8Size_pos

/-- No other character has the byte of the percent sign. -/
theorem notMem_utf8EncodeChar {c : Char} (plain : c ≠ '%') : 0x25 ∉ String.utf8EncodeChar c := by
  intro mem
  have value := Bytes.toNat_eq_of_mem_utf8EncodeChar mem (by decide)
  exact plain (Char.toNat_inj.1 value)

/-- A character that is no percent sign stands for its bytes. -/
theorem read_cons_of_ne {c : Char} (plain : c ≠ '%') (rest : List Char) :
    read (c :: rest) = String.utf8EncodeChar c ++ read rest := by
  rw [read, List.flatMap_cons, decode_append_of_notMem (notMem_utf8EncodeChar plain), read]

theorem read_ofByte_append (bytes : Bytes) (rest : List Char) :
    read (bytes.flatMap ofByte ++ rest) = bytes ++ read rest := by
  rw [read, List.flatMap_append, decode_flatMap_ofByte, read]

/-- Two digits after a percent sign are read together, and what follows is read after them. -/
theorem exists_read_escape {high low : Char} (digit : isDigit high = true)
    (digit' : isDigit low = true) :
    ∃ b, ∀ rest, read ('%' :: high :: low :: rest) = b :: read rest := by
  simp only [isDigit, Bool.and_eq_true, decide_eq_true_iff, Option.isSome_iff_exists]
    at digit digit'
  obtain ⟨ascii, h, h_eq⟩ := digit
  obtain ⟨ascii', l, l_eq⟩ := digit'
  refine ⟨h <<< 4 ||| l, fun rest => ?_⟩
  -- All three characters are in ASCII, so that they are one byte each.
  rw [read, List.flatMap_cons, List.flatMap_cons, List.flatMap_cons, utf8EncodeChar_percent,
    Bytes.utf8EncodeChar_of_lt ascii, Bytes.utf8EncodeChar_of_lt ascii']
  simp only [List.cons_append, List.nil_append, decode, h_eq, l_eq, read]

/-- A character that begins with the byte of a digit is that digit. -/
theorem isDigit_of_value? {c : Char} {b : UInt8} (first : b ∈ (String.utf8EncodeChar c).head?)
    (digit : (Hex.value? b).isSome = true) : isDigit c = true := by
  -- The first byte of a character of several bytes is no digit.
  have ascii_digit : ∀ b, (Hex.value? b).isSome = true → b.toNat < 128 :=
    Bytes.forall_byte (by decide +kernel)
  have small : b.toNat < 128 := ascii_digit b digit
  have value := Bytes.toNat_eq_of_mem_utf8EncodeChar (List.mem_of_mem_head? first) small
  have single := Bytes.utf8EncodeChar_of_lt (c := c) (value ▸ small)
  rw [single, List.head?_cons, Option.mem_some_iff] at first
  rw [isDigit, Bool.and_eq_true, decide_eq_true_iff, first]
  exact ⟨value ▸ small, digit⟩

/-- The byte of a digit is written by the digit, which takes no other byte. -/
theorem exists_digit {text : List Char} {b : UInt8} {bytes : Bytes}
    (written : text.flatMap String.utf8EncodeChar = b :: bytes)
    (digit : (Hex.value? b).isSome = true) :
    ∃ c rest, text = c :: rest ∧ isDigit c = true ∧
      rest.flatMap String.utf8EncodeChar = bytes := by
  cases text with
  | nil => cases written
  | cons c rest =>
    obtain ⟨first, more, encoded⟩ := exists_utf8EncodeChar_eq_cons c
    rw [List.flatMap_cons, encoded, List.cons_append, List.cons.injEq] at written
    obtain ⟨rfl, others⟩ := written
    have isDigit_c : isDigit c = true := isDigit_of_value? (by rw [encoded]; rfl) digit
    -- A digit is in ASCII, so its first byte is its only one.
    have ascii := isDigit_c
    rw [isDigit, Bool.and_eq_true, decide_eq_true_iff] at ascii
    rw [Bytes.utf8EncodeChar_of_lt ascii.1, List.cons.injEq] at encoded
    obtain ⟨-, rfl⟩ := encoded
    exact ⟨c, rest, rfl, isDigit_c, others⟩

/-- Any other percent sign stands for itself. -/
theorem read_percent {rest : List Char} (single : ¬ Escapes ('%' :: rest)) :
    read ('%' :: rest) = 0x25 :: read rest := by
  rw [read, List.flatMap_cons, utf8EncodeChar_percent, read, List.cons_append, List.nil_append]
  rcases written : rest.flatMap String.utf8EncodeChar with _ | ⟨high, _ | ⟨low, bytes⟩⟩
  · rfl
  · rw [decode]
    simp
  · rw [decode]
    split
    -- The two bytes would be those of two digits.
    · next h l high_eq low_eq =>
      obtain ⟨c, rest, rfl, digit, others⟩ := exists_digit written (by rw [high_eq]; rfl)
      obtain ⟨d, rest, rfl, digit', -⟩ := exists_digit others (by rw [low_eq]; rfl)
      exact absurd (.intro digit digit' rest) single
    · rfl

/-! ### Texts that were encoded -/

/-- A character that is encoded starts with a percent sign. -/
theorem exists_encoded (c : Char) :
    ∃ more, (String.utf8EncodeChar c).flatMap ofByte = '%' :: more := by
  obtain ⟨first, more, encoded⟩ := exists_utf8EncodeChar_eq_cons c
  rw [encoded, List.flatMap_cons, ofByte, List.cons_append]
  exact ⟨_, rfl⟩

section

variable {keep : Char → Bool}

/-- A character that is kept is written as itself. -/
theorem encode_cons_of_pos {c : Char} (kept : keep c = true) (rest : List Char) :
    encode keep (c :: rest) = c :: encode keep rest := by
  rw [encode, List.flatMap_cons, if_pos kept]
  rfl

/-- Another character is written byte by byte. -/
theorem encode_cons_of_neg {c : Char} (encoded : keep c = false) (rest : List Char) :
    encode keep (c :: rest) =
      (String.utf8EncodeChar c).flatMap ofByte ++ encode keep rest := by
  rw [encode, List.flatMap_cons, encoded]
  rfl

/-- What was encoded with its percent signs is read as it was. -/
theorem read_encode (percent : keep '%' = false) (text : List Char) :
    read (encode keep text) = text.flatMap String.utf8EncodeChar := by
  induction text with
  | nil => rfl
  | cons c rest ih =>
    cases kept : keep c with
    | true =>
      -- A character that is kept does not begin an escape, as the sign is not kept.
      have plain : c ≠ '%' := by
        rintro rfl
        cases percent.symm.trans kept
      rw [encode_cons_of_pos kept, read_cons_of_ne plain, ih, List.flatMap_cons]
    | false => rw [encode_cons_of_neg kept, read_ofByte_append, ih, List.flatMap_cons]

/-- A digit at the start of what was encoded was there before. -/
theorem exists_of_encode_eq_cons {text more : List Char} {c : Char}
    (whole : encode keep text = c :: more) (digit : isDigit c = true) :
    ∃ rest, text = c :: rest ∧ encode keep rest = more := by
  cases text with
  | nil => cases whole
  | cons d rest =>
    cases kept : keep d with
    | true =>
      rw [encode_cons_of_pos kept, List.cons.injEq] at whole
      obtain ⟨rfl, others⟩ := whole
      exact ⟨rest, rfl, others⟩
    | false =>
      obtain ⟨more', encoded⟩ := exists_encoded d
      rw [encode_cons_of_neg kept, encoded, List.cons_append, List.cons.injEq] at whole
      obtain ⟨rfl, -⟩ := whole
      -- An encoded character begins with a percent sign, which is no digit.
      exact absurd digit (by decide)

/-- Percent signs that are kept are followed by two digits as often as before. -/
theorem escapes_encode_iff (digits : ∀ c, isDigit c = true → keep c = true) (text : List Char) :
    Escapes ('%' :: encode keep text) ↔ Escapes ('%' :: text) := by
  constructor
  · generalize whole : '%' :: encode keep text = all
    rintro ⟨digit, digit', more⟩
    rw [List.cons.injEq] at whole
    obtain ⟨rest, rfl, others⟩ := exists_of_encode_eq_cons whole.2 digit
    -- Digits are kept, so those after a percent sign were there before.
    obtain ⟨rest, rfl, -⟩ := exists_of_encode_eq_cons others digit'
    exact .intro digit digit' rest
  · generalize whole : '%' :: text = all
    rintro ⟨digit, digit', rest⟩
    rw [List.cons.injEq] at whole
    rw [whole.2, encode_cons_of_pos (digits _ digit), encode_cons_of_pos (digits _ digit')]
    exact .intro digit digit' _

/-- What was encoded but for its percent signs is read as it would be before. -/
theorem read_encode_of_keep (percent : keep '%' = true)
    (digits : ∀ c, isDigit c = true → keep c = true) (text : List Char) :
    read (encode keep text) = read text := by
  -- An escape is read together with its digits, so the induction is on the length.
  induction length : text.length using Nat.strongRecOn generalizing text with
  | ind n ih =>
    subst length
    cases text with
    | nil => rfl
    | cons c rest =>
      have ih_rest := ih rest.length (by simp) rest rfl
      by_cases sign : c = '%'
      · subst sign
        rw [encode_cons_of_pos percent]
        -- The digits of an escape are kept, so it is there before and after.
        by_cases escapes : Escapes ('%' :: rest)
        · obtain ⟨digit, digit', rest⟩ := escapes
          obtain ⟨b, together⟩ := exists_read_escape digit digit'
          rw [encode_cons_of_pos (digits _ digit), encode_cons_of_pos (digits _ digit'),
            together, together, ih rest.length (by simp; omega) rest rfl]
        · rw [read_percent escapes, read_percent (mt (escapes_encode_iff digits rest).1 escapes),
            ih_rest]
      · rw [read_cons_of_ne sign]
        cases kept : keep c with
        | true => rw [encode_cons_of_pos kept, read_cons_of_ne sign, ih_rest]
        | false => rw [encode_cons_of_neg kept, read_ofByte_append, ih_rest]

end

/-! ### Texts that stand for themselves -/

theorem length_read_le (text : List Char) :
    (read text).length ≤ (text.flatMap String.utf8EncodeChar).length :=
  length_decode_le _

/-- Two digits after a percent sign are read as one byte. -/
theorem length_read_lt_of_escapes {text : List Char} (escapes : Escapes text) :
    (read text).length < (text.flatMap String.utf8EncodeChar).length := by
  cases escapes with
  | @intro high low digit digit' rest =>
    -- Three bytes at least are read as one.
    obtain ⟨b, together⟩ := exists_read_escape digit digit'
    have size (c : Char) : 1 ≤ (String.utf8EncodeChar c).length := by
      rw [String.length_utf8EncodeChar]
      exact c.utf8Size_pos
    have percent := size '%'
    have first := size high
    have more := length_read_le rest
    rw [together]
    simp only [List.length_cons, List.flatMap_cons, List.length_append]
    omega

/-- Reading makes a text shorter if there is an escape in it. -/
theorem length_read_lt (front : List Char) {rest : List Char} (escapes : Escapes rest) :
    (read (front ++ rest)).length <
      ((front ++ rest).flatMap String.utf8EncodeChar).length := by
  induction front with
  | nil => exact length_read_lt_of_escapes escapes
  | cons c front ih =>
    rw [List.cons_append]
    by_cases sign : c = '%'
    · subst sign
      -- An escape that begins at this percent sign may reach into the rest.
      by_cases first : Escapes ('%' :: (front ++ rest))
      · exact length_read_lt_of_escapes first
      · rw [read_percent first, List.flatMap_cons, utf8EncodeChar_percent]
        simpa using ih
    · rw [read_cons_of_ne sign, List.flatMap_cons, List.length_append, List.length_append]
      omega

/-- A text stands for itself if no percent sign in it stands before two digits. -/
theorem read_eq_self_iff (text : List Char) :
    read text = text.flatMap String.utf8EncodeChar ↔
      ∀ front rest, text = front ++ rest → ¬ Escapes rest := by
  constructor
  · rintro same front rest rfl escapes
    -- Nothing but an escape can change a text, since it would become shorter.
    have shorter := length_read_lt front escapes
    rw [same] at shorter
    exact Nat.lt_irrefl _ shorter
  · intro none
    induction text with
    | nil => rfl
    | cons c rest ih =>
      -- The rest has no escape either.
      have later := ih fun front rest' split => none (c :: front) rest' (by rw [split]; rfl)
      by_cases sign : c = '%'
      · subst sign
        rw [read_percent (none [] _ rfl), later, List.flatMap_cons, utf8EncodeChar_percent]
        rfl
      · rw [read_cons_of_ne sign, later, List.flatMap_cons]

/-! ### Forms -/

/-- A character that a form keeps, or writes as a plus sign. -/
def isFormPlain (c : Char) : Bool := isFormLiteral c || c == ' '

theorem ne_plus_of_mem_ofByte {b : UInt8} {c : Char} (mem : c ∈ ofByte b) : c ≠ '+' := by
  have all : ∀ b, (ofByte b).all (· != '+') = true := Bytes.forall_byte (by decide +kernel)
  exact bne_iff_ne.1 (List.all_eq_true.1 (all b) c mem)

/-- A form is written with plus signs for the spaces, and with no others. -/
theorem map_encodeForm (text : List Char) :
    (encodeForm text).map (fun c => if c = '+' then ' ' else c) = encode isFormPlain text := by
  induction text with
  | nil => rfl
  | cons c rest ih =>
    rw [encodeForm, List.flatMap_cons, List.map_append, ← encodeForm, ih]
    -- Spaces are written as plus signs, and plus signs themselves are encoded.
    by_cases space : c = ' '
    · subst space
      have kept : isFormPlain ' ' = true := by decide
      rw [encode_cons_of_pos kept]
      rfl
    · have noSpace : (c == ' ') = false := by simpa using space
      rw [noSpace]
      cases kept : isFormLiteral c with
      | true =>
        have plain : c ≠ '+' := by
          rintro rfl
          exact absurd kept (by decide)
        have kept' : isFormPlain c = true := by rw [isFormPlain, kept]; rfl
        rw [encode_cons_of_pos kept', if_neg Bool.false_ne_true, encode_cons_of_pos kept]
        simp [encode, plain]
      | false =>
        have kept' : isFormPlain c = false := by rw [isFormPlain, kept, noSpace]; rfl
        rw [encode_cons_of_neg kept', if_neg Bool.false_ne_true, encode_cons_of_neg kept]
        congr 1
        -- An escape has no plus sign in it.
        have same : ∀ d ∈ (String.utf8EncodeChar c).flatMap ofByte,
            (if d = '+' then ' ' else d) = d := by
          intro d mem
          obtain ⟨b, -, mem⟩ := List.mem_flatMap.1 mem
          exact if_neg (ne_plus_of_mem_ofByte mem)
        rw [encode, List.flatMap_nil, List.append_nil, List.map_congr_left same, List.map_id']

/-- A text is determined by its bytes. -/
theorem flatMap_utf8EncodeChar_injective {text other : List Char}
    (same : text.flatMap String.utf8EncodeChar = other.flatMap String.utf8EncodeChar) :
    text = other := by
  have texts : String.ofList text = String.ofList other := by
    apply Bytes.ofString_injective
    simpa [Bytes.ofString] using same
  simpa using congrArg String.toList texts

/-- Different values of a form are written differently. -/
theorem encodeForm_injective {text other : List Char} (same : encodeForm text = encodeForm other) :
    text = other := by
  have encoded : encode isFormPlain text = encode isFormPlain other := by
    rw [← map_encodeForm, ← map_encodeForm, same]
  have percent : isFormPlain '%' = false := by decide
  apply flatMap_utf8EncodeChar_injective
  rw [← read_encode percent text, encoded, read_encode percent]

end LargeFiles.Text.Percent
