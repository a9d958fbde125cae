import LargeFiles.Proofs.Bytes
import LargeFiles.Proofs.List
import LargeFiles.Proofs.Text.Hex

/-!
# Texts that name objects

A text names an object if and only if, but for the case of its letters, it is the hexadecimal text
of a digest.  Any other text is refused for one of three reasons, which are looked for in a fixed
order: an odd number of bytes, then the first byte that is no digit, then the width.

* `Text.Hex.reading_decode`   how the reading of pairs of digits ends;
* `ofHex_eq_ok_iff`           a text is read as the name that is written like it;
* `exists_ofHex_iff`          which texts are names;
* `names_read_back`           what any text is read as, and that names are read back.
-/

namespace LargeFiles

namespace Text.Hex

/-! ### Digits of either case -/

/-- A hexadecimal digit of either case. -/
def isAnyDigit (c : Char) : Bool := isDigit c || ('A' ≤ c && c ≤ 'F')

/-- Whether a byte is the code of a hexadecimal digit. -/
def isCode (b : UInt8) : Bool := isAnyDigit (Char.ofUInt8 b)

/-- Exactly the codes of digits stand for a number. -/
theorem isSome_value? : ∀ b, (value? b).isSome = isCode b :=
  Bytes.forall_byte (by decide +kernel)

/-- The number that a digit stands for is written as this digit, in lower case. -/
theorem digit_of_value? :
    ∀ b, ∀ n ∈ value? b, n.toNat < 16 ∧ digit n = (Char.ofUInt8 b).toLower :=
  Bytes.forall_byte (by decide +kernel)

theorem lt_of_isCode : ∀ b, isCode b = true → b.toNat < 128 :=
  Bytes.forall_byte (by decide +kernel)

/-- A byte is written as the digits of its halves. -/
theorem ofByte_fin : ∀ h l : Fin 16,
    ofByte (UInt8.ofNat h <<< 4 ||| UInt8.ofNat l) =
      [digit (UInt8.ofNat h), digit (UInt8.ofNat l)] := by
  decide +kernel

/-- The byte that two digits stand for is written with these digits. -/
theorem ofByte_of_lt {h l : UInt8} (hh : h.toNat < 16) (hl : l.toNat < 16) :
    ofByte (h <<< 4 ||| l) = [digit h, digit l] := by
  simpa using ofByte_fin ⟨h.toNat, hh⟩ ⟨l.toNat, hl⟩

/-! ### Readings -/

/-- How the reading of digits that start at a position ends. -/
inductive Reading (position : Nat) (text : Bytes) : Except Fault Bytes → Prop
  /-- The first byte that is no digit ends the reading. -/
  | stopped (front : Bytes) {back : Bytes} {code : UInt8} (parts : text = front ++ code :: back)
      (digits : ∀ b ∈ front, isCode b = true) (other : isCode code = false) :
      Reading position text (.error (.badDigit code (position + front.length)))
  /-- The bytes are those that are written with these digits. -/
  | whole {bytes : Bytes} (digits : ∀ b ∈ text, isCode b = true)
      (written : bytes.flatMap ofByte = text.map fun b => (Char.ofUInt8 b).toLower) :
      Reading position text (.ok bytes)

/-- Digits are read pair by pair, up to the first character that is none. -/
theorem reading_decodePairs (position : Nat) {text : Bytes} (even : text.length % 2 = 0) :
    Reading position text (decodePairs position text) := by
  fun_induction decodePairs position text with
  | case1 position high low rest bad =>
    have other : isCode high = false := by rw [← isSome_value?, bad]; rfl
    exact .stopped [] rfl (by simp) other
  | case2 position high low rest h bad high_eq =>
    have digit : isCode high = true := by rw [← isSome_value?, high_eq]; rfl
    have other : isCode low = false := by rw [← isSome_value?, bad]; rfl
    exact .stopped [high] rfl (by simpa using digit) other
  -- Both digits of the first pair are read, and then it depends on the others.
  | case3 position high low rest h l low_eq high_eq bytes rest_eq ih =>
    have digits : isCode high = true ∧ isCode low = true := by
      rw [← isSome_value?, ← isSome_value?, high_eq, low_eq]
      exact ⟨rfl, rfl⟩
    obtain ⟨hh, high_written⟩ := digit_of_value? high h high_eq
    obtain ⟨hl, low_written⟩ := digit_of_value? low l low_eq
    have tail := ih (by simp only [List.length_cons] at even; omega)
    rw [rest_eq] at tail
    cases tail with
    | whole rest_digits written =>
      refine .whole (by simpa [digits] using rest_digits) ?_
      rw [List.flatMap_cons, ofByte_of_lt hh hl, written, high_written, low_written]
      rfl
  -- The fault is in the rest, and its position is counted from the start.
  | case4 position high low rest h l low_eq high_eq fault rest_eq ih =>
    have digits : isCode high = true ∧ isCode low = true := by
      rw [← isSome_value?, ← isSome_value?, high_eq, low_eq]
      exact ⟨rfl, rfl⟩
    have tail := ih (by simp only [List.length_cons] at even; omega)
    rw [rest_eq] at tail
    cases tail with
    | stopped front parts front_digits other =>
      rw [Nat.add_assoc, Nat.add_comm 2, parts]
      exact .stopped (high :: low :: front) rfl (by simpa [digits] using front_digits) other
  | case5 text position short =>
    -- Fewer than two bytes, and an even number of them.
    obtain rfl : text = [] := by
      match text with
      | [] => rfl
      | [_] => simp at even
      | high :: low :: rest => exact absurd rfl (short high low rest)
    exact .whole (by simp) rfl

/-- An odd number of characters is refused before any of them is looked at. -/
theorem decode_of_odd {text : Bytes} (odd : text.length % 2 = 1) :
    decode text = .error .oddLength :=
  if_pos odd

/-- An even number of bytes is read up to the first that is no digit. -/
theorem reading_decode {text : Bytes} (even : text.length % 2 = 0) :
    Reading 0 text (decode text) := by
  have notOdd : ¬ text.length % 2 = 1 := by omega
  rw [decode, if_neg notOdd]
  exact reading_decodePairs 0 even

/-! ### Texts -/

/-- The digits by their codes. -/
theorem isAnyDigit_iff {c : Char} : isAnyDigit c = true ↔
    48 ≤ c.toNat ∧ c.toNat ≤ 57 ∨ 97 ≤ c.toNat ∧ c.toNat ≤ 102 ∨
      65 ≤ c.toNat ∧ c.toNat ≤ 70 := by
  have code : c.val.toNat = c.toNat := rfl
  simp only [isAnyDigit, isDigit, Char.isDigit, Bool.or_eq_true, Bool.and_eq_true,
    decide_eq_true_eq, Char.le_def, UInt32.le_iff_toNat_le, ge_iff_le, code, or_assoc]
  exact Iff.rfl

/-- A text is put into lower case letter by letter. -/
theorem toList_toLower (text : String) : text.toLower.toList = text.toList.map Char.toLower :=
  String.toList_map

/-- A digit of either case is one whose lower case is a digit. -/
theorem isDigit_toLower (c : Char) : isDigit c.toLower = isAnyDigit c := by
  have ascii_case : ∀ k : Fin 128,
      isDigit (Char.ofNat k).toLower = isAnyDigit (Char.ofNat k) := by decide +kernel
  by_cases ascii : c.toNat < 128
  · simpa using ascii_case ⟨c.toNat, ascii⟩
  · -- Letters out of ASCII have no lower case here.
    have large : ¬(c.val ≥ 'A'.val ∧ c.val ≤ 'Z'.val) := by
      rintro ⟨-, le⟩
      exact ascii (Nat.lt_of_le_of_lt (UInt32.le_iff_toNat_le.1 le) (by decide))
    have same : c.toLower = c := dif_neg large
    have notAny : isAnyDigit c ≠ true := by
      rw [ne_eq, isAnyDigit_iff]
      omega
    have notLower : isDigit c ≠ true := fun digit => notAny (by simp [isAnyDigit, digit])
    rw [same, Bool.eq_false_iff.2 notAny, Bool.eq_false_iff.2 notLower]

theorem lt_of_isAnyDigit {c : Char} (h : isAnyDigit c = true) : c.toNat < 128 := by
  rw [isAnyDigit_iff] at h
  omega

/-- A lower case digit stays as it is. -/
theorem toLower_of_isDigit {c : Char} (h : isDigit c = true) : c.toLower = c := by
  have lower : ∀ k : Fin 128, isDigit (Char.ofNat k) = true →
      (Char.ofNat k).toLower = Char.ofNat k := by decide +kernel
  have ascii : c.toNat < 128 := lt_of_isAnyDigit (by simp [isAnyDigit, h])
  simpa using lower ⟨c.toNat, ascii⟩ (by simpa using h)

/-- The bytes of a text are codes of digits if its characters are digits. -/
theorem forall_isCode_iff {text : String} :
    (∀ b ∈ Bytes.ofString text, isCode b = true) ↔ ∀ c ∈ text.toList, isAnyDigit c = true := by
  constructor
  · intro digits c mem
    have ascii := Bytes.lt_of_ofString fun b mem => lt_of_isCode b (digits b mem)
    rw [← Bytes.map_ofString ascii] at mem
    obtain ⟨b, within, rfl⟩ := List.mem_map.1 mem
    exact digits b within
  · intro digits b mem
    -- In ASCII the bytes of a text are the codes of its characters.
    have ascii : ∀ c ∈ text.toList, c.toNat < 128 := fun c mem => lt_of_isAnyDigit (digits c mem)
    apply digits
    rw [← Bytes.map_ofString ascii]
    exact List.mem_map_of_mem mem

/-- Each digit is one byte. -/
theorem length_ofString_of_digits {text : String}
    (digits : ∀ c ∈ text.toList, isAnyDigit c = true) :
    (Bytes.ofString text).length = text.toList.length := by
  rw [Bytes.ofString_eq_map fun c mem => lt_of_isAnyDigit (digits c mem), List.length_map]

/-- Digits are read as the bytes that are written with them. -/
theorem encode_of_reading {text : String} {bytes : Bytes}
    (reading : Reading 0 (Bytes.ofString text) (.ok bytes)) : encode bytes = text.toLower := by
  cases reading with
  | whole digits written =>
    have ascii := Bytes.lt_of_ofString fun b mem => lt_of_isCode b (digits b mem)
    apply String.toList_injective
    rw [toList_encode, written, toList_toLower, ← Bytes.map_ofString ascii, List.map_map]
    rfl

/-- A text is read as the bytes that are written like it, but for the case of its letters. -/
theorem decode_eq_ok_iff {text : String} {bytes : Bytes} :
    decode (Bytes.ofString text) = .ok bytes ↔ encode bytes = text.toLower := by
  constructor
  · intro read
    by_cases even : (Bytes.ofString text).length % 2 = 0
    · apply encode_of_reading
      rw [← read]
      exact reading_decode even
    · rw [decode_of_odd (by omega)] at read
      cases read
  · intro written
    have lower : text.toList.map Char.toLower = (encode bytes).toList := by
      rw [written, toList_toLower]
    -- What was written has digits only, so nothing stops the reading.
    have digits : ∀ c ∈ text.toList, isAnyDigit c = true := by
      intro c mem
      have mem' : c.toLower ∈ (encode bytes).toList := lower ▸ List.mem_map_of_mem mem
      rw [← isDigit_toLower]
      exact isDigit_of_mem_encode mem'
    -- Each byte is written as two digits.
    have even : (Bytes.ofString text).length % 2 = 0 := by
      have length := congrArg List.length lower
      rw [List.length_map, length_encode] at length
      rw [length_ofString_of_digits digits, length]
      omega
    have reading := reading_decode even
    cases read : decode (Bytes.ofString text) with
    | ok other =>
      rw [read] at reading
      rw [encode_injective ((encode_of_reading reading).trans written.symm)]
    | error fault =>
      rw [read] at reading
      cases reading with
      | stopped _ parts _ other =>
        have digit := forall_isCode_iff.2 digits _
          (parts ▸ List.mem_append_right _ List.mem_cons_self)
        rw [other] at digit
        cases digit

/-! ### Ways to fail -/

/-- The odd length is told exactly for odd lengths. -/
theorem decode_eq_oddLength_iff {text : Bytes} :
    decode text = .error .oddLength ↔ text.length % 2 = 1 := by
  by_cases even : text.length % 2 = 0
  · have reading := reading_decode even
    generalize decode text = result at reading
    cases reading with
    | stopped | whole => exact iff_of_false nofun (by omega)
  · have odd : text.length % 2 = 1 := by omega
    exact iff_of_true (decode_of_odd odd) odd

/-- An even number of bytes fails at the first that is no digit. -/
theorem decode_eq_badDigit_iff {text : Bytes} {code : UInt8} {position : Nat} :
    decode text = .error (.badDigit code position) ↔
      text.length % 2 = 0 ∧ ∃ front back, text = front ++ code :: back ∧
        front.length = position ∧ (∀ b ∈ front, isCode b = true) ∧ isCode code = false := by
  by_cases even : text.length % 2 = 0
  · have reading := reading_decode even
    rw [and_iff_right even]
    constructor
    · intro read
      rw [read] at reading
      generalize result_eq : Except.error (Fault.badDigit code position) = result at reading
      cases reading with
      | whole => cases result_eq
      | stopped _ parts digits other =>
        cases result_eq
        exact ⟨_, _, parts, (Nat.zero_add _).symm, digits, other⟩
    · rintro ⟨front, back, parts, rfl, digits, other⟩
      generalize decode text = result at reading
      cases reading with
      | whole all =>
        have digit := all code (parts ▸ List.mem_append_right _ List.mem_cons_self)
        rw [other] at digit
        cases digit
      | stopped _ parts' digits' other' =>
        -- Both divisions are made at the first character that is no digit.
        obtain ⟨before, after⟩ := takeWhile_dropWhile_of_parts parts digits other
        obtain ⟨before', after'⟩ := takeWhile_dropWhile_of_parts parts' digits' other'
        rw [before] at before'
        rw [after] at after'
        cases before'
        cases after'
        rw [Nat.zero_add]
  · rw [decode_of_odd (by omega)]
    exact iff_of_false nofun fun h => even h.1

/-- Reading fails for an odd length or a character that is no digit. -/
theorem exists_decode_error_iff {text : Bytes} :
    (∃ fault, decode text = .error fault) ↔
      text.length % 2 = 1 ∨ ∃ b ∈ text, isCode b = false := by
  by_cases even : text.length % 2 = 0
  · have reading := reading_decode even
    rw [or_iff_right (by omega)]
    generalize decode text = result at reading
    cases reading with
    | stopped _ parts digits other =>
      exact iff_of_true ⟨_, rfl⟩ ⟨_, parts ▸ List.mem_append_right _ List.mem_cons_self, other⟩
    -- All are digits, so there is no fault and none of the reasons for one.
    | whole digits written =>
      refine iff_of_false nofun ?_
      rintro ⟨b, mem, other⟩
      rw [digits b mem] at other
      cases other
  · have odd : text.length % 2 = 1 := by omega
    exact iff_of_true ⟨_, decode_of_odd odd⟩ (.inl odd)

/-- An even number of digits is read as half as many bytes. -/
theorem exists_decode_iff {text : Bytes} {n : Nat} :
    (∃ bytes, decode text = .ok bytes ∧ bytes.length = n) ↔
      text.length = 2 * n ∧ ∀ b ∈ text, isCode b = true := by
  by_cases even : text.length % 2 = 0
  · have reading := reading_decode even
    generalize decode text = result at reading
    cases reading with
    | stopped _ parts digits other =>
      refine iff_of_false nofun fun h => ?_
      have digit := h.2 _ (parts ▸ List.mem_append_right _ List.mem_cons_self)
      rw [other] at digit
      cases digit
    -- Each byte comes from two digits.
    | @whole bytes digits written =>
      have length := congrArg List.length written
      rw [← toList_encode, length_encode, List.length_map] at length
      rw [and_iff_left digits]
      constructor
      · rintro ⟨_, ⟨⟩, rfl⟩
        exact length.symm
      · intro twice
        exact ⟨bytes, rfl, by omega⟩
  -- Twice a number is never odd.
  · rw [decode_of_odd (by omega)]
    exact iff_of_false nofun fun h => even (by omega)

end Text.Hex

namespace ObjectName

open Text.Hex (isAnyDigit isCode)

variable {text : String} {name : ObjectName}

/-! ### Names -/

/-- A name is refused as not hexadecimal for the reason that its digits are. -/
theorem ofHex_eq_notHex_iff {fault : Text.Hex.Fault} :
    ofHex text = .error (.notHex fault) ↔
      Text.Hex.decode (Bytes.ofString text) = .error fault := by
  rw [ofHex]
  cases Text.Hex.decode (Bytes.ofString text) with
  | error other => simp
  | ok bytes =>
    refine iff_of_false (fun read => ?_) nofun
    dsimp only at read
    split at read <;> cases read

/-- A name is refused for its width if its digits are read, but give neither width. -/
theorem ofHex_eq_width_iff {n : Nat} :
    ofHex text = .error (.width n) ↔
      (∃ bytes, Text.Hex.decode (Bytes.ofString text) = .ok bytes ∧ bytes.length = n) ∧
        n ≠ 20 ∧ n ≠ 32 := by
  rw [ofHex]
  cases Text.Hex.decode (Bytes.ofString text) with
  | error other => simp
  | ok bytes =>
    -- Only these two widths are those of a name.
    by_cases fits : bytes.length = 20 ∨ bytes.length = 32
    · simp only [ofBytes?, dif_pos fits]
      refine iff_of_false nofun ?_
      rintro ⟨⟨_, ⟨⟩, rfl⟩, apart⟩
      omega
    · simp only [ofBytes?, dif_neg fits, Except.error.injEq, Fault.width.injEq]
      constructor
      · rintro rfl
        exact ⟨⟨bytes, rfl, rfl⟩, not_or.1 fits⟩
      · rintro ⟨⟨_, ⟨⟩, rfl⟩, -⟩
        rfl

/-- A name is read from its digits. -/
theorem ofHex_eq_ok_iff_decode :
    ofHex text = .ok name ↔ Text.Hex.decode (Bytes.ofString text) = .ok name.bytes := by
  rw [ofHex]
  cases Text.Hex.decode (Bytes.ofString text) with
  | error fault => simp
  | ok bytes =>
    by_cases fits : bytes.length = 20 ∨ bytes.length = 32
    · simp only [ofBytes?, dif_pos fits, Except.ok.injEq, ObjectName.ext_iff]
    · simp only [ofBytes?, dif_neg fits]
      refine iff_of_false nofun ?_
      rintro ⟨⟩
      -- A name has one of the two widths.
      exact fits name.width

/-- A text is read as the name that is written like it, but for the case of its letters. -/
theorem ofHex_eq_ok_iff : ofHex text = .ok name ↔ name.toHex = text.toLower := by
  rw [ofHex_eq_ok_iff_decode, Text.Hex.decode_eq_ok_iff, toHex]

/-- A name is written with twice as many digits as it has bytes. -/
theorem length_of_ofHex (read : ofHex text = .ok name) : text.length = 2 * name.bytes.length := by
  have written := congrArg (·.toList.length) (ofHex_eq_ok_iff.1 read)
  simp only [toHex, Text.Hex.length_encode, Text.Hex.toList_toLower, List.length_map] at written
  rw [← String.length_toList, written]

/-- Exactly 40 or 64 digits are a name. -/
theorem exists_ofHex_iff :
    (∃ name, ofHex text = .ok name) ↔
      (text.length = 40 ∨ text.length = 64) ∧ ∀ c ∈ text.toList, isAnyDigit c = true := by
  constructor
  · rintro ⟨name, read⟩
    have length := length_of_ofHex read
    have width := name.width
    refine ⟨by omega, fun c mem => ?_⟩
    -- What was read is written in lower case, and all of that are digits.
    have mem' : c.toLower ∈ name.toHex.toList := by
      rw [ofHex_eq_ok_iff.1 read, Text.Hex.toList_toLower]
      exact List.mem_map_of_mem mem
    rw [← Text.Hex.isDigit_toLower]
    exact Text.Hex.isDigit_of_mem_encode mem'
  · rintro ⟨length, digits⟩
    -- Forty digits are twenty bytes, and sixty-four are thirty-two.
    obtain ⟨n, twice, fits⟩ : ∃ n, text.length = 2 * n ∧ (n = 20 ∨ n = 32) :=
      ⟨text.length / 2, by omega, by omega⟩
    have codes := Text.Hex.forall_isCode_iff.2 digits
    have bytes_length := Text.Hex.length_ofString_of_digits digits
    rw [String.length_toList, twice] at bytes_length
    obtain ⟨bytes, read, rfl⟩ := Text.Hex.exists_decode_iff.2 ⟨bytes_length, codes⟩
    exact ⟨⟨bytes, fits⟩, ofHex_eq_ok_iff_decode.2 read⟩

/-- The text of a name is in lower case. -/
theorem toLower_toHex (name : ObjectName) : name.toHex.toLower = name.toHex := by
  apply String.toList_injective
  rw [Text.Hex.toList_toLower]
  refine (List.map_congr_left fun c mem => ?_).trans (List.map_id _)
  exact Text.Hex.toLower_of_isDigit (Text.Hex.isDigit_of_mem_encode mem)

/-- A name is read back from its text. -/
theorem ofHex_toHex (name : ObjectName) : ofHex name.toHex = .ok name :=
  ofHex_eq_ok_iff.2 name.toLower_toHex.symm

/-- What a text is read as. -/
structure ReadsAs (text : String) (result : Except Fault ObjectName) : Prop where
  /-- Exactly texts of 40 or 64 hexadecimal digits, of either case, are names. -/
  accepted : (∃ name, result = .ok name) ↔
    (text.length = 40 ∨ text.length = 64) ∧ ∀ c ∈ text.toList, isAnyDigit c = true
  /-- The name is written like the text, in lower case, and its width is that of the text. -/
  named : ∀ name, result = .ok name →
    name.toHex = text.toLower ∧ (name.algorithm = .sha1 ↔ text.length = 40) ∧
      (name.algorithm = .sha256 ↔ text.length = 64)
  /-- A text is not hexadecimal if the number of its bytes is odd or one of them is no digit. -/
  notHex : (∃ fault, result = .error (.notHex fault)) ↔
    (Bytes.ofString text).length % 2 = 1 ∨ ∃ b ∈ Bytes.ofString text, isCode b = false
  /-- Of the two reasons the first is looked for first. -/
  oddLength : result = .error (.notHex .oddLength) ↔ (Bytes.ofString text).length % 2 = 1
  /-- The second is told by the first byte that is no digit. -/
  badDigit : ∀ code position, result = .error (.notHex (.badDigit code position)) ↔
    (Bytes.ofString text).length % 2 = 0 ∧ ∃ front back,
      Bytes.ofString text = front ++ code :: back ∧ front.length = position ∧
        (∀ b ∈ front, isCode b = true) ∧ isCode code = false
  /-- Any other text has the wrong width. -/
  width : ∀ n, result = .error (.width n) ↔
    ((Bytes.ofString text).length = 2 * n ∧ ∀ b ∈ Bytes.ofString text, isCode b = true) ∧
      n ≠ 20 ∧ n ≠ 32

/-- A text is read as a name, or refused for the first fault it has. -/
theorem reads_ofHex (text : String) : ReadsAs text (ofHex text) where
  accepted := exists_ofHex_iff
  named name read := by
    have length := length_of_ofHex read
    have width := name.width
    refine ⟨ofHex_eq_ok_iff.1 read, ?_, ?_⟩
    · rw [algorithm]
      split <;> simp <;> omega
    · rw [algorithm]
      split <;> simp <;> omega
  notHex := by
    simp only [ofHex_eq_notHex_iff]
    exact Text.Hex.exists_decode_error_iff
  oddLength := by rw [ofHex_eq_notHex_iff, Text.Hex.decode_eq_oddLength_iff]
  badDigit code position := by rw [ofHex_eq_notHex_iff, Text.Hex.decode_eq_badDigit_iff]
  width n := by rw [ofHex_eq_width_iff, Text.Hex.exists_decode_iff]

/-- A text is the name of an object if and only if it consists of 40 or 64 hexadecimal digits of
    either case.  It is read as the one name that is written like it in lower case, and every name
    is read back from its text, so different names have different texts.  Any other text is refused
    for the first of three reasons that applies. -/
theorem names_read_back :
    (∀ text, ReadsAs text (ofHex text)) ∧ (∀ name : ObjectName, ofHex name.toHex = .ok name) ∧
      Function.Injective toHex :=
  ⟨reads_ofHex, ofHex_toHex, toHex_injective⟩

/-- A text of forty bytes that are no digits, twenty characters of two bytes each. -/
example : ofHex (String.ofList (List.replicate 20 'ä')) = .error (.notHex (.badDigit 0xC3 0)) := by
  rfl

end ObjectName

end LargeFiles
