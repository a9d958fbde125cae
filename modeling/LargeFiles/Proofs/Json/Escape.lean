import LargeFiles.Json.Escape
import LargeFiles.Proofs.Bytes
import Mathlib.Data.List.Basic

/-!
# Escaped texts

What stands between the quotes of a JSON string that is written says the text that it was written
for, and ends where it should.

* `Escaped`             the three forms in which a byte is written;
* `unescape_escape`     an escaped text says the text;
* `stringLength_escape` the closing quote of a written string is the first one;
* `isText_escape`       an escaped text is a text.
-/

namespace LargeFiles.Json

/-! ### Single bytes -/

/-- The forms in which a byte is written between quotes. -/
inductive Escaped (b : UInt8) : Bytes → Prop
  /-- A backslash and a letter. -/
  | letter (letter : UInt8) (ne : letter ≠ 0x75) (simple : Token.isSimpleEscape letter = true)
    (meant : escapedByte? letter = some b) : Escaped b [Token.backslash, letter]
  /-- A backslash, the letter `u` and four digits, of which the first two are zero. -/
  | digits (high low : UInt8) (hex : [0x30, 0x30, high, low].all Token.isHexDigit = true)
    (meant : codeUnit? [0x30, 0x30, high, low] = some b.toNat) (control : b.toNat < 0x20)
    (char : String.utf8EncodeChar (Char.ofNat b.toNat) = [b]) :
    Escaped b [Token.backslash, 0x75, 0x30, 0x30, high, low]
  /-- Itself. -/
  | plain (notQuote : b ≠ Token.quote) (notBackslash : b ≠ Token.backslash)
    (printable : ¬ b < 0x20) : Escaped b [b]

/-- The escapes with a letter stand for the characters that they are written for. -/
theorem escaped_letter : ∀ pair ∈ ([(0x22, 0x22), (0x5c, 0x5c), (0x08, 0x62), (0x0c, 0x66),
    (0x0a, 0x6e), (0x0d, 0x72), (0x09, 0x74)] : List (UInt8 × UInt8)),
    pair.2 ≠ 0x75 ∧ Token.isSimpleEscape pair.2 = true ∧ escapedByte? pair.2 = some pair.1 ∧
      pair.1 < 0x80 := by
  simp only [List.mem_cons, List.not_mem_nil, or_false, forall_eq_or_imp, forall_eq]
  decide

/-- The other control characters are written as four digits, which stand for them. -/
theorem escaped_control : ∀ k : Fin 0x20,
    let hex := 0x30 :: 0x30 :: (Text.Hex.ofByte (UInt8.ofNat k)).map Char.toUInt8
    hex.all Token.isHexDigit = true ∧ codeUnit? hex = some k.val ∧
      String.utf8EncodeChar (Char.ofNat k) = [UInt8.ofNat k] := by
  decide

/-- Each byte is written in one of the three ways. -/
theorem escaped_escapeByte (b : UInt8) : Escaped b (escapeByte b) := by
  rw [escapeByte]
  cases found : escapeLetter? b with
  | some letter =>
    obtain ⟨before, after, pairs, -⟩ := List.lookup_eq_some_iff.1 found
    obtain ⟨ne, simple, meant, -⟩ := escaped_letter (b, letter) (by simp [pairs])
    exact .letter letter ne simple meant
  | none =>
    -- Without a letter of its own, a control character is written in digits.
    by_cases control : b < 0x20
    · have below := UInt8.lt_iff_toNat_lt.1 control
      obtain ⟨hex, meant, char⟩ := escaped_control ⟨b.toNat, below⟩
      simp only [UInt8.ofNat_toNat] at hex meant char
      simp only [if_pos control]
      exact .digits _ _ hex meant below char
    · simp only [if_neg control]
      refine .plain ?_ ?_ control
      -- The quote and the backslash have letters.
      · rintro rfl
        cases found
      · rintro rfl
        cases found

/-! ### Reading escapes -/

/-- What a byte was written as is read as that byte. -/
theorem unescapeOnto_append {b : UInt8} {form : Bytes} (h : Escaped b form) (done rest : Bytes) :
    unescapeOnto done (form ++ rest) = unescapeOnto (b :: done) rest := by
  cases h with
  | letter letter ne simple meant =>
    show unescapeOnto done (0x5c :: letter :: rest) = _
    rw [unescapeOnto]
    · simp only [meant]
    · exact fun _ _ _ _ _ same => absurd same ne
  | digits high low hex meant control char =>
    show unescapeOnto done (0x5c :: 0x75 :: 0x30 :: 0x30 :: high :: low :: rest) = _
    -- The digits are those of a control character, so they are no half of a pair.
    have notLow : isLowSurrogate b.toNat = false := by
      simp only [isLowSurrogate, Bool.and_eq_false_imp, decide_eq_true_eq]
      omega
    have notHigh : isHighSurrogate b.toNat = false := by
      simp only [isHighSurrogate, Bool.and_eq_false_imp, decide_eq_true_eq]
      omega
    rw [unescapeOnto]
    simp only [meant, notLow, notHigh, char, Bool.false_eq_true, if_false, List.reverse_singleton,
      List.singleton_append]
  -- A byte that is not escaped is taken over.
  | plain notQuote notBackslash printable =>
    rw [List.singleton_append, unescapeOnto]
    · exact fun _ _ _ _ _ same => absurd same notBackslash
    · exact fun _ _ same => absurd same notBackslash

/-- Escapes are undone, byte by byte. -/
theorem unescapeOnto_escape (done text : Bytes) :
    unescapeOnto done (text.flatMap escapeByte) = some (done.reverse ++ text) := by
  induction text generalizing done with
  | nil => simp [unescapeOnto]
  | cons b rest ih =>
    rw [List.flatMap_cons, unescapeOnto_append (escaped_escapeByte b), ih, List.reverse_cons,
      List.append_assoc, List.singleton_append]

/-- An escaped text says the text. -/
theorem unescape_escape (s : String) : unescape (escape s) = some s := by
  rw [unescape, escape, unescapeOnto_escape, List.reverse_nil, List.nil_append, Option.bind_some,
    Bytes.toString?_ofString]

/-! ### Where a string ends -/

/-- The end of a string is looked for after what a byte was written as. -/
theorem stringLength_append {b : UInt8} {form : Bytes} (h : Escaped b form) (n : Nat)
    (rest : Bytes) :
    Token.stringLength n (form ++ rest) = Token.stringLength (n + form.length) rest := by
  cases h with
  -- Both bytes are passed over, so that an escaped quote does not end the string.
  | letter letter ne simple meant =>
    show Token.stringLength n (0x5c :: letter :: rest) = _
    rw [Token.stringLength]
    · rw [if_pos simple]
      rfl
    · exact fun _ _ _ _ _ same => absurd same ne
  | digits high low hex meant control char =>
    show Token.stringLength n (0x5c :: 0x75 :: 0x30 :: 0x30 :: high :: low :: rest) = _
    -- All six bytes of the escape are passed over at once.
    rw [Token.stringLength, if_pos hex]
    rfl
  | plain notQuote notBackslash printable =>
    rw [List.singleton_append, Token.stringLength]
    · simp [notQuote, notBackslash, printable]
    · exact fun _ _ _ _ _ same => absurd same notBackslash
    · exact fun _ _ same => absurd same notBackslash

/-- A string ends at the quote after the escaped text. -/
theorem stringLength_escape (n : Nat) (s : String) (rest : Bytes) :
    Token.stringLength n (escape s ++ Token.quote :: rest) = some (n + (escape s).length) := by
  rw [escape]
  induction Bytes.ofString s generalizing n with
  | nil => simp [Token.stringLength, Token.quote]
  | cons b text ih =>
    rw [List.flatMap_cons, List.append_assoc, stringLength_append (escaped_escapeByte b), ih,
      List.length_append, Nat.add_assoc]

/-! ### Escaped texts as texts -/

/-- The letters of escapes are in ASCII. -/
theorem isSimpleEscape_ascii : ∀ letter ∈ ([0x22, 0x5c, 0x2f, 0x62, 0x66, 0x6e, 0x72, 0x74] :
    Bytes), letter < 0x80 := by
  simp only [List.mem_cons, List.not_mem_nil, or_false, forall_eq_or_imp, forall_eq]
  decide

/-- Hexadecimal digits are in ASCII. -/
theorem lt_of_isHexDigit {b : UInt8} (hex : Token.isHexDigit b = true) : b < 0x80 := by
  simp only [Token.isHexDigit, Token.isDigit, Bool.or_eq_true, Bool.and_eq_true,
    decide_eq_true_eq, UInt8.le_iff_toNat_le] at hex
  rw [UInt8.lt_iff_toNat_lt]
  simp only [UInt8.reduceToNat] at hex ⊢
  omega

/-- What is written for a byte in ASCII is in ASCII. -/
theorem Escaped.ascii {b : UInt8} {form : Bytes} (h : Escaped b form) (small : b < 0x80) :
    ∀ x ∈ form, x < 0x80 := by
  cases h with
  | letter letter ne simple meant =>
    -- An escape is spelled in ASCII, whatever it stands for.
    have ascii := isSimpleEscape_ascii letter (List.contains_iff_mem.1 simple)
    simp only [List.mem_cons, List.not_mem_nil, or_false, forall_eq_or_imp, forall_eq]
    exact ⟨by decide, ascii⟩
  | digits high low hex meant control char =>
    have ascii := fun x mem => lt_of_isHexDigit (List.all_eq_true.1 hex x mem)
    intro x mem
    obtain rfl | rfl | mem := List.mem_cons.1 mem |>.imp_right List.mem_cons.1
    · decide
    · decide
    · exact ascii x mem
  -- Only here does it matter that the byte itself is in ASCII.
  | plain notQuote notBackslash printable =>
    intro x mem
    rwa [List.mem_singleton.1 mem]

/-- A byte that is not in ASCII is written as itself. -/
theorem escapeByte_of_le {b : UInt8} (large : 0x80 ≤ b) : escapeByte b = [b] := by
  have notLetter : escapeLetter? b = none := by
    cases found : escapeLetter? b with
    | none => rfl
    | some letter =>
      obtain ⟨before, after, pairs, -⟩ := List.lookup_eq_some_iff.1 found
      obtain ⟨-, -, -, ascii⟩ := escaped_letter (b, letter) (by simp [pairs])
      exact absurd ascii (UInt8.not_lt.2 large)
  -- It is no control character, and none of those with a letter.
  have printable : ¬ b < 0x20 := UInt8.not_lt.2 (UInt8.le_trans (by decide) large)
  rw [escapeByte, notLetter]
  simp only [if_neg printable]

/-- An escaped text is a text. -/
theorem isText_escape (s : String) : Bytes.IsText (escape s) := by
  rw [escape, Bytes.ofString, List.flatMap_assoc]
  refine Bytes.isText_flatMap fun c _ => ?_
  -- Only bytes in ASCII are escaped, so a character of several bytes stays whole.
  by_cases ascii : c.toNat < 128
  · have small : c.toUInt8 < 0x80 := by
      rw [UInt8.lt_iff_toNat_lt]
      show c.val.toUInt8.toNat < 128
      rw [UInt32.toNat_toUInt8]
      exact Nat.lt_of_le_of_lt (Nat.mod_le _ _) ascii
    rw [Bytes.utf8EncodeChar_of_lt ascii, List.flatMap_singleton]
    exact Bytes.isText_of_lt ((escaped_escapeByte _).ascii small)
  -- A character of several bytes has none in ASCII, so none of them is escaped.
  · have large := fun b => Bytes.le_of_mem_utf8EncodeChar (b := b) (Nat.le_of_not_lt ascii)
    have itself : (String.utf8EncodeChar c).flatMap escapeByte = String.utf8EncodeChar c := by
      rw [List.flatMap_congr fun b mem => escapeByte_of_le (large b mem)]
      exact List.flatMap_singleton' _
    rw [itself]
    exact ⟨String.singleton c, by simp [Bytes.ofString]⟩

end LargeFiles.Json
