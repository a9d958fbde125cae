import LargeFiles.Pointer
import LargeFiles.Proofs.Bytes
import LargeFiles.Proofs.Text.Decimal

/-!
# Pointer documents

The document that is written for a pointer is read as that pointer, and a blob that is too large
for a document is no pointer.

* `lines_append`              the lines of a text after its first one;
* `addLine_keyLine`           what a line of a key and a value says;
* `parse_toBytes`             reading the canonical document.
-/

namespace LargeFiles

namespace Pointer

/-- The hash of an identifier comes after the scheme. -/
theorem hashOfOid?_scheme (hash : String) : hashOfOid? (scheme ++ hash) = some hash := by
  have start : scheme.toList.isPrefixOf (scheme ++ hash).toList = true := by
    rw [List.isPrefixOf_iff_prefix, String.toList_append]
    exact List.prefix_append _ _
  rw [hashOfOid?, if_pos start, String.toList_append, List.drop_left, String.ofList_toList]

/-- A name of a content consists of the scheme and the hash. -/
theorem hashOfOid?_eq_some_iff {oid hash : String} :
    hashOfOid? oid = some hash ↔ oid = scheme ++ hash := by
  constructor
  · intro named
    rw [hashOfOid?] at named
    split at named
    · next start =>
      cases named
      -- What is left without the prefix is the hash.
      obtain ⟨rest, whole⟩ := List.isPrefixOf_iff_prefix.1 start
      apply String.toList_injective
      rw [String.toList_append, String.toList_ofList, ← whole, List.drop_left]
    · cases named
  · rintro rfl
    exact hashOfOid?_scheme hash

/-! ### Lines -/

theorem lines_nil : lines [] = [[]] := by simp [lines]

/-- The lines of a text after its first one. -/
theorem lines_append {line : List Char} (single : '\n' ∉ line) (rest : List Char) :
    lines (line ++ '\n' :: rest) = stripReturn line :: lines rest := by
  have more := List.splitOn_ne_nil '\n' rest
  rw [lines, List.splitOn_append_cons_self_of_not_mem single, List.dropLast_cons_of_ne_nil more,
    List.map_cons, List.cons_append]
  simp only [lines, List.getLast?_cons_of_ne_nil more]

/-- Only a carriage return is stripped. -/
theorem stripReturn_of_notMem {line : List Char} (h : '\r' ∉ line) : stripReturn line = line := by
  rw [stripReturn, if_neg]
  intro last
  exact h (List.mem_of_getLast? last)

/-- A line of a key and a value. -/
def keyLine (key value : List Char) : List Char := key ++ ' ' :: value

/-- A character of a line is a space, or comes from the key or from the value. -/
theorem notMem_keyLine {key value : List Char} {c : Char} (ne : c ≠ ' ') (notKey : c ∉ key)
    (notValue : c ∉ value) : c ∉ keyLine key value := by
  rw [keyLine, List.mem_append, List.mem_cons]
  rintro (mem | eq | mem)
  · exact notKey mem
  · exact ne eq
  · exact notValue mem

/-- A line with a key and a value is a line of its own. -/
theorem lines_keyLine_append {key value : List Char} (feed : '\n' ∉ key ∧ '\n' ∉ value)
    (carriage : '\r' ∉ key ∧ '\r' ∉ value) (rest : List Char) :
    lines (keyLine key value ++ '\n' :: rest) = keyLine key value :: lines rest := by
  rw [lines_append (notMem_keyLine (by decide) feed.1 feed.2),
    stripReturn_of_notMem (notMem_keyLine (by decide) carriage.1 carriage.2)]

/-- A line is divided at the first space, which is the one after the key. -/
theorem keyValue?_keyLine {key : List Char} (h : ' ' ∉ key) (value : List Char) :
    keyValue? (keyLine key value) = some (key, value) := by
  have all : ∀ c ∈ key, decide (c ≠ ' ') = true := by
    intro c mem
    exact decide_eq_true fun eq => h (eq ▸ mem)
  simp only [keyValue?, keyLine, List.dropWhile_append_of_pos all,
    List.takeWhile_append_of_pos all]
  simp

/-- What a line of a key and a value says is what the key and the value say. -/
theorem addLine_keyLine {key : List Char} (h : ' ' ∉ key) (value : List Char) (draft : Draft) :
    draft.addLine (keyLine key value) =
      if key = "version".toList then .ok { draft with version := some value }
      else if key = "oid".toList then .ok { draft with oid := some value }
      else if key = "size".toList then
        match Text.Decimal.ofNumeral? value with
        | some size => .ok { draft with size := some size }
        | none => .error (.invalidSize value)
      else .ok draft := by
  -- There is a space in the line at least.
  have nonempty : (keyLine key value).isEmpty = false := by
    simp [keyLine]
  rw [Draft.addLine, nonempty, keyValue?_keyLine h]
  rfl

/-! ### The canonical document -/

/-- A hash has lower case hexadecimal digits. -/
theorem isDigit_of_mem_hash {p : Pointer} {c : Char} (mem : c ∈ p.hash.toList) :
    (c.isDigit || ('a' ≤ c && c ≤ 'f')) = true := by
  have ok := p.hash_ok
  rw [isContentHash, Bool.and_eq_true, List.all_eq_true] at ok
  exact ok.2 c mem

/-- A hash has sixty-four digits. -/
theorem length_hash (p : Pointer) : p.hash.toList.length = 64 := by
  have ok := p.hash_ok
  rw [isContentHash, Bool.and_eq_true] at ok
  exact of_decide_eq_true ok.1

/-- The canonical document by its lines. -/
theorem toList_text (p : Pointer) :
    p.text.toList =
      keyLine "version".toList version.toList ++ '\n' ::
        (keyLine "oid".toList p.oid.toList ++ '\n' ::
          (keyLine "size".toList (Text.Decimal.digits p.size.toNat) ++ '\n' :: [])) := by
  have first : "version ".toList = "version".toList ++ [' '] := rfl
  have second : "\noid ".toList = '\n' :: ("oid".toList ++ [' ']) := rfl
  have third : "\nsize ".toList = '\n' :: ("size".toList ++ [' ']) := rfl
  have last : "\n".toList = ['\n'] := rfl
  simp only [text, String.toList_append, first, second, third, last,
    Text.Decimal.toList_toString, keyLine, List.append_assoc, List.cons_append, List.nil_append]

/-- A character of an identifier comes from the scheme or is a digit. -/
theorem notMem_oid (p : Pointer) {c : Char} (notScheme : c ∉ scheme.toList)
    (notDigit : (c.isDigit || ('a' ≤ c && c ≤ 'f')) = false) : c ∉ p.oid.toList := by
  rw [oid, String.toList_append, List.mem_append]
  rintro (mem | mem)
  · exact notScheme mem
  · rw [isDigit_of_mem_hash mem] at notDigit
    cases notDigit

/-- A number is written in digits only. -/
theorem notMem_digits {c : Char} (notDigit : c.isDigit = false) (n : Nat) :
    c ∉ Text.Decimal.digits n := by
  intro mem
  rw [Nat.isDigit_of_mem_toDigits (by decide) (by decide) mem] at notDigit
  cases notDigit

/-- The lines of the canonical document, and of what follows it. -/
theorem lines_text_append (p : Pointer) (rest : List Char) :
    lines (p.text.toList ++ rest) =
      [keyLine "version".toList version.toList, keyLine "oid".toList p.oid.toList,
        keyLine "size".toList (Text.Decimal.digits p.size.toNat)] ++ lines rest := by
  simp only [toList_text, List.append_assoc, List.cons_append, List.nil_append]
  -- Neither a key nor a value has a space or a line feed in it.
  rw [lines_keyLine_append, lines_keyLine_append, lines_keyLine_append]
  · exact ⟨by decide, notMem_digits (by decide) _⟩
  · exact ⟨by decide, notMem_digits (by decide) _⟩
  · exact ⟨by decide, p.notMem_oid (by decide) (by decide)⟩
  · exact ⟨by decide, p.notMem_oid (by decide) (by decide)⟩
  · exact ⟨by decide, by decide⟩
  · exact ⟨by decide, by decide⟩

/-- The text of a pointer is short: only its size varies, by twenty digits at most. -/
theorem length_text_le (p : Pointer) : p.text.toList.length ≤ 145 := by
  have size : (Text.Decimal.digits p.size.toNat).length ≤ 20 := by
    rw [Text.Decimal.digits, Nat.length_toDigits_le_iff (by decide) (by decide)]
    have := p.size.toNat_lt
    omega
  -- Everything but the size is of a fixed length.
  have scheme_length : scheme.toList.length = 7 := rfl
  have version_length : version.toList.length = 34 := rfl
  have key_lengths : "version".toList.length = 7 ∧ "oid".toList.length = 3 ∧
      "size".toList.length = 4 := by decide
  simp only [toList_text, keyLine, List.length_append, List.length_cons, List.length_nil, oid,
    String.toList_append, p.length_hash, scheme_length, version_length]
  omega

/-- A pointer is recognised as one by its start and its length. -/
theorem isCandidate_toBytes (p : Pointer) : isCandidate p.toBytes = true := by
  -- The document starts with the word that is looked for, and it is short.
  have start : p.text = "version " ++ (version ++ "\noid " ++ p.oid ++ "\nsize " ++
      toString p.size.toNat ++ "\n") := by
    simp only [text, String.append_assoc]
  rw [isCandidate, Bool.and_eq_true, List.isPrefixOf_iff_prefix]
  constructor
  · rw [toBytes, start, Bytes.ofString_append]
    exact List.prefix_append _ _
  · have bytes := Bytes.length_ofString_le p.text
    have chars := p.length_text_le
    apply decide_eq_true
    show (Bytes.ofString p.text).length ≤ 1024
    omega

/-- A pointer is no longer than pointers may be. -/
theorem length_toBytes_le (p : Pointer) : p.toBytes.length ≤ maxSize := by
  have candidate := p.isCandidate_toBytes
  rw [isCandidate, Bool.and_eq_true] at candidate
  exact of_decide_eq_true candidate.2

/-- What the lines of the canonical document say, before other lines are read. -/
theorem foldlM_addLine_document (p : Pointer) (others : List (List Char)) :
    ([keyLine "version".toList version.toList, keyLine "oid".toList p.oid.toList,
        keyLine "size".toList (Text.Decimal.digits p.size.toNat)] ++ others).foldlM
          Draft.addLine {} =
      others.foldlM Draft.addLine ⟨some version.toList, some p.oid.toList, some p.size⟩ := by
  -- Each of the three lines fills the field of its key.
  have version_line : Draft.addLine {} (keyLine "version".toList version.toList) =
      .ok ⟨some version.toList, none, none⟩ := by
    rw [addLine_keyLine (by decide), if_pos rfl]
  have oid_line : Draft.addLine ⟨some version.toList, none, none⟩
      (keyLine "oid".toList p.oid.toList) =
        .ok ⟨some version.toList, some p.oid.toList, none⟩ := by
    rw [addLine_keyLine (by decide), if_neg (by decide), if_pos rfl]
  have size_line : Draft.addLine ⟨some version.toList, some p.oid.toList, none⟩
      (keyLine "size".toList (Text.Decimal.digits p.size.toNat)) =
        .ok ⟨some version.toList, some p.oid.toList, some p.size⟩ := by
    rw [addLine_keyLine (by decide), if_neg (by decide), if_neg (by decide), if_pos rfl,
      Text.Decimal.ofNumeral?_digits]
  simp only [List.cons_append, List.nil_append, List.foldlM_cons, version_line, oid_line,
    size_line, bind, Except.bind]

/-- With all three fields the pointer is complete. -/
theorem finish_document (p : Pointer) :
    Draft.finish ⟨some version.toList, some p.oid.toList, some p.size⟩ = .ok p := by
  have hash := hashOfOid?_scheme p.hash
  rw [← oid] at hash
  simp [Draft.finish, hash, ofHash?, p.hash_ok]

/-- Reading the canonical document of a pointer gives the pointer. -/
theorem parse_toBytes (p : Pointer) : parse p.toBytes = .ok (some p) := by
  -- After the last line feed an empty line is left.
  have said : (lines p.text.toList).foldlM Draft.addLine {} =
      .ok ⟨some version.toList, some p.oid.toList, some p.size⟩ := by
    rw [← List.append_nil p.text.toList, lines_text_append, foldlM_addLine_document, lines_nil]
    rfl
  rw [parse, isCandidate_toBytes, toBytes, Bytes.toString?_ofString]
  simp only [said, finish_document]
  rfl

/-- A blob that is too large for a document is no pointer. -/
theorem parse_of_maxSize_lt {blob : Bytes} (h : maxSize < blob.length) :
    parse blob = .ok none := by
  have : isCandidate blob = false := by
    rw [isCandidate, Bool.and_eq_false_iff]
    exact .inr (decide_eq_false (by omega))
  rw [parse, this]
  rfl

end Pointer

end LargeFiles
