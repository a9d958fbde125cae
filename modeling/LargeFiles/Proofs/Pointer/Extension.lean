import LargeFiles.Proofs.Pointer.Grammar

/-!
# Documents with extensions

The canonical document of a pointer may be followed by lines of extensions, with keys that mean
nothing here.  As long as the whole is a text and not too large, it is read as the same pointer.

* `Extension`              one line, as bytes;
* `silent_of_mem_lines`    such lines say nothing, however they are broken;
* `document_round_trip`    what is written for a pointer is read as this pointer.
-/

namespace LargeFiles.Pointer

/-- A line of an extension. -/
structure Extension where
  key : Bytes
  value : Bytes
  /-- Whether the line ends with a carriage return and a line feed, or with a line feed alone. -/
  returns : Bool
  noSpace : (0x20 : UInt8) ∉ key
  noFeed : (0x0A : UInt8) ∉ key ∧ (0x0A : UInt8) ∉ value
  foreign : key ∉ ["version", "oid", "size"].map Bytes.ofString

/-- The bytes of a line, with its end. -/
def Extension.toBytes (e : Extension) : Bytes :=
  e.key ++ [0x20] ++ e.value ++ (if e.returns then [0x0D] else []) ++ [0x0A]

/-! ### Extensions as lines -/

/-- A line of a key and a value is one without its carriage return, too. -/
theorem exists_stripReturn_keyLine (key value : List Char) :
    ∃ shorter, stripReturn (keyLine key value) = keyLine key shorter := by
  rw [stripReturn]
  split
  · next returned =>
    obtain rfl | ⟨front, last, rfl⟩ := value.eq_nil_or_concat'
    · -- Without a value the line ends with the space.
      simp [keyLine] at returned
    · have whole : keyLine key (front ++ [last]) = keyLine key front ++ [last] := by
        simp [keyLine]
      exact ⟨front, by rw [whole, List.dropLast_concat]⟩
  · exact ⟨value, rfl⟩

/-- A character of a text is not there if its byte is not. -/
theorem notMem_of_bytes {cs : List Char} {bytes : Bytes}
    (encoded : cs.flatMap String.utf8EncodeChar = bytes) {c : Char} {b : UInt8}
    (single : String.utf8EncodeChar c = [b]) (absent : b ∉ bytes) : c ∉ cs := by
  intro mem
  refine absurd (List.mem_flatMap.2 ⟨c, mem, ?_⟩) (encoded ▸ absent)
  rw [single]
  exact List.mem_cons_self

/-- A text of lines of extensions, at any place of the document. -/
theorem silent_of_mem_lines {extensions : List Extension} {text : List Char}
    (encoded : text.flatMap String.utf8EncodeChar = extensions.flatMap Extension.toBytes) :
    ∀ line ∈ lines text, Silent line := by
  induction extensions generalizing text with
  | nil =>
    have empty : text = [] := by
      cases text with
      | nil => rfl
      | cons c rest =>
        have size := congrArg List.length encoded
        have pos := c.utf8Size_pos
        simp only [List.flatMap_cons, List.flatMap_nil, List.length_append,
          String.length_utf8EncodeChar, List.length_nil] at size
        omega
    rw [empty, lines_nil]
    intro line mem
    exact .inl (List.mem_singleton.1 mem)
  | cons e others ih =>
    -- The space and the line feed of the first line are found again in the text.
    have spaced : text.flatMap String.utf8EncodeChar = e.key ++ 0x20 ::
        (e.value ++ (if e.returns then [0x0D] else []) ++
          0x0A :: others.flatMap Extension.toBytes) := by
      simp [encoded, Extension.toBytes]
    obtain ⟨key, tail, rfl, key_eq, tail_eq⟩ :=
      Bytes.exists_of_flatMap_eq_append (by decide) spaced
    obtain ⟨value, rest, rfl, value_eq, rest_eq⟩ :=
      Bytes.exists_of_flatMap_eq_append (by decide) tail_eq
    have keyFeed : '\n' ∉ key := notMem_of_bytes key_eq (by decide) e.noFeed.1
    have keySpace : ' ' ∉ key := notMem_of_bytes key_eq (by decide) e.noSpace
    have valueFeed : '\n' ∉ value := by
      refine notMem_of_bytes (b := 0x0A) value_eq (by decide) ?_
      rw [List.mem_append, not_or]
      exact ⟨e.noFeed.2, by split <;> decide⟩
    -- The key is none of those that mean something, as bytes and so as characters.
    have foreign : key ∉ ["version".toList, "oid".toList, "size".toList] := by
      intro mem
      refine e.foreign ?_
      rw [← key_eq]
      exact List.mem_map_of_mem (f := (·.flatMap String.utf8EncodeChar)) mem
    -- The first line ends at this line feed, since neither its key nor its value has another.
    have broken : lines (key ++ ' ' :: (value ++ '\n' :: rest)) =
        stripReturn (keyLine key value) :: lines rest := by
      have whole : key ++ ' ' :: (value ++ '\n' :: rest) = keyLine key value ++ '\n' :: rest := by
        simp [keyLine]
      rw [whole, lines_append (notMem_keyLine (by decide) keyFeed valueFeed)]
    intro line mem
    obtain rfl | mem := List.mem_cons.1 (broken ▸ mem)
    · obtain ⟨shorter, same⟩ := exists_stripReturn_keyLine key value
      exact .inr ⟨key, shorter, keySpace, same, foreign⟩
    · exact ih rest_eq line mem

/-! ### Reading -/

/-- A text that begins with a canonical document is the document and a rest. -/
theorem exists_of_toBytes_append {p : Pointer} {text : String} {more : Bytes}
    (whole : p.toBytes ++ more = Bytes.ofString text) :
    ∃ rest, text.toList = p.text.toList ++ rest ∧ rest.flatMap String.utf8EncodeChar = more := by
  -- The document ends with a line feed, where the text can be taken apart.
  obtain ⟨front, ends⟩ : ∃ front, p.text = front ++ "\n" := ⟨_, rfl⟩
  have encoded : text.toList.flatMap String.utf8EncodeChar =
      Bytes.ofString front ++ 0x0A :: more := by
    have feed : Bytes.ofString "\n" = [0x0A] := by decide
    rw [← Bytes.ofString, ← whole, toBytes, ends, Bytes.ofString_append, feed, List.append_assoc,
      List.singleton_append]
  obtain ⟨before, rest, split, before_eq, rest_eq⟩ :=
    Bytes.exists_of_flatMap_eq_append (by decide) encoded
  obtain rfl : String.ofList before = front := by
    apply Bytes.ofString_injective
    rw [← before_eq, Bytes.ofString, String.toList_ofList]
  refine ⟨rest, ?_, rest_eq⟩
  rw [split, ends, String.toList_append, String.toList_ofList, List.append_assoc]
  rfl

/-- Lines of extensions after the canonical document change nothing. -/
theorem parse_toBytes_append {p : Pointer} {extensions : List Extension}
    (text : Bytes.IsText (p.toBytes ++ extensions.flatMap Extension.toBytes))
    (small : (p.toBytes ++ extensions.flatMap Extension.toBytes).length ≤ 1024) :
    parse (p.toBytes ++ extensions.flatMap Extension.toBytes) = .ok (some p) := by
  obtain ⟨s, whole⟩ := text
  obtain ⟨rest, chars, encoded⟩ := exists_of_toBytes_append whole
  have start := (isCandidate_iff.1 p.isCandidate_toBytes).1
  -- The extensions come after the pointer, so the blob still begins like one.
  have begins : Begins (p.toBytes ++ extensions.flatMap Extension.toBytes) :=
    ⟨start.trans (List.prefix_append _ _), small⟩
  have written : IsWritten (p.toBytes ++ extensions.flatMap Extension.toBytes)
      (lines (p.text.toList ++ rest)) :=
    ⟨s, whole, chars ▸ breaksInto_lines s.toList⟩
  rw [parse_of_isWritten begins written, lines_text_append, foldlM_addLine_document,
    foldlM_addLine_of_silent (silent_of_mem_lines encoded)]
  simp only [finish_document]
  rfl

/-- The canonical document of a pointer is a text that is small enough; it is read as the pointer,
    whatever lines of extensions follow it.  The name of the content tells the hash.  Whatever else
    is read as some pointer, the canonical document of this pointer is read as it, too. -/
theorem document_round_trip {hash : String} {size : UInt64} {p : Pointer}
    (accepted : ofHash? hash size = some p) :
    p.hash = hash ∧ p.size = size ∧
    Bytes.IsText p.toBytes ∧ p.toBytes.length ≤ 1024 ∧
    (∀ extensions : List Extension,
      Bytes.IsText (p.toBytes ++ extensions.flatMap Extension.toBytes) →
      (p.toBytes ++ extensions.flatMap Extension.toBytes).length ≤ 1024 →
      parse (p.toBytes ++ extensions.flatMap Extension.toBytes) = .ok (some p)) ∧
    hashOfOid? p.oid = some hash ∧
    ∀ blob q, parse blob = .ok (some q) → parse q.toBytes = .ok (some q) := by
  -- A pointer that was accepted has the hash and the size that it was given.
  obtain ⟨rfl, rfl⟩ : p.hash = hash ∧ p.size = size := by
    rw [ofHash?] at accepted
    split at accepted
    · cases accepted
      exact ⟨rfl, rfl⟩
    · cases accepted
  exact ⟨rfl, rfl, ⟨p.text, rfl⟩, p.length_toBytes_le, fun _ => parse_toBytes_append,
    hashOfOid?_scheme p.hash, fun _ q _ => q.parse_toBytes⟩

/-- The pointer to content of the largest size, with two lines of extensions, one of which is not
    in ASCII. -/
theorem document_round_trip_extended :
    let hash := "4d7a214614ab2935c943f9e0ff69d22eadbb8f32b1258daaa5e2ca24d17e2393"
    let p : Pointer := ⟨hash, 18446744073709551615, by decide⟩
    let extended := p.toBytes ++ Bytes.ofString "ext-0-note größer\r\nsize2 -\n"
    ofHash? hash 18446744073709551615 = some p ∧ Bytes.IsText extended ∧
      extended.length ≤ 1024 ∧ parse extended = .ok (some p) := by
  intro hash p extended
  -- The letters of the note need not be in ASCII, and a carriage return may end its line.
  let note : Extension := ⟨Bytes.ofString "ext-0-note", Bytes.ofString "größer", true, by decide,
    by decide, by decide⟩
  let second : Extension := ⟨Bytes.ofString "size2", Bytes.ofString "-", false, by decide,
    by decide, by decide⟩
  have accepted : ofHash? hash 18446744073709551615 = some p := dif_pos p.hash_ok
  have lines : [note, second].flatMap Extension.toBytes =
      Bytes.ofString "ext-0-note größer\r\nsize2 -\n" := by decide
  have text : Bytes.IsText extended := .append ⟨p.text, rfl⟩ ⟨_, rfl⟩
  have small : extended.length ≤ 1024 := by
    have canonical := Bytes.length_ofString_le p.text
    have chars := p.length_text_le
    have more : (Bytes.ofString "ext-0-note größer\r\nsize2 -\n").length = 29 := by decide
    rw [List.length_append, more, toBytes]
    omega
  have whole : extended = p.toBytes ++ [note, second].flatMap Extension.toBytes := by
    rw [lines]
  have read := (document_round_trip accepted).2.2.2.2.1 [note, second]
  rw [← whole] at read
  exact ⟨accepted, text, small, read text small⟩

end LargeFiles.Pointer
