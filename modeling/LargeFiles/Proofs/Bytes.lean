import LargeFiles.Bytes

/-!
# Text and bytes

The UTF-8 encoding of a text can be read back, and is not much longer than the text.

* `toString?_ofString`   decoding undoes encoding;
* `toString?_eq_some_iff`  what can be decoded is what was encoded;
* `ofString_eq_map`      a text in ASCII has one byte for each character;
* `map_ofString`         and each byte is the code of its character;
* `IsText`               the bytes that encode a text;
* `length_ofString_le`   the number of bytes, by the number of characters.
-/

namespace LargeFiles.Bytes

/-- A fact about bytes can be checked byte by byte. -/
theorem forall_byte {p : UInt8 → Prop} (h : ∀ k : Fin 256, p (UInt8.ofNat k)) (b : UInt8) :
    p b := by
  simpa using h ⟨b.toNat, b.toNat_lt⟩

/-- The encoding is the byte array that the text is made of. -/
theorem toByteArray_ofString (s : String) : (ofString s).toByteArray = s.toByteArray := by
  have := s.utf8Encode_toList
  simpa only [ofString, List.utf8Encode] using this

@[simp] theorem toString?_ofString (s : String) : toString? (ofString s) = some s := by
  rw [toString?, toByteArray_ofString, String.fromUTF8?, dif_pos s.isValidUTF8]
  rfl

/-- The bytes of a text that was read are those that it was read from. -/
theorem ofString_of_toString? {b : Bytes} {s : String} (h : toString? b = some s) :
    ofString s = b := by
  rw [toString?, String.fromUTF8?] at h
  split at h
  · next valid =>
    cases h
    have arrays : (ofString (String.fromUTF8 b.toByteArray valid)).toByteArray =
        b.toByteArray := toByteArray_ofString _
    have lists := congrArg (·.data.toList) arrays
    simpa only [List.toList_data_toByteArray] using lists
  · cases h

/-- Bytes are read as the text that they encode. -/
theorem toString?_eq_some_iff {b : Bytes} {s : String} : toString? b = some s ↔ b = ofString s :=
  ⟨fun h => (ofString_of_toString? h).symm, fun h => h ▸ toString?_ofString s⟩

/-- Different texts have different encodings. -/
theorem ofString_injective {s t : String} (h : ofString s = ofString t) : s = t := by
  have same : toString? (ofString s) = toString? (ofString t) := congrArg toString? h
  simpa using same

/-- A character in ASCII is its own byte. -/
theorem utf8EncodeChar_of_lt {c : Char} (ascii : c.toNat < 128) :
    String.utf8EncodeChar c = [c.toUInt8] := by
  apply String.utf8EncodeChar_eq_singleton
  rw [Char.utf8Size_eq_one_iff, UInt32.le_iff_toNat_le]
  exact Nat.le_of_lt_succ ascii

/-- A text in ASCII has one byte for each character. -/
theorem ofString_eq_map {s : String} (ascii : ∀ c ∈ s.toList, c.toNat < 128) :
    ofString s = s.toList.map Char.toUInt8 := by
  rw [ofString]
  generalize s.toList = cs at ascii ⊢
  induction cs with
  | nil => rfl
  | cons c rest ih =>
    rw [List.flatMap_cons, utf8EncodeChar_of_lt (ascii c List.mem_cons_self), List.map_cons,
      ih fun d mem => ascii d (List.mem_cons_of_mem _ mem), List.singleton_append]

/-- A character out of ASCII has no byte in ASCII. -/
theorem le_of_mem_utf8EncodeChar {c : Char} (other : 128 ≤ c.toNat) {b : UInt8}
    (mem : b ∈ String.utf8EncodeChar c) : 0x80 ≤ b := by
  have large : ¬ c.val.toNat ≤ 127 := Nat.not_le_of_lt other
  simp only [String.utf8EncodeChar, if_neg large] at mem
  -- Two, three or four bytes, all of them with a mark in the highest bit.
  rw [UInt8.le_iff_toNat_le]
  split at mem
  · simp only [List.mem_cons, List.not_mem_nil, or_false] at mem
    obtain rfl | rfl := mem <;> simp <;> omega
  · split at mem
    · simp only [List.mem_cons, List.not_mem_nil, or_false] at mem
      obtain rfl | rfl | rfl := mem <;> simp <;> omega
    · simp only [List.mem_cons, List.not_mem_nil, or_false] at mem
      obtain rfl | rfl | rfl | rfl := mem <;> simp <;> omega

/-- A text whose bytes are in ASCII is in ASCII. -/
theorem lt_of_ofString {s : String} (ascii : ∀ b ∈ ofString s, b.toNat < 128) :
    ∀ c ∈ s.toList, c.toNat < 128 := by
  intro c mem
  rw [← Nat.not_le]
  intro other
  -- Any byte of the character would be out of ASCII.
  obtain ⟨b, first⟩ : ∃ b, b ∈ String.utf8EncodeChar c := by
    apply List.exists_mem_of_length_pos
    rw [String.length_utf8EncodeChar]
    exact c.utf8Size_pos
  have high := UInt8.le_iff_toNat_le.1 (le_of_mem_utf8EncodeChar other first)
  exact Nat.not_lt_of_le high (ascii b (List.mem_flatMap.2 ⟨c, mem, first⟩))

/-- Characters in ASCII can be told from their bytes. -/
theorem ofUInt8_toUInt8_fin : ∀ k : Fin 128,
    Char.ofUInt8 (Char.ofNat k).toUInt8 = Char.ofNat k := by
  decide +kernel

/-- The bytes of a text in ASCII are the codes of its characters. -/
theorem map_ofString {s : String} (ascii : ∀ c ∈ s.toList, c.toNat < 128) :
    (ofString s).map Char.ofUInt8 = s.toList := by
  rw [ofString_eq_map ascii, List.map_map]
  refine (List.map_congr_left fun c mem => ?_).trans (List.map_id _)
  simpa using ofUInt8_toUInt8_fin ⟨c.toNat, ascii c mem⟩

/-- Below 128, a byte of a character is the character. -/
theorem toNat_eq_of_mem_utf8EncodeChar {c : Char} {b : UInt8}
    (mem : b ∈ String.utf8EncodeChar c) (small : b.toNat < 128) : c.toNat = b.toNat := by
  have value : c.val.toNat = c.toNat := rfl
  simp only [String.utf8EncodeChar] at mem
  -- All bytes of a longer encoding have their highest bit set.
  split at mem
  · obtain rfl := List.mem_singleton.1 mem
    rw [UInt8.toNat_ofNat']
    omega
  · split at mem
    · simp only [List.mem_cons, List.not_mem_nil, or_false] at mem
      rcases mem with rfl | rfl <;> rw [UInt8.toNat_ofNat'] at small <;> omega
    · split at mem
      · simp only [List.mem_cons, List.not_mem_nil, or_false] at mem
        rcases mem with rfl | rfl | rfl <;> rw [UInt8.toNat_ofNat'] at small <;> omega
      · simp only [List.mem_cons, List.not_mem_nil, or_false] at mem
        rcases mem with rfl | rfl | rfl | rfl <;> rw [UInt8.toNat_ofNat'] at small <;> omega

/-- Where a byte in ASCII stands in an encoding, its character stands in the text. -/
theorem exists_of_flatMap_eq_append {cs : List Char} {front back : Bytes} {b : UInt8}
    (ascii : b.toNat < 128) (whole : cs.flatMap String.utf8EncodeChar = front ++ b :: back) :
    ∃ before after, cs = before ++ Char.ofNat b.toNat :: after ∧
      before.flatMap String.utf8EncodeChar = front ∧
      after.flatMap String.utf8EncodeChar = back := by
  induction cs generalizing front with
  | nil => simp at whole
  | cons c rest ih =>
    -- The byte belongs to the rest, unless it is the first character.
    have later (front' : Bytes) (split : front = String.utf8EncodeChar c ++ front')
        (others : rest.flatMap String.utf8EncodeChar = front' ++ b :: back) :
        ∃ before after, c :: rest = before ++ Char.ofNat b.toNat :: after ∧
          before.flatMap String.utf8EncodeChar = front ∧
          after.flatMap String.utf8EncodeChar = back := by
      obtain ⟨before, after, rfl, rfl, rfl⟩ := ih others
      exact ⟨c :: before, after, rfl, split.symm, rfl⟩
    rw [List.flatMap_cons, List.append_eq_append_iff] at whole
    obtain ⟨front', split, others⟩ | ⟨back', split, others⟩ := whole
    · exact later front' split others
    · cases back' with
      | nil =>
        rw [List.append_nil] at split
        exact later [] (by simp [split]) others.symm
      | cons b' more =>
        obtain ⟨rfl, rfl⟩ := List.cons.inj others
        -- The byte is within the first character, which is then a single byte.
        have same : c.toNat = b.toNat :=
          toNat_eq_of_mem_utf8EncodeChar (split ▸ List.mem_append_right _ List.mem_cons_self) ascii
        have single : String.utf8EncodeChar c = [c.toUInt8] := utf8EncodeChar_of_lt (same ▸ ascii)
        rw [single] at split
        obtain ⟨rfl, -, rfl⟩ : front = [] ∧ c.toUInt8 = b ∧ more = [] := by
          cases front with
          | nil => simpa using split
          | cons _ _ => simp at split
        exact ⟨[], rest, by rw [← same, Char.ofNat_toNat]; rfl, rfl, rfl⟩

/-! ### Bytes that are a text -/

/-- Whether the bytes encode a text. -/
def IsText (b : Bytes) : Prop := ∃ s, b = ofString s

/-- What is decoded is what was encoded. -/
theorem IsText.ofString_getD {b : Bytes} (h : IsText b) : ofString (b.toString?.getD "") = b := by
  obtain ⟨s, rfl⟩ := h
  rw [toString?_ofString, Option.getD_some]

/-- Two texts one after the other are a text. -/
theorem IsText.append {a b : Bytes} (ha : IsText a) (hb : IsText b) : IsText (a ++ b) := by
  obtain ⟨s, rfl⟩ := ha
  obtain ⟨t, rfl⟩ := hb
  exact ⟨s ++ t, (ofString_append s t).symm⟩

theorem utf8EncodeChar_ofNat : ∀ k : Fin 128,
    String.utf8EncodeChar (Char.ofNat k) = [UInt8.ofNat k] := by
  decide

/-- A byte in ASCII is a text. -/
theorem isText_singleton {b : UInt8} (ascii : b < 0x80) : IsText [b] := by
  have encoded := utf8EncodeChar_ofNat ⟨b.toNat, UInt8.lt_iff_toNat_lt.1 ascii⟩
  rw [UInt8.ofNat_toNat] at encoded
  exact ⟨String.singleton (Char.ofNat b.toNat), by simp [ofString, encoded]⟩

/-- Texts one after the other are a text. -/
theorem isText_flatMap {α : Type} {f : α → Bytes} {l : List α} (h : ∀ a ∈ l, IsText (f a)) :
    IsText (l.flatMap f) := by
  induction l with
  | nil => exact ⟨"", by simp⟩
  | cons a rest ih =>
    rw [List.flatMap_cons]
    exact (h a List.mem_cons_self).append (ih fun b mem => h b (List.mem_cons_of_mem _ mem))

/-- Bytes in ASCII are a text. -/
theorem isText_of_lt {b : Bytes} (ascii : ∀ x ∈ b, x < 0x80) : IsText b := by
  have texts := isText_flatMap (f := fun x => [x]) fun x mem => isText_singleton (ascii x mem)
  rwa [List.flatMap_singleton'] at texts

/-! ### The length of a text -/

/-- A character takes at most four bytes. -/
theorem length_ofString_le (s : String) : (ofString s).length ≤ 4 * s.toList.length := by
  simp only [ofString]
  induction s.toList with
  | nil => simp
  | cons c rest ih =>
    have := c.utf8Size_le_four
    simp only [List.flatMap_cons, List.length_append, String.length_utf8EncodeChar,
      List.length_cons]
    omega

end LargeFiles.Bytes
