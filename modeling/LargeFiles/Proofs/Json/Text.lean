import LargeFiles.Proofs.Json.Escape
import LargeFiles.Proofs.Json.Number

/-!
# The text of a JSON value

A value whose numbers are whole and whose strings and names are escaped texts is spelled by the text
that is written for it.  A number has no end of its own, so what is shown of tokens is that they are
found again before anything that does not go on with a number.

* `Plain`           the values that are written;
* `scan_render`     the tokens of a written value are found again;
* `ofTokens?_tokens`   the value is put together again from its tokens;
* `parse?_render`   both together: the text of a value spells the value;
* `ofString_toText` the text is a text.
-/

namespace LargeFiles.Json

/-- The values that are put together from whole numbers and from texts. -/
inductive Plain : Json → Prop
  | null : Plain null
  | bool (value : Bool) : Plain (bool value)
  | number (n : Int) : Plain (ofInt n)
  | text (s : String) : Plain (ofString s)
  | array {items : List Json} (h : ∀ item ∈ items, Plain item) : Plain (array items)
  | object {members : List (String × Json)} (h : ∀ member ∈ members, Plain member.2) :
      Plain (ofMembers members)

/-! ### Finding tokens -/

namespace Token

/-- Tokens that are found again before anything that ends a number, and whose text is a text. -/
structure Spells (ts : List Token) : Prop where
  scan_append : ∀ rest, EndsNumber rest →
    scan (ts.flatMap toBytes ++ rest) = (scan rest).map (ts ++ ·)
  isText : Bytes.IsText (ts.flatMap toBytes)

/-- A token of one byte that ends a number. -/
def IsMark (t : Token) : Prop :=
  ∃ b, t.toBytes = [b] ∧ continuesNumber b = false ∧ b < 0x80 ∧
    ∀ rest, scan (b :: rest) = (scan rest).map (t :: ·)

/-- A token of one visible byte is a mark. -/
theorem isMark_of_ofByte? {b : UInt8} {t : Token} (spelled : ofByte? b = some t)
    (bytes : t.toBytes = [b]) (ends : continuesNumber b = false) (visible : isSpace b = false)
    (notQuote : (b == quote) = false) (ascii : b < 0x80) : IsMark t := by
  refine ⟨b, bytes, ends, ascii, fun rest => ?_⟩
  rw [scan, visible, notQuote]
  simp only [Bool.false_eq_true, if_false, spelled]

theorem isMark_beginObject : IsMark beginObject :=
  isMark_of_ofByte? (b := 0x7b) rfl rfl rfl rfl rfl (by decide)

theorem isMark_endObject : IsMark endObject :=
  isMark_of_ofByte? (b := 0x7d) rfl rfl rfl rfl rfl (by decide)

theorem isMark_beginArray : IsMark beginArray :=
  isMark_of_ofByte? (b := 0x5b) rfl rfl rfl rfl rfl (by decide)

theorem isMark_endArray : IsMark endArray :=
  isMark_of_ofByte? (b := 0x5d) rfl rfl rfl rfl rfl (by decide)

theorem isMark_colon : IsMark colon := isMark_of_ofByte? (b := 0x3a) rfl rfl rfl rfl rfl (by decide)

theorem isMark_comma : IsMark comma := isMark_of_ofByte? (b := 0x2c) rfl rfl rfl rfl rfl (by decide)

namespace Spells

theorem nil : Spells [] := ⟨fun rest _ => by simp, "", by simp⟩

/-- Tokens after a mark. -/
theorem cons {mark : Token} (isMark : IsMark mark) {ts : List Token} (h : Spells ts) :
    Spells (mark :: ts) := by
  obtain ⟨b, bytes, -, ascii, found⟩ := isMark
  -- The mark is one byte, after which scanning goes on.
  have written : (mark :: ts).flatMap toBytes = b :: ts.flatMap toBytes := by
    rw [List.flatMap_cons, bytes, List.singleton_append]
  constructor
  case scan_append =>
    intro rest ends
    rw [written, List.cons_append, found, h.scan_append rest ends, Option.map_map]
    rfl
  case isText =>
    rw [written]
    exact (Bytes.isText_singleton ascii).append h.isText

/-- Tokens with a mark between them. -/
theorem append {ts us : List Token} (h : Spells ts) {mark : Token} (isMark : IsMark mark)
    (h' : Spells us) : Spells (ts ++ mark :: us) := by
  have after := h'.cons isMark
  constructor
  case scan_append =>
    intro rest ends
    -- The mark ends a number that may stand before it.
    have apart : EndsNumber ((mark :: us).flatMap toBytes ++ rest) := by
      obtain ⟨b, bytes, other, -⟩ := isMark
      rw [List.flatMap_cons, bytes]
      exact endsNumber_cons other
    rw [List.flatMap_append, List.append_assoc, h.scan_append _ apart,
      after.scan_append rest ends, Option.map_map]
    -- What was scanned after the mark goes behind what was scanned before it.
    congr 1
    funext found
    exact (List.append_assoc ..).symm
  case isText =>
    rw [List.flatMap_append]
    exact h.isText.append after.isText

/-- A token that is a name. -/
theorem word {b : UInt8} {tail : Bytes} {t : Token} (bytes : t.toBytes = b :: tail)
    (visible : isSpace b = false) (notQuote : (b == quote) = false) (notMark : ofByte? b = none)
    (found : ∀ rest, (keywords.find? fun word => word.1.isPrefixOf (b :: (tail ++ rest))) =
      some (b :: tail, t)) (ascii : (b :: tail).all (· < 0x80) = true) : Spells [t] := by
  constructor
  case scan_append =>
    intro rest _
    -- It begins with a letter, so there is nothing else that it could be.
    rw [List.flatMap_singleton, bytes, List.cons_append, scan, visible, notQuote]
    simp only [Bool.false_eq_true, if_false, notMark, found]
    rw [List.length_cons, Nat.add_sub_cancel, List.drop_left]
    rfl
  case isText =>
    rw [List.flatMap_singleton, bytes]
    exact Bytes.isText_of_lt fun x mem => of_decide_eq_true (List.all_eq_true.1 ascii x mem)

theorem null : Spells [null] :=
  word (b := 0x6e) rfl rfl rfl rfl (fun _ => rfl) rfl

theorem bool : ∀ value, Spells [bool value]
  | true => word (b := 0x74) rfl rfl rfl rfl (fun _ => rfl) rfl
  | false => word (b := 0x66) rfl rfl rfl rfl (fun _ => rfl) rfl

/-- A string in quotes is scanned as such. -/
theorem string (s : String) : Spells [string (escape s)] := by
  constructor
  case scan_append =>
    intro rest _
    -- The string ends at the quote that is written after it, since quotes in it are escaped.
    have bytes : [Token.string (escape s)].flatMap toBytes ++ rest =
        quote :: (escape s ++ quote :: rest) := by simp [toBytes]
    rw [bytes, scan, if_neg (by decide), if_pos (by decide), stringLength_escape, Nat.zero_add]
    simp
  case isText =>
    have mark : Bytes.IsText [quote] := Bytes.isText_singleton (by decide)
    rw [List.flatMap_singleton]
    exact (mark.append (isText_escape s)).append mark

/-- A lexeme that starts as a number does and is measured as one. -/
theorem scan_lexeme {b : UInt8} {tail rest : Bytes} (first : isDigit b = true ∨ b = 0x2d)
    (measured : numberLength (b :: tail ++ rest) = some (b :: tail).length) :
    scan (b :: tail ++ rest) = (scan rest).map (number (b :: tail) :: ·) := by
  -- What starts a number starts nothing else that is looked for before numbers.
  have apart (other : UInt8) (notDigit : isDigit other = false) (notMinus : other ≠ 0x2d) :
      b ≠ other := by
    rintro rfl
    exact first.elim (by simp [notDigit]) notMinus
  have visible : isSpace b = false := by
    simp [isSpace, apart 0x20, apart 0x09, apart 0x0a, apart 0x0d, isDigit]
  have notQuote : (b == quote) = false := beq_eq_false_iff_ne.2 (apart _ rfl (by decide))
  have notMark : ofByte? b = none := by
    rw [ofByte?] <;> exact apart _ rfl (by decide)
  have notWord : (keywords.find? fun word => word.1.isPrefixOf (b :: (tail ++ rest))) = none := by
    simp [keywords, List.isPrefixOf, (apart 0x6e rfl (by decide)).symm,
      (apart 0x74 rfl (by decide)).symm, (apart 0x66 rfl (by decide)).symm]
  rw [List.cons_append] at measured ⊢
  rw [scan, visible, notQuote]
  simp only [Bool.false_eq_true, if_false, notMark, notWord, measured]
  simp

/-- A number is scanned as such, up to something that ends it. -/
theorem number (n : Int) : Spells [number (Bytes.ofString (toString n))] := by
  constructor
  case scan_append =>
    intro rest ends
    have measured := numberLength_ofInt n ends
    -- An integer is a numeral, with a sign before it if it is negative.
    obtain ⟨digits, numeral, form⟩ := numeral_or_signed n
    obtain ⟨b, tail, rfl⟩ := List.exists_cons_of_ne_nil numeral.nonempty
    rw [List.flatMap_singleton, toBytes]
    -- The first byte tells that there is a number: a digit or a sign.
    obtain form | form := form
    · rw [form] at measured ⊢
      exact scan_lexeme (.inl (numeral.digits b List.mem_cons_self)) measured
    · rw [form] at measured ⊢
      exact scan_lexeme (.inr rfl) measured
  case isText =>
    rw [List.flatMap_singleton]
    exact ⟨toString n, rfl⟩

end Spells

end Token

/-! ### The tokens of a value -/

/-- The tokens of a member: its name, a colon and its value. -/
def oneMember (member : Bytes × Json) : List Token :=
  .string member.1 :: .colon :: member.2.tokens

/-- Items are separated by commas. -/
theorem itemTokens_eq (items : List Json) :
    itemTokens items = [Token.comma].intercalate (items.map tokens) := by
  induction items with
  | nil => rw [itemTokens]; rfl
  | cons item rest ih =>
    -- There is a comma after each item but the last.
    cases rest with
    | nil => rw [itemTokens, List.map_singleton, List.intercalate_singleton]
    | cons next rest =>
      rw [itemTokens, ih]
      · simp only [List.map_cons, List.intercalate_cons_cons, List.append_assoc,
          List.singleton_append]
      · exact nofun

/-- Members are separated by commas. -/
theorem memberTokens_eq (members : List (Bytes × Json)) :
    memberTokens members = [Token.comma].intercalate (members.map oneMember) := by
  induction members with
  | nil => rw [memberTokens]; rfl
  | cons member rest ih =>
    -- There is a comma after each member but the last.
    cases rest with
    | nil =>
      rw [memberTokens, List.map_singleton, List.intercalate_singleton]
      rfl
    | cons next rest =>
      rw [memberTokens, ih]
      · simp only [List.map_cons, List.intercalate_cons_cons, List.append_assoc,
          List.singleton_append, oneMember]
      · exact nofun

/-- What is spelled part by part is spelled as a whole, with commas between the parts. -/
theorem Token.Spells.intercalate {parts : List (List Token)} (h : ∀ ts ∈ parts, Spells ts) :
    Spells ([Token.comma].intercalate parts) := by
  induction parts with
  | nil => exact .nil
  | cons part rest ih =>
    have first := h part List.mem_cons_self
    cases rest with
    | nil => rwa [List.intercalate_singleton]
    | cons next rest =>
      -- A comma after the first part is a mark, as parts after a mark are spelled on their own.
      rw [List.intercalate_cons_cons, List.append_assoc, List.singleton_append]
      exact first.append isMark_comma (ih fun ts mem => h ts (List.mem_cons_of_mem _ mem))

/-- The tokens of a value that is written are found again before anything that ends a number. -/
theorem Plain.spells {v : Json} (plain : Plain v) : Token.Spells v.tokens := by
  induction plain with
  | null =>
    rw [tokens]
    exact .null
  | bool value =>
    rw [tokens]
    exact .bool value
  | number n =>
    rw [ofInt, tokens]
    exact .number n
  | text s =>
    rw [ofString, tokens]
    exact .string s
  | array _ ih =>
    -- Each item is followed by a comma or by the closing bracket, which end a number.
    rw [tokens, itemTokens_eq]
    refine .cons Token.isMark_beginArray (.append (.intercalate ?_) Token.isMark_endArray .nil)
    intro ts mem
    obtain ⟨item, mem', rfl⟩ := List.mem_map.1 mem
    exact ih item mem'
  | object _ ih =>
    rw [ofMembers, tokens, memberTokens_eq, List.map_map]
    refine .cons Token.isMark_beginObject (.append (.intercalate ?_) Token.isMark_endObject .nil)
    intro ts mem
    obtain ⟨member, mem', rfl⟩ := List.mem_map.1 mem
    exact (Token.Spells.string member.1).append Token.isMark_colon (ih member mem')

/-- The tokens of a value that is written are found again. -/
theorem scan_render {v : Json} (plain : Plain v) : Token.scan v.render = some v.tokens := by
  have found := plain.spells.scan_append [] nofun
  rw [List.append_nil] at found
  rw [render, found, Token.scan, Option.map_some, List.append_nil]

/-! ### Putting a value together -/

/-- Parts with commas between them are taken in one by one, if a comma after one part leads to the
    next, whatever was taken in before. -/
theorem foldlM_intercalate {β : Type} {spell : β → List Token}
    {next : List β → Bool → Expecting} {after : List β → Expecting} {parts : List β}
    (comma : ∀ done, (after done).step .comma = some (next done false))
    (each : ∀ part ∈ parts, ∀ done opened,
      (spell part).foldlM Expecting.step (next done opened) = some (after (part :: done)))
    (nonempty : parts ≠ []) (done : List β) (opened : Bool) :
    ([Token.comma].intercalate (parts.map spell)).foldlM Expecting.step (next done opened) =
      some (after (parts.reverse ++ done)) := by
  induction parts generalizing done opened with
  | nil => cases nonempty rfl
  | cons part rest ih =>
    have first := each part List.mem_cons_self done opened
    -- A comma comes only between two parts, so the last part is a case of its own.
    cases rest with
    | nil => rwa [List.map_singleton, List.intercalate_singleton]
    | cons other rest =>
      have others := ih (fun part mem => each part (List.mem_cons_of_mem _ mem)) nofun
        (part :: done) false
      rw [List.map_cons, List.map_cons, List.intercalate_cons_cons, List.append_assoc,
        List.foldlM_append, first, Option.bind_eq_bind, Option.bind_some, List.singleton_append,
        List.foldlM_cons, comma, Option.bind_eq_bind, Option.bind_some, ← List.map_cons, others,
        List.reverse_cons (a := part), List.append_assoc, List.singleton_append]

/-- A value is taken in whole, wherever a value may come. -/
theorem Plain.foldlM_tokens {v : Json} (plain : Plain v) (stack : List Frame) (opened : Bool) :
    v.tokens.foldlM Expecting.step (.value stack opened) = some (.after v stack) := by
  induction plain generalizing stack opened with
  | null => rw [tokens]; rfl
  | bool value => rw [tokens]; rfl
  | number n => rw [ofInt, tokens]; rfl
  | text s => rw [ofString, tokens]; rfl
  | @array items _ ih =>
    rw [tokens, itemTokens_eq, List.cons_append]
    show (_ ++ [Token.endArray]).foldlM Expecting.step (.value (.array [] :: stack) true) = _
    -- An empty array ends right after its opening bracket, which is a step of its own.
    by_cases empty : items = []
    · subst empty
      rfl
    · have comma (done : List Json) : (Expecting.afterItem done stack).step .comma =
          some (.value (.array done :: stack) false) := rfl
      have each : ∀ item ∈ items, ∀ done opened,
          item.tokens.foldlM Expecting.step (.value (.array done :: stack) opened) =
            some (.afterItem (item :: done) stack) :=
        fun item mem done => ih item mem (.array done :: stack)
      rw [List.foldlM_append, foldlM_intercalate comma each empty [] true, List.append_nil]
      -- What a container holds is kept in reverse until its end is read.
      show some (Expecting.after (.array items.reverse.reverse) stack) = _
      rw [List.reverse_reverse]
  | @object members _ ih =>
    rw [ofMembers, tokens, memberTokens_eq, List.cons_append]
    show (_ ++ [Token.endObject]).foldlM Expecting.step (.key [] stack true) = _
    by_cases empty : members = []
    · subst empty
      rfl
    -- Each member is a name, a colon and a value, after which the object goes on.
    · have comma (done : List (Bytes × Json)) : (Expecting.afterMember done stack).step .comma =
          some (.key done stack false) := rfl
      have each : ∀ member ∈ members.map fun member => (escape member.1, member.2),
          ∀ done opened, (oneMember member).foldlM Expecting.step (.key done stack opened) =
            some (.afterMember (member :: done) stack) := by
        intro member mem done opened
        obtain ⟨written, mem', rfl⟩ := List.mem_map.1 mem
        exact ih written mem' (.object done (escape written.1) :: stack) false
      rw [List.foldlM_append, foldlM_intercalate comma each (by simpa using empty) [] true,
        List.append_nil]
      show some (Expecting.after (.object (List.reverse (List.reverse _))) stack) = _
      rw [List.reverse_reverse]

/-- A value that is written is put together again from its tokens. -/
theorem ofTokens?_tokens {v : Json} (plain : Plain v) : ofTokens? v.tokens = some v := by
  rw [ofTokens?, plain.foldlM_tokens]
  rfl

/-- The text of a value that is written spells the value. -/
theorem parse?_render {v : Json} (plain : Plain v) : parse? v.render = some v := by
  rw [parse?, scan_render plain, Option.bind_some, ofTokens?_tokens plain]

/-- The text of a value that is written is a text. -/
theorem ofString_toText {v : Json} (plain : Plain v) : Bytes.ofString v.toText = v.render :=
  plain.spells.isText.ofString_getD

end LargeFiles.Json
