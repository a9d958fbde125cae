import LargeFiles.Proofs.Pointer
import Mathlib.Data.List.TakeWhile

/-!
# The grammar of pointer documents

Which blobs are pointers, which are none, and which are malformed, said of the text and its lines
and not of the reader.  The reader goes through the lines once and lets later values replace
earlier ones; what it has at the end are the last values of the three keys.

* `BreaksInto`                   the lines of a text;
* `Describes`                    what lines must say to be a document, and of which pointer;
* `addLine_eq_ok_iff`            one line: whether it can be taken in, and what it changes;
* `foldlM_addLine_eq_ok_iff`     all lines;
* `foldlM_addLine_of_silent`     lines that say nothing;
* `parse_decides_grammar`        the three answers of the reader.
-/

namespace LargeFiles.Pointer

/-! ### Lines -/

/-- A text and its lines.  A line ends with a line feed, and one carriage return directly before it
    belongs to the break.  What follows the last line feed is a line too, as it stands. -/
inductive BreaksInto : List Char → List (List Char) → Prop
  | last {line : List Char} (single : '\n' ∉ line) : BreaksInto line [line]
  | feed {line rest : List Char} {others : List (List Char)} (single : '\n' ∉ line)
      (plain : line.getLast? ≠ some '\r') (next : BreaksInto rest others) :
      BreaksInto (line ++ '\n' :: rest) (line :: others)
  | carriage {line rest : List Char} {others : List (List Char)} (single : '\n' ∉ line)
      (next : BreaksInto rest others) :
      BreaksInto (line ++ '\r' :: '\n' :: rest) (line :: others)

theorem lines_of_notMem {line : List Char} (single : '\n' ∉ line) : lines line = [line] := by
  rw [lines, List.splitOn_eq_singleton single]
  rfl

theorem stripReturn_append (line : List Char) : stripReturn (line ++ ['\r']) = line := by
  rw [stripReturn, if_pos List.getLast?_concat, List.dropLast_concat]

/-- A text breaks into its lines only. -/
theorem lines_of_breaksInto {text : List Char} {ls : List (List Char)} (h : BreaksInto text ls) :
    lines text = ls := by
  induction h with
  | last single => exact lines_of_notMem single
  | feed single plain _ ih => rw [lines_append single, stripReturn, if_neg plain, ih]
  | @carriage line rest others single _ ih =>
    have whole : line ++ '\r' :: '\n' :: rest = (line ++ ['\r']) ++ '\n' :: rest := by simp
    rw [whole, lines_append (by simpa using single), stripReturn_append, ih]

/-- A text breaks into its lines. -/
theorem breaksInto_lines (text : List Char) : BreaksInto text (lines text) := by
  -- By the length of the text: each line feed leaves a shorter rest.
  induction size : text.length using Nat.strongRecOn generalizing text with
  | ind n ih =>
    by_cases fed : '\n' ∈ text
    · obtain ⟨line, rest, rfl, single⟩ := List.eq_append_cons_of_mem fed
      have next := ih rest.length (by simp at size; omega) rest rfl
      rw [lines_append single, stripReturn]
      split
      · next returned =>
        obtain ⟨front, rfl⟩ := List.getLast?_eq_some_iff.1 returned
        rw [List.dropLast_concat, List.append_assoc]
        exact .carriage (fun mem => single (List.mem_append_left _ mem)) next
      · next plain => exact .feed single plain next
    · rw [lines_of_notMem fed]
      exact .last fed

/-- Every text has its lines, which are those that the reader goes through. -/
theorem breaksInto_iff {text : List Char} {ls : List (List Char)} :
    BreaksInto text ls ↔ lines text = ls :=
  ⟨lines_of_breaksInto, fun h => h ▸ breaksInto_lines text⟩

/-! ### Keys and values -/

/-- A line with a space has a key, up to the first space, and a value. -/
theorem keyLine_of_mem {line : List Char} (spaced : ' ' ∈ line) :
    ∃ key value, ' ' ∉ key ∧ line = keyLine key value := by
  obtain ⟨key, value, rfl, single⟩ := List.eq_append_cons_of_mem spaced
  exact ⟨key, value, single, rfl⟩

theorem mem_keyLine (key value : List Char) : ' ' ∈ keyLine key value :=
  List.mem_append_right _ List.mem_cons_self

/-- A line without a space has no key. -/
theorem keyValue?_eq_none_iff {line : List Char} : keyValue? line = none ↔ ' ' ∉ line := by
  constructor
  · intro none spaced
    obtain ⟨key, value, single, rfl⟩ := keyLine_of_mem spaced
    rw [keyValue?_keyLine single] at none
    cases none
  · intro single
    -- Without a space the whole line is passed over in search of one.
    have all : ∀ c ∈ line, decide (c ≠ ' ') = true := by
      intro c mem
      exact decide_eq_true fun eq => single (eq ▸ mem)
    rw [keyValue?, List.dropWhile_eq_nil_iff.2 all]

/-- The value of a line, if it is one with this key. -/
def valueOf? (key line : List Char) : Option (List Char) :=
  match keyValue? line with
  | some (other, value) => if other = key then some value else none
  | none => none

theorem valueOf?_keyLine {other : List Char} (single : ' ' ∉ other) (key value : List Char) :
    valueOf? key (keyLine other value) = if other = key then some value else none := by
  rw [valueOf?, keyValue?_keyLine single]

theorem valueOf?_of_notMem {line : List Char} (single : ' ' ∉ line) (key : List Char) :
    valueOf? key line = none := by
  rw [valueOf?, keyValue?_eq_none_iff.2 single]

/-- A line gives a value to a key if it is written with that key and that value. -/
theorem valueOf?_eq_some_iff {key line value : List Char} (single : ' ' ∉ key) :
    valueOf? key line = some value ↔ line = keyLine key value := by
  constructor
  · intro found
    by_cases spaced : ' ' ∈ line
    -- A line with a space has one key, which is then the one that is asked for.
    · obtain ⟨other, value', single', rfl⟩ := keyLine_of_mem spaced
      rw [valueOf?_keyLine single'] at found
      split at found
      · next same =>
        cases found
        rw [same]
      · cases found
    · rw [valueOf?_of_notMem spaced] at found
      cases found
  · rintro rfl
    rw [valueOf?_keyLine single, if_pos rfl]

/-- The last line with a key has this value. -/
def LastValue (ls : List (List Char)) (key value : List Char) : Prop :=
  ∃ before after, ls = before ++ keyLine key value :: after ∧ ∀ other, keyLine key other ∉ after

/-! ### Documents -/

/-- Whether a text consists of 64 lower-case hexadecimal digits. -/
def IsHash (hash : String) : Prop :=
  hash.toList.length = 64 ∧ ∀ c ∈ hash.toList, c.isDigit = true ∨ 'a' ≤ c ∧ c ≤ 'f'

/-- The check of a hash looks at its length and at its digits. -/
theorem isContentHash_iff {hash : String} : isContentHash hash = true ↔ IsHash hash := by
  simp [isContentHash, IsHash]

/-- The lines of a document that describes the pointer with this hash and size. -/
structure Describes (ls : List (List Char)) (hash : String) (size : UInt64) : Prop where
  /-- Every line but the empty ones has a space. -/
  spaced : ∀ line ∈ ls, line ≠ [] → ' ' ∈ line
  /-- All sizes are numerals, those too that are replaced later. -/
  numerals : ∀ value, keyLine "size".toList value ∈ ls → ∃ n, Text.Decimal.Numeral value n
  version : LastValue ls "version".toList Pointer.version.toList
  oid : LastValue ls "oid".toList (scheme ++ hash).toList
  isHash : IsHash hash
  size : ∃ value, LastValue ls "size".toList value ∧ Text.Decimal.Numeral value size

/-- Whether a blob is a text of these lines. -/
def IsWritten (blob : Bytes) (ls : List (List Char)) : Prop :=
  ∃ text : String, blob = Bytes.ofString text ∧ BreaksInto text.toList ls

/-- A blob is a document for the pointer with this hash and size. -/
def Document (blob : Bytes) (hash : String) (size : UInt64) : Prop :=
  ∃ ls, IsWritten blob ls ∧ Describes ls hash size

/-- Whether a blob begins like a pointer and is small enough to be one. -/
def Begins (blob : Bytes) : Prop := Bytes.ofString "version " <+: blob ∧ blob.length ≤ 1024

/-- The check of the start looks at the first line and at the length. -/
theorem isCandidate_iff {blob : Bytes} : isCandidate blob = true ↔ Begins blob := by
  rw [isCandidate, Bool.and_eq_true, List.isPrefixOf_iff_prefix, decide_eq_true_iff]
  rfl

/-- A line that says nothing: it is empty or has another key. -/
def Silent (line : List Char) : Prop :=
  line = [] ∨ ∃ key value, ' ' ∉ key ∧ line = keyLine key value ∧
    key ∉ ["version".toList, "oid".toList, "size".toList]

/-! ### Reading one line -/

/-- Whether a line can be taken in. -/
structure Readable (line : List Char) : Prop where
  spaced : line ≠ [] → ' ' ∈ line
  numeral : ∀ value, line = keyLine "size".toList value → ∃ n, Text.Decimal.Numeral value n

/-- What a draft is after a line. -/
def Draft.after (draft : Draft) (line : List Char) : Draft where
  version := (valueOf? "version".toList line).or draft.version
  oid := (valueOf? "oid".toList line).or draft.oid
  size := ((valueOf? "size".toList line).bind Text.Decimal.ofNumeral?).or draft.size

theorem after_of_notMem {line : List Char} (single : ' ' ∉ line) (draft : Draft) :
    draft.after line = draft := by
  simp [Draft.after, valueOf?_of_notMem single]

/-- A line with another key than that of the size is always readable. -/
theorem readable_keyLine_of_ne {key : List Char} (single : ' ' ∉ key)
    (ne : key ≠ "size".toList) (value : List Char) : Readable (keyLine key value) where
  spaced _ := mem_keyLine key value
  numeral other same := by
    have found := (valueOf?_eq_some_iff (by decide)).2 same
    rw [valueOf?_keyLine single, if_neg ne] at found
    cases found

/-- A line with the size is readable if its value is a numeral. -/
theorem readable_size_iff {value : List Char} :
    Readable (keyLine "size".toList value) ↔ ∃ n, Text.Decimal.Numeral value n := by
  constructor
  · exact fun h => h.numeral value rfl
  · intro numeral
    refine ⟨fun _ => mem_keyLine _ value, fun other same => ?_⟩
    cases List.append_cancel_left same
    exact numeral

/-- A line fills the field of its key, and leaves the others. -/
theorem after_keyLine {key : List Char} (single : ' ' ∉ key) (value : List Char) (draft : Draft) :
    draft.after (keyLine key value) =
      { version := if key = "version".toList then some value else draft.version
        oid := if key = "oid".toList then some value else draft.oid
        size := if key = "size".toList then (Text.Decimal.ofNumeral? value).or draft.size
          else draft.size } := by
  simp only [Draft.after, valueOf?_keyLine single]
  congr 1 <;> split <;> rfl

/-- A line is taken in exactly if it can be, and then it gives the value of its key. -/
theorem addLine_eq_ok_iff {draft next : Draft} {line : List Char} :
    draft.addLine line = .ok next ↔ Readable line ∧ next = draft.after line := by
  by_cases spaced : ' ' ∈ line
  · obtain ⟨key, value, single, rfl⟩ := keyLine_of_mem spaced
    rw [addLine_keyLine single, after_keyLine single]
    -- One case for each of the three keys and one for all others.
    by_cases version : key = "version".toList
    · subst version
      rw [if_pos rfl, if_pos rfl, if_neg (by decide), if_neg (by decide),
        and_iff_right (readable_keyLine_of_ne single (by decide) value), Except.ok.injEq, eq_comm]
    by_cases oid : key = "oid".toList
    · subst oid
      rw [if_neg version, if_pos rfl, if_neg version, if_pos rfl, if_neg (by decide),
        and_iff_right (readable_keyLine_of_ne single (by decide) value), Except.ok.injEq, eq_comm]
    rw [if_neg version, if_neg oid, if_neg version, if_neg oid]
    by_cases size : key = "size".toList
    · subst size
      rw [if_pos rfl, if_pos rfl, readable_size_iff]
      -- The size is the only value that can be refused at its line.
      cases denotes : Text.Decimal.ofNumeral? value with
      | some n =>
        have numeral := Text.Decimal.ofNumeral?_eq_some_iff.1 denotes
        simp only [and_iff_right (Exists.intro n numeral), Except.ok.injEq, Option.some_or]
        exact eq_comm
      | none =>
        -- A value that is no numeral makes the line unreadable.
        refine iff_of_false (by rintro ⟨⟩) ?_
        rintro ⟨⟨n, numeral⟩, -⟩
        rw [Text.Decimal.ofNumeral?_eq_some_iff.2 numeral] at denotes
        cases denotes
    · rw [if_neg size, if_neg size, and_iff_right (readable_keyLine_of_ne single size value),
        Except.ok.injEq, eq_comm]
  · rw [after_of_notMem spaced, Draft.addLine]
    split
    -- An empty line may stand anywhere.
    · next empty =>
      have readable : Readable line :=
        ⟨fun ne => absurd (List.isEmpty_iff.1 empty) ne,
          fun value same => absurd (same ▸ mem_keyLine _ value) spaced⟩
      rw [and_iff_right readable, Except.ok.injEq, eq_comm]
    · next nonempty =>
      rw [keyValue?_eq_none_iff.2 spaced]
      refine iff_of_false (by rintro ⟨⟩) ?_
      rintro ⟨readable, -⟩
      exact spaced (readable.spaced fun empty => nonempty (List.isEmpty_iff.2 empty))

/-- A line that says nothing is taken in and changes nothing. -/
theorem addLine_of_silent {line : List Char} (silent : Silent line) (draft : Draft) :
    draft.addLine line = .ok draft := by
  obtain rfl | ⟨key, value, single, rfl, other⟩ := silent
  · rfl
  · simp only [List.mem_cons, List.not_mem_nil, or_false, not_or] at other
    rw [addLine_keyLine single, if_neg other.1, if_neg other.2.1, if_neg other.2.2]

/-! ### Reading all lines -/

/-- Lines are read if all of them are readable, one after the other. -/
theorem foldlM_addLine_eq_ok_iff {ls : List (List Char)} {draft next : Draft} :
    ls.foldlM Draft.addLine draft = .ok next ↔
      (∀ line ∈ ls, Readable line) ∧ next = ls.foldl Draft.after draft := by
  induction ls generalizing draft with
  | nil => simp [pure, Except.pure, eq_comm]
  | cons line rest ih =>
    rw [List.foldlM_cons, List.foldl_cons, List.forall_mem_cons]
    cases step : draft.addLine line with
    -- A line that is refused is not readable, which the right side rules out.
    | error fault =>
      refine iff_of_false (by rintro ⟨⟩) ?_
      rintro ⟨⟨readable, -⟩, -⟩
      rw [addLine_eq_ok_iff.2 ⟨readable, rfl⟩] at step
      cases step
    | ok middle =>
      obtain ⟨readable, rfl⟩ := addLine_eq_ok_iff.1 step
      rw [and_iff_right readable]
      exact ih

/-- Lines that say nothing can be left out. -/
theorem foldlM_addLine_of_silent {ls : List (List Char)} (silent : ∀ line ∈ ls, Silent line)
    (draft : Draft) : ls.foldlM Draft.addLine draft = .ok draft := by
  induction ls with
  | nil => rfl
  | cons line rest ih =>
    rw [List.foldlM_cons, addLine_of_silent (silent line List.mem_cons_self)]
    exact ih fun other mem => silent other (List.mem_cons_of_mem _ mem)

/-- A silent line may be left out. -/
theorem foldlM_addLine_insert {line : List Char} (silent : Silent line)
    (before after : List (List Char)) (draft : Draft) :
    (before ++ line :: after).foldlM Draft.addLine draft =
      (before ++ after).foldlM Draft.addLine draft := by
  rw [List.foldlM_append, List.foldlM_append]
  congr 1
  funext middle
  rw [List.foldlM_cons, addLine_of_silent silent]
  rfl

/-- What a draft has after all lines comes from the last line that gives it. -/
theorem foldl_after {α : Type} (field : Draft → Option α) {given : List Char → Option α}
    (step : ∀ draft line, field (draft.after line) = (given line).or (field draft))
    (ls : List (List Char)) (draft : Draft) :
    field (ls.foldl Draft.after draft) = (ls.reverse.findSome? given).or (field draft) := by
  induction ls generalizing draft with
  | nil => rfl
  | cons line rest ih =>
    rw [List.foldl_cons, ih, step, List.reverse_cons, List.findSome?_append, Option.or_assoc]
    simp

/-- A search from the end finds the last one. -/
theorem findSome?_reverse_eq_some_iff {α : Type} {given : List Char → Option α}
    {ls : List (List Char)} {a : α} :
    ls.reverse.findSome? given = some a ↔
      ∃ before line after, ls = before ++ line :: after ∧ given line = some a ∧
        ∀ other ∈ after, given other = none := by
  -- The first line from the end is the last one from the front.
  rw [List.findSome?_eq_some_iff]
  constructor
  · rintro ⟨after, line, before, same, found, others⟩
    refine ⟨before.reverse, line, after.reverse, ?_, found, by simpa using others⟩
    rw [← List.reverse_reverse ls, same]
    simp
  · rintro ⟨before, line, after, rfl, found, others⟩
    exact ⟨after.reverse, line, before.reverse, by simp, found, by simpa using others⟩

/-- A search from the end finds the last value of a key. -/
theorem findSome?_valueOf?_iff {key value : List Char} (single : ' ' ∉ key)
    {ls : List (List Char)} :
    ls.reverse.findSome? (valueOf? key) = some value ↔ LastValue ls key value := by
  -- A line gives no value to the key if it is not written with it.
  have none_iff (line : List Char) :
      valueOf? key line = none ↔ ∀ other, line ≠ keyLine key other := by
    rw [Option.eq_none_iff_forall_ne_some]
    exact forall_congr' fun other => not_congr (valueOf?_eq_some_iff single)
  rw [findSome?_reverse_eq_some_iff]
  constructor
  · rintro ⟨before, line, after, rfl, found, others⟩
    rw [valueOf?_eq_some_iff single] at found
    subst found
    exact ⟨before, after, rfl, fun other mem => (none_iff _).1 (others _ mem) other rfl⟩
  · rintro ⟨before, after, rfl, others⟩
    refine ⟨before, _, after, rfl, (valueOf?_eq_some_iff single).2 rfl, fun line mem => ?_⟩
    exact (none_iff line).2 fun other same => others other (same ▸ mem)

/-- The last size, where all sizes are numerals. -/
theorem findSome?_size_iff {ls : List (List Char)} {n : UInt64}
    (readable : ∀ line ∈ ls, Readable line) :
    ls.reverse.findSome? (fun line => (valueOf? "size".toList line).bind Text.Decimal.ofNumeral?) =
        some n ↔
      ∃ value, LastValue ls "size".toList value ∧ Text.Decimal.Numeral value n := by
  rw [findSome?_reverse_eq_some_iff]
  constructor
  · rintro ⟨before, line, after, rfl, found, others⟩
    obtain ⟨value, size, denotes⟩ := Option.bind_eq_some_iff.1 found
    rw [valueOf?_eq_some_iff (by decide)] at size
    subst size
    refine ⟨value, ⟨before, after, rfl, fun other mem => ?_⟩,
      Text.Decimal.ofNumeral?_eq_some_iff.1 denotes⟩
    -- A later size would be a numeral, and have been found.
    have later := readable _ (List.mem_append_right _ (List.mem_cons_of_mem _ mem))
    obtain ⟨m, numeral⟩ := later.numeral other rfl
    have none := others _ mem
    rw [(valueOf?_eq_some_iff (by decide)).2 rfl, Option.bind_some,
      Text.Decimal.ofNumeral?_eq_some_iff.2 numeral] at none
    cases none
  · rintro ⟨value, ⟨before, after, rfl, others⟩, numeral⟩
    refine ⟨before, _, after, rfl, ?_, fun line mem => ?_⟩
    · rw [(valueOf?_eq_some_iff (by decide)).2 rfl, Option.bind_some,
        Text.Decimal.ofNumeral?_eq_some_iff.2 numeral]
    · rw [Option.bind_eq_none_iff]
      intro other size
      rw [valueOf?_eq_some_iff (by decide)] at size
      exact absurd (size ▸ mem) (others other)

/-! ### The whole document -/

/-- A draft is finished if it has the version, the identifier and the size of the pointer. -/
theorem finish_eq_ok_iff {draft : Draft} {p : Pointer} :
    draft.finish = .ok p ↔ draft.version = some Pointer.version.toList ∧
      draft.oid = some p.oid.toList ∧ draft.size = some p.size := by
  constructor
  · intro done
    rw [Draft.finish] at done
    split at done
    · cases done
    -- The checks are made in this order, and each of them passes.
    next version =>
    split at done
    · cases done
    next oid given =>
    split at done
    · cases done
    next hash named =>
    split at done
    · cases done
    next size declared =>
    split at done
    · cases done
    next q made =>
    cases done
    rw [ofHash?] at made
    split at made
    · cases made
      rw [hashOfOid?_eq_some_iff] at named
      refine ⟨not_not.1 version, ?_, declared⟩
      rw [given, Pointer.oid, ← named, String.toList_ofList]
    · cases made
  · rintro ⟨version, oid, size⟩
    -- With its fields filled in, the draft is that of a document.
    obtain ⟨version', oid', size'⟩ := draft
    cases version
    cases oid
    cases size
    exact p.finish_document

/-- The reader ends with the pointer that the lines describe. -/
theorem exists_finish_iff {ls : List (List Char)} {p : Pointer} :
    (∃ draft, ls.foldlM Draft.addLine {} = .ok draft ∧ draft.finish = .ok p) ↔
      Describes ls p.hash p.size := by
  -- Later lines replace what earlier ones have filled, so each field has its last value.
  have last {α : Type} (field : Draft → Option α) {given : List Char → Option α}
      (step : ∀ draft line, field (draft.after line) = (given line).or (field draft))
      (start : field {} = none) :
      field (ls.foldl Draft.after {}) = ls.reverse.findSome? given := by
    rw [foldl_after field step, start, Option.or_none]
  -- Each field has a line of its own kind that fills it.
  have version := last Draft.version (fun _ _ => rfl) rfl
  have oid := last Draft.oid (fun _ _ => rfl) rfl
  have size := last Draft.size (fun _ _ => rfl) rfl
  constructor
  · rintro ⟨draft, read, done⟩
    obtain ⟨readable, rfl⟩ := foldlM_addLine_eq_ok_iff.1 read
    rw [finish_eq_ok_iff, version, oid, size, findSome?_valueOf?_iff (by decide),
      findSome?_valueOf?_iff (by decide), findSome?_size_iff readable] at done
    exact {
      spaced := fun line mem => (readable line mem).spaced
      numerals := fun value mem => (readable _ mem).numeral value rfl
      version := done.1
      oid := done.2.1
      isHash := isContentHash_iff.1 p.hash_ok
      size := done.2.2 }
  · intro h
    have readable : ∀ line ∈ ls, Readable line := fun line mem =>
      ⟨h.spaced line mem, fun value same => h.numerals value (same ▸ mem)⟩
    refine ⟨_, foldlM_addLine_eq_ok_iff.2 ⟨readable, rfl⟩, ?_⟩
    rw [finish_eq_ok_iff, version, oid, size, findSome?_valueOf?_iff (by decide),
      findSome?_valueOf?_iff (by decide), findSome?_size_iff readable]
    exact ⟨h.version, h.oid, h.size⟩

/-- A blob that does not begin like a pointer is none. -/
theorem parse_of_not_begins {blob : Bytes} (other : ¬ Begins blob) : parse blob = .ok none := by
  rw [← isCandidate_iff, Bool.not_eq_true] at other
  rw [parse, other]
  rfl

/-- Reading a text of some lines that begins like a pointer. -/
theorem parse_of_isWritten {blob : Bytes} (begins : Begins blob) {ls : List (List Char)}
    (written : IsWritten blob ls) :
    parse blob = match ls.foldlM Draft.addLine {} with
      | .error fault => .error fault
      | .ok draft => draft.finish.map some := by
  obtain ⟨text, rfl, breaks⟩ := written
  -- There is one way only to break a text into lines.
  rw [parse, isCandidate_iff.2 begins, Bytes.toString?_ofString]
  simp only [Bool.not_true, Bool.false_eq_true, if_false, lines_of_breaksInto breaks]
  cases ls.foldlM Draft.addLine {} with
  | error fault => rfl
  | ok draft =>
    simp only
    cases draft.finish <;> rfl

/-- A blob that begins like a pointer is one, or it is refused. -/
theorem parse_ne_none {blob : Bytes} (begins : Begins blob) : parse blob ≠ .ok none := by
  intro none
  rw [parse, isCandidate_iff.2 begins] at none
  simp only [Bool.not_true, Bool.false_eq_true, if_false] at none
  split at none
  · cases none
  split at none
  · cases none
  split at none <;> cases none

/-- A blob that begins like a pointer is read as one if it is the document of it. -/
theorem parse_eq_some_iff {blob : Bytes} (begins : Begins blob) {p : Pointer} :
    parse blob = .ok (some p) ↔ Document blob p.hash p.size := by
  constructor
  · intro found
    cases read : Bytes.toString? blob with
    -- A blob that is no text is refused.
    | none => simp [parse, isCandidate_iff.2 begins, read] at found
    | some text =>
      have written : IsWritten blob (lines text.toList) :=
        ⟨text, Bytes.toString?_eq_some_iff.1 read, breaksInto_lines _⟩
      refine ⟨_, written, exists_finish_iff.1 ?_⟩
      rw [parse_of_isWritten begins written] at found
      split at found
      · cases found
      · next draft all =>
        -- The lines were read, so it is finishing that gave the pointer.
        refine ⟨draft, all, ?_⟩
        cases done : draft.finish with
        | error fault =>
          rw [done] at found
          cases found
        | ok q =>
          rw [done] at found
          cases found
          rfl
  · rintro ⟨ls, written, describes⟩
    -- All lines are read, and the draft that they leave is finished.
    obtain ⟨draft, all, done⟩ := exists_finish_iff.2 describes
    rw [parse_of_isWritten begins written, all]
    simp only [done]
    rfl

/-- What does not begin like a pointer is none, so whatever else is answered, the blob begins so. -/
theorem begins_of_parse_ne {blob : Bytes} (other : parse blob ≠ .ok none) : Begins blob := by
  by_contra none
  exact other (parse_of_not_begins none)

/-- A blob is read as a pointer if it begins like one and is the document of it. -/
theorem exists_parse_eq_some_iff {blob : Bytes} {hash : String} {size : UInt64} :
    (∃ p, parse blob = .ok (some p) ∧ p.hash = hash ∧ p.size = size) ↔
      Begins blob ∧ Document blob hash size := by
  constructor
  · rintro ⟨p, found, rfl, rfl⟩
    have begins : Begins blob := begins_of_parse_ne (by simp [found])
    exact ⟨begins, (parse_eq_some_iff begins).1 found⟩
  · rintro ⟨begins, document⟩
    obtain ⟨ls, written, describes⟩ := document
    -- The hash has the right digits, so there is a pointer with it.
    have valid := isContentHash_iff.2 describes.isHash
    exact ⟨⟨hash, size, valid⟩, (parse_eq_some_iff begins).2 ⟨ls, written, describes⟩, rfl, rfl⟩

/-- A blob is refused if it begins like a pointer and is the document of none. -/
theorem exists_parse_eq_error_iff {blob : Bytes} :
    (∃ fault, parse blob = .error fault) ↔
      Begins blob ∧ ∀ hash size, ¬ Document blob hash size := by
  constructor
  · rintro ⟨fault, failed⟩
    have begins : Begins blob := begins_of_parse_ne (by simp [failed])
    refine ⟨begins, fun hash size document => ?_⟩
    obtain ⟨p, found, -, -⟩ := exists_parse_eq_some_iff.2 ⟨begins, document⟩
    rw [failed] at found
    cases found
  · rintro ⟨begins, others⟩
    -- There are three answers, and the other two are excluded.
    cases answer : parse blob with
    | error fault => exact ⟨fault, rfl⟩
    | ok found =>
      cases found with
      | none => exact absurd answer (parse_ne_none begins)
      | some p => exact absurd ((parse_eq_some_iff begins).1 answer) (others p.hash p.size)

/-- A line that says nothing can be left out of a blob. -/
theorem parse_of_silent {blob less : Bytes} {before after : List (List Char)} {line : List Char}
    (silent : Silent line) (written : IsWritten blob (before ++ line :: after))
    (shortened : IsWritten less (before ++ after)) (begins : Begins blob)
    (begins' : Begins less) : parse less = parse blob := by
  rw [parse_of_isWritten begins written, parse_of_isWritten begins' shortened,
    foldlM_addLine_insert silent]

/-- A blob that does not begin like a pointer, or is too large, is none.  Any other is the pointer
    that its lines describe, and malformed if they describe none.  Empty lines and lines with other
    keys have no part in this. -/
theorem parse_decides_grammar (blob : Bytes) :
    (parse blob = .ok none ↔ ¬ Bytes.ofString "version " <+: blob ∨ 1024 < blob.length) ∧
    (∀ hash size, (∃ p, parse blob = .ok (some p) ∧ p.hash = hash ∧ p.size = size) ↔
      Begins blob ∧ Document blob hash size) ∧
    ((∃ fault, parse blob = .error fault) ↔
      Begins blob ∧ ∀ hash size, ¬ Document blob hash size) ∧
    ∀ less before line after, Silent line → IsWritten blob (before ++ line :: after) →
      IsWritten less (before ++ after) → Begins blob → Begins less → parse less = parse blob := by
  have none_iff : parse blob = .ok none ↔ ¬ Begins blob :=
    ⟨fun none begins => parse_ne_none begins none, parse_of_not_begins⟩
  refine ⟨?_, fun _ _ => exists_parse_eq_some_iff, exists_parse_eq_error_iff, ?_⟩
  · rw [none_iff, Begins, not_and_or, Nat.not_le]
  · exact fun _ _ _ _ => parse_of_silent

/-- A document whose size is given twice, with an empty line and another key in between; its last
    line has no end. -/
theorem parse_decides_grammar_two_sizes :
    let hash := "4d7a214614ab2935c943f9e0ff69d22eadbb8f32b1258daaa5e2ca24d17e2393"
    let first : Pointer := ⟨hash, 1, by decide⟩
    let rest := "\r\next-0-a b\nsize +0012"
    let blob := first.toBytes ++ Bytes.ofString rest
    parse blob = .ok (some ⟨hash, 12, by decide⟩) ∧ Begins blob ∧ Document blob hash 12 ∧
      ¬ Document blob hash 1 := by
  intro hash first rest blob
  have whole : blob = Bytes.ofString (first.text ++ rest) := by
    rw [Bytes.ofString_append]
    rfl
  have begins : Begins blob := by
    obtain ⟨start, -⟩ := isCandidate_iff.1 first.isCandidate_toBytes
    refine ⟨start.trans (List.prefix_append _ _), ?_⟩
    have bytes := Bytes.length_ofString_le (first.text ++ rest)
    have chars := first.length_text_le
    have more : rest.toList.length = 22 := by decide
    rw [whole]
    rw [String.toList_append, List.length_append] at bytes
    omega
  have written : IsWritten blob (lines (first.text.toList ++ rest.toList)) :=
    ⟨_, whole, breaksInto_iff.2 (congrArg lines (String.toList_append ..))⟩
  have found : parse blob = .ok (some ⟨hash, 12, by decide⟩) := by
    -- The second size replaces the first one.
    have others : (lines rest.toList).foldlM Draft.addLine
        ⟨some version.toList, some first.oid.toList, some 1⟩ =
          .ok ⟨some version.toList, some first.oid.toList, some 12⟩ := by decide
    rw [parse_of_isWritten begins written, lines_text_append, foldlM_addLine_document, others]
    show Except.map some (Draft.finish _) = _
    rw [(finish_eq_ok_iff (p := ⟨hash, 12, by decide⟩)).2 ⟨rfl, rfl, rfl⟩]
    rfl
  have decided := parse_decides_grammar blob
  have document := ((decided.2.1 hash 12).1 ⟨_, found, rfl, rfl⟩).2
  refine ⟨found, begins, document, fun once => ?_⟩
  obtain ⟨p, found', -, size⟩ := (decided.2.1 hash 1).2 ⟨begins, once⟩
  cases found.symm.trans found'
  cases size

end LargeFiles.Pointer
