import LargeFiles.Branch
import LargeFiles.Text.Blank

/-!
# The grammar of branch names

Which texts are short names, said of the text and its components and not of the checks that are
made one after another.  The checks leave nothing out of the grammar but white space: they look for
four characters, and there are more.

* `Grammatical`               the grammar, for any notion of white space;
* `joined_iff`                components between slashes, and the components that are checked;
* `fault?_eq_none_iff`        the checks, with those left out that follow from others;
* `grammatical_iff`           a name without a fault follows the grammar, for the white space that
                              is looked for;
* `grammatical_isBlank_iff`   what the grammar asks beyond that, for all white space;
* `short_names_grammar`       all of this of the short and the full names that are accepted.
-/

namespace LargeFiles.Branch

/-! ### The grammar -/

/-- The white space that is looked for in names. -/
def lookedFor : List Char := [' ', '\t', '\n', '\r']

/-- What may stand between the slashes of a name. -/
structure IsComponent (component : List Char) : Prop where
  nonempty : component ≠ []
  noSlash : '/' ∉ component
  noDotFront : component.head? ≠ some '.'

/-- The grammar of short names, for a notion of white space. -/
structure Grammatical (blank : Char → Prop) (name : List Char) : Prop where
  /-- The name is one component or more, with single slashes between them. -/
  joined : ∃ components : List (List Char), components ≠ [] ∧
    (∀ component ∈ components, IsComponent component) ∧ ['/'].intercalate components = name
  noDotEnd : ¬ ['.'] <:+ name
  noLockEnd : ¬ ".lock".toList <:+ name
  noDoubleDot : ¬ ['.', '.'] <:+: name
  noAtBrace : ¬ ['@', '\x7b'] <:+: name
  noPunctuation : ∀ c ∈ ['~', '^', ':', '?', '*', '[', '\\'], c ∉ name
  noBlank : ∀ c ∈ name, ¬ blank c

/-! ### The checks -/

variable {name : List Char}

/-- The search for consecutive elements finds what occurs. -/
theorem occursIn_iff {α : Type} [BEq α] [LawfulBEq α] {needle l : List α} :
    occursIn needle l = true ↔ needle <:+: l := by
  induction l with
  | nil => rw [occursIn, List.isEmpty_iff, List.infix_nil]
  | cons a rest ih =>
    rw [occursIn, Bool.or_eq_true, List.isPrefixOf_iff_prefix, ih, List.infix_cons_iff]

theorem isOuter_iff {c : Char} :
    isOuter c name = true ↔ name.head? = some c ∨ name.getLast? = some c := by
  rw [isOuter, Bool.or_eq_true, beq_iff_eq, beq_iff_eq]

/-- A component has no fault if there is something in it, and no dot in front. -/
theorem componentFault?_eq_none_iff {component : List Char} :
    componentFault? component = none ↔ component ≠ [] ∧ component.head? ≠ some '.' := by
  unfold componentFault?
  split
  · simp
  · simp
  · next nonempty dotless =>
    refine iff_of_true rfl ⟨nonempty, fun dotted => ?_⟩
    obtain ⟨rest, rfl⟩ := List.head?_eq_some_iff.1 dotted
    exact dotless rest rfl

private theorem ite_some_eq_none_iff {α : Type} {p : Prop} [Decidable p] {a : α}
    {other : Option α} :
    (if p then some a else other) = none ↔ ¬ p ∧ other = none := by
  split <;> simp_all

/-- The checks, one after another. -/
theorem fault?_eq_none_iff_checks :
    fault? name = none ↔
      name ≠ [] ∧ (∀ c ∈ forbiddenChars, c ∉ name) ∧ ¬ ['.', '.'] <:+: name ∧
      ¬ ['@', '\x7b'] <:+: name ∧ ¬ isOuter '.' name ∧ ¬ isOuter '/' name ∧
      ¬ ".lock".toList <:+ name ∧
      ∀ component ∈ name.splitOn '/', component ≠ [] ∧ component.head? ≠ some '.' := by
  have forbidden : forbiddenChars.find? name.contains = none ↔ ∀ c ∈ forbiddenChars, c ∉ name := by
    simp only [List.find?_eq_none, List.contains_iff_mem]
  have components : (name.splitOn '/').findSome? componentFault? = none ↔
      ∀ component ∈ name.splitOn '/', component ≠ [] ∧ component.head? ≠ some '.' := by
    simp only [List.findSome?_eq_none_iff, componentFault?_eq_none_iff]
  -- The second check tells which character it found, so it is a match and not a condition.
  rw [fault?, ite_some_eq_none_iff, List.isEmpty_iff, ← forbidden, ← components,
    ← occursIn_iff, ← occursIn_iff, ← List.isSuffixOf_iff_suffix]
  refine and_congr_right fun _ => ?_
  split
  · next c found =>
    rw [found]
    exact iff_of_false (fun h => nomatch h) fun h => nomatch h.1
  · next absent => simp only [absent, ite_some_eq_none_iff, true_and]

/-! ### Components -/

/-- What stands between slashes holds none. -/
theorem notMem_of_mem_splitOn {component : List Char} (mem : component ∈ name.splitOn '/') :
    '/' ∉ component := by
  induction name generalizing component with
  | nil =>
    rw [List.splitOn_nil, List.mem_singleton] at mem
    subst mem
    exact List.not_mem_nil
  | cons c rest ih =>
    rw [List.splitOn_cons_eq_if_modifyHead] at mem
    split at mem
    · rcases List.mem_cons.1 mem with rfl | mem
      · exact List.not_mem_nil
      · exact ih mem
    · next notSlash =>
      -- The character goes in front of the first component of the rest.
      obtain ⟨first, others, split⟩ := List.exists_cons_of_ne_nil (List.splitOn_ne_nil '/' rest)
      rw [split, List.modifyHead_cons] at mem
      rw [split] at ih
      rcases List.mem_cons.1 mem with rfl | mem
      · intro slash
        rcases List.mem_cons.1 slash with rfl | slash
        · exact notSlash (beq_self_eq_true _)
        · exact ih List.mem_cons_self slash
      · exact ih (List.mem_cons_of_mem _ mem)

/-- A name consists of components, with slashes between them, if those that a reader finds between
    the slashes are neither empty nor have a dot in front. -/
theorem joined_iff :
    (∃ components : List (List Char), components ≠ [] ∧
      (∀ component ∈ components, IsComponent component) ∧ ['/'].intercalate components = name) ↔
    ∀ component ∈ name.splitOn '/', component ≠ [] ∧ component.head? ≠ some '.' := by
  constructor
  · rintro ⟨components, nonempty, fine, rfl⟩
    -- Parts without slashes are found again where the slashes are.
    rw [List.splitOn_intercalate '/' (fun component mem => (fine component mem).noSlash) nonempty]
    exact fun component mem => ⟨(fine component mem).nonempty, (fine component mem).noDotFront⟩
  · intro fine
    refine ⟨name.splitOn '/', List.splitOn_ne_nil '/' name, fun component mem => ?_,
      List.intercalate_splitOn '/'⟩
    exact ⟨(fine component mem).1, notMem_of_mem_splitOn mem, (fine component mem).2⟩

section

variable (fine : ∀ component ∈ name.splitOn '/', component ≠ [] ∧ component.head? ≠ some '.')
include fine

theorem ne_nil_of_components : name ≠ [] := by
  rintro rfl
  exact (fine [] (List.mem_singleton.2 rfl)).1 rfl

/-- No slash stands first or last, since it would have an empty component beside it. -/
theorem not_isOuter_slash : ¬ isOuter '/' name := by
  rw [isOuter_iff]
  rintro (first | last)
  · -- A slash in front comes after an empty component.
    obtain ⟨rest, rfl⟩ := List.head?_eq_some_iff.1 first
    refine (fine [] ?_).1 rfl
    exact (List.splitOn_append_cons_self [] rest) ▸ List.mem_append_left _ List.mem_cons_self
  · -- One at the end comes before such a component.
    obtain ⟨front, rfl⟩ := List.getLast?_eq_some_iff.1 last
    refine (fine [] ?_).1 rfl
    exact (List.splitOn_append_cons_self front []) ▸ List.mem_append_right _ List.mem_cons_self

/-- No dot stands first, since the first component would begin with it. -/
theorem head?_ne_dot : name.head? ≠ some '.' := by
  intro first
  obtain ⟨rest, rfl⟩ := List.head?_eq_some_iff.1 first
  obtain ⟨component, others, split⟩ := List.exists_cons_of_ne_nil (List.splitOn_ne_nil '/' rest)
  -- A dot at the front of the name is at the front of its first component.
  have front : ('.' :: rest).splitOn '/' = ('.' :: component) :: others := by
    rw [List.splitOn_cons_eq_if_modifyHead, split]
    rfl
  rw [front] at fine
  exact (fine _ List.mem_cons_self).2 rfl

end

/-! ### Accepted names -/

/-- The checks, with those left out that follow from others. -/
theorem fault?_eq_none_iff :
    fault? name = none ↔
      (∀ c ∈ forbiddenChars, c ∉ name) ∧ ¬ ['.', '.'] <:+: name ∧ ¬ ['@', '\x7b'] <:+: name ∧
      ¬ ['.'] <:+ name ∧ ¬ ".lock".toList <:+ name ∧
      ∀ component ∈ name.splitOn '/', component ≠ [] ∧ component.head? ≠ some '.' := by
  rw [fault?_eq_none_iff_checks, List.singleton_suffix_iff_getLast?_eq_some]
  -- Of the dots at the ends only the last is left to be checked: the first stands in a component.
  constructor
  · rintro ⟨-, chars, dots, brace, outer, -, lock, fine⟩
    exact ⟨chars, dots, brace, fun last => outer (isOuter_iff.2 (.inr last)), lock, fine⟩
  · rintro ⟨chars, dots, brace, dotEnd, lock, fine⟩
    have outer : ¬ isOuter '.' name := by
      rw [isOuter_iff]
      exact not_or.2 ⟨head?_ne_dot fine, dotEnd⟩
    exact ⟨ne_nil_of_components fine, chars, dots, brace, outer, not_isOuter_slash fine, lock, fine⟩

/-- A name without a fault follows the grammar, for the white space that is looked for. -/
theorem grammatical_iff : Grammatical (· ∈ lookedFor) name ↔ fault? name = none := by
  rw [fault?_eq_none_iff]
  constructor
  · intro h
    refine ⟨fun c mem => ?_, h.noDoubleDot, h.noAtBrace, h.noDotEnd, h.noLockEnd,
      joined_iff.1 h.joined⟩
    -- The forbidden characters are white space and punctuation, in one list.
    have parts : c ∈ lookedFor ++ ['~', '^', ':', '?', '*', '[', '\\'] := mem
    rcases List.mem_append.1 parts with blank | punctuation
    · exact fun within => h.noBlank c within blank
    · exact h.noPunctuation c punctuation
  · rintro ⟨chars, dots, brace, dotEnd, lock, fine⟩
    exact
      { joined := joined_iff.2 fine
        noDotEnd := dotEnd
        noLockEnd := lock
        noDoubleDot := dots
        noAtBrace := brace
        noPunctuation := fun c mem => chars c (List.mem_append_right lookedFor mem)
        noBlank := fun c within blank => chars c (List.mem_append_left _ blank) within }

/-- What is looked for is white space. -/
theorem isBlank_of_lookedFor : ∀ c ∈ lookedFor, Text.isBlank c = true := by
  intro c mem
  simp only [lookedFor, List.mem_cons, List.not_mem_nil, or_false] at mem
  rcases mem with rfl | rfl | rfl | rfl <;> rfl

/-- A name follows the grammar for all white space if it has no fault and no white space. -/
theorem grammatical_isBlank_iff :
    Grammatical (Text.isBlank · = true) name ↔
      fault? name = none ∧ ∀ c ∈ name, Text.isBlank c = false := by
  rw [← grammatical_iff]
  constructor
  · intro h
    refine ⟨{ h with noBlank := fun c within looked => ?_ }, fun c within => ?_⟩
    · exact h.noBlank c within (isBlank_of_lookedFor c looked)
    · exact Bool.eq_false_iff.2 (h.noBlank c within)
  · rintro ⟨h, blankless⟩
    exact { h with noBlank := fun c within => Bool.eq_false_iff.1 (blankless c within) }

/-- A short name is accepted if it has no fault. -/
theorem exists_ofShort_iff {name : String} :
    (∃ branch, ofShort name = .ok branch) ↔ fault? name.toList = none := by
  unfold ofShort
  split
  · next faultless => exact iff_of_true ⟨_, rfl⟩ faultless
  · next found =>
    rw [found]
    exact ⟨fun ⟨_, accepted⟩ => (nomatch accepted), fun absent => nomatch absent⟩

/-! ### Full names -/

/-- A full name loses its prefix. -/
theorem stripHeads_append (short : String) : stripHeads (heads ++ short) = short := by
  have starts : heads.toList <+: (heads ++ short).toList := by
    rw [String.toList_append]
    exact List.prefix_append _ _
  rw [stripHeads, if_pos (List.isPrefixOf_iff_prefix.2 starts), String.toList_append,
    List.drop_left, String.ofList_toList]

/-- Other names lose nothing. -/
theorem stripHeads_of_unprefixed {name : String} (h : ¬ heads.toList <+: name.toList) :
    stripHeads name = name := by
  rw [stripHeads, if_neg (fun starts => h (List.isPrefixOf_iff_prefix.1 starts))]

/-- One prefix is removed, if there is one. -/
theorem stripHeads_eq_iff {name short : String} :
    stripHeads name = short ↔
      name = heads ++ short ∨ ¬ heads.toList <+: name.toList ∧ name = short := by
  -- What is in front is taken away once, and only if it is there.
  by_cases starts : heads.toList <+: name.toList
  · obtain ⟨rest, split⟩ := starts
    obtain rfl : name = heads ++ String.ofList rest := by
      rw [← String.toList_inj, String.toList_append, String.toList_ofList, split]
    have prefixed : heads.toList <+: (heads ++ String.ofList rest).toList := ⟨rest, split⟩
    simp only [stripHeads_append, prefixed, not_true_eq_false, false_and, or_false]
    exact ⟨fun same => same ▸ rfl, fun same => by simpa using same⟩
  · rw [stripHeads_of_unprefixed starts]
    refine ⟨fun same => .inr ⟨starts, same⟩, ?_⟩
    rintro (rfl | ⟨-, same⟩)
    · refine absurd ?_ starts
      rw [String.toList_append]
      exact List.prefix_append _ _
    · exact same

/-- A text is accepted as a short name if it follows the grammar for the four characters of white
    space that are looked for, and as a full or short name if what is left of it without one
    `refs/heads/` in front does.  The grammar for all white space holds of just those accepted
    names in which there is no white space at all. -/
theorem short_names_grammar (name : String) :
    ((∃ branch, ofShort name = .ok branch) ↔ Grammatical (· ∈ lookedFor) name.toList) ∧
    (Grammatical (Text.isBlank · = true) name.toList ↔
      (∃ branch, ofShort name = .ok branch) ∧ ∀ c ∈ name.toList, Text.isBlank c = false) ∧
    ((∃ branch, ofName name = .ok branch) ↔ ∃ short : String,
      (name = heads ++ short ∨ ¬ heads.toList <+: name.toList ∧ name = short) ∧
      Grammatical (· ∈ lookedFor) short.toList) := by
  -- Each short name is checked by itself, so the same equivalence serves for all names.
  have short_iff (short : String) :
      (∃ branch, ofShort short = .ok branch) ↔ Grammatical (· ∈ lookedFor) short.toList :=
    exists_ofShort_iff.trans grammatical_iff.symm
  refine ⟨short_iff name, ?_, ?_⟩
  · rw [exists_ofShort_iff]
    exact grammatical_isBlank_iff
  · rw [ofName, short_iff]
    simp only [← stripHeads_eq_iff, exists_eq_left']

/-- A line tabulation is white space, and a name with one is accepted. -/
theorem tabulated_name_accepted :
    (∃ branch, ofShort "a\x0bb" = .ok branch) ∧
      ¬ Grammatical (Text.isBlank · = true) "a\x0bb".toList := by
  refine ⟨⟨⟨"a\x0bb", by decide⟩, rfl⟩, fun h => ?_⟩
  exact h.noBlank '\x0b' (by decide) (by decide)

end LargeFiles.Branch
