import LargeFiles.Http.Url
import LargeFiles.Proofs.Text.Percent
import Mathlib.Data.List.DropRight
import Mathlib.Data.List.Induction
import Mathlib.Data.List.Infix

/-!
# Paths

A path is found segment by segment: those that stand before a slash have been resolved when the
first segment after it is looked at, and a segment that stands for going up takes the last one away,
wherever it came from.

* `segments_append_slash`       a path is split at a slash;
* `sublist_of_mem_segments`     no segment has more to it than the text that it was split off;
* `plainDots_eq_self`           without escapes only dots are dots;
* `resolve_append`              segments are resolved one after another;
* `exists_foldl_enter`          what segments after others can make of them;
* `pathOf_append_slash`         what stands after a slash is resolved after what stands before it;
* `trimmed_pathOf`              but for slashes at its end, a path is what stands before its end.
-/

namespace LargeFiles.Http.Url

/-! ### Segments -/

theorem segments_ne_nil (text : List Char) : segments text ≠ [] := List.splitOn_ne_nil _ _

/-- A slash in front makes a new segment; any other character belongs to the first one. -/
theorem segments_cons (c : Char) (text : List Char) :
    segments (c :: text) = if isSlash c then [] :: segments text
      else (segments text).modifyHead (c :: ·) := by
  rw [segments, List.map_cons, List.splitOn_cons_eq_if_modifyHead]
  cases slash : isSlash c with
  | true => simp [segments]
  | false =>
    have other : c ≠ '/' := by
      rintro rfl
      exact absurd slash (by decide)
    simp [segments, other]

/-- A path is split at a slash. -/
theorem segments_append_slash (text rest : List Char) :
    segments (text ++ '/' :: rest) = segments text ++ segments rest := by
  rw [segments, List.map_append, List.map_cons]
  exact List.splitOn_append_cons_self _ _

/-- A text without slashes is one segment. -/
theorem segments_eq_singleton {text : List Char} (single : ∀ c ∈ text, isSlash c = false) :
    segments text = [text] := by
  induction text with
  | nil => rfl
  | cons c text ih =>
    rw [List.forall_mem_cons] at single
    rw [segments_cons, single.1, ih single.2]
    rfl

/-- What follows a text without slashes goes on with its last segment. -/
theorem exists_segments_append (text : List Char) :
    ∃ front last, ∀ more, (∀ c ∈ more, isSlash c = false) →
      segments (text ++ more) = front ++ [last ++ more] := by
  -- Induction on the text, since the segments are found from the front.
  induction text with
  | nil => exact ⟨[], [], fun more single => segments_eq_singleton single⟩
  | cons c text ih =>
    obtain ⟨front, last, split⟩ := ih
    cases slash : isSlash c with
    | true =>
      refine ⟨[] :: front, last, fun more single => ?_⟩
      rw [List.cons_append, segments_cons, slash, split more single]
      rfl
    | false =>
      -- A character that is no slash goes in front of the first segment, which may be the last one
      -- too.
      cases front with
      | nil =>
        refine ⟨[], c :: last, fun more single => ?_⟩
        rw [List.cons_append, segments_cons, slash, split more single]
        rfl
      | cons first front =>
        refine ⟨(c :: first) :: front, last, fun more single => ?_⟩
        rw [List.cons_append, segments_cons, slash, split more single]
        rfl

/-- A segment has nothing in it but what is in the text, without the slashes. -/
theorem sublist_of_mem_segments {text segment : List Char} (mem : segment ∈ segments text) :
    segment.Sublist (text.filter (!isSlash ·)) := by
  -- A slash belongs to no segment, and other characters only ever to the first.
  induction text generalizing segment with
  | nil =>
    obtain rfl : segment = [] := List.mem_singleton.1 mem
    exact List.nil_sublist _
  | cons c text ih =>
    rw [segments_cons] at mem
    split at mem
    · next slash =>
      rw [List.filter_cons_of_neg (by simp [slash])]
      rcases List.mem_cons.1 mem with rfl | mem
      · exact List.nil_sublist _
      · exact ih mem
    · next other =>
      rw [List.filter_cons_of_pos (by simp [other])]
      obtain ⟨first, others, split⟩ := List.exists_cons_of_ne_nil (segments_ne_nil text)
      rw [split, List.modifyHead_cons] at mem
      rw [split] at ih
      rcases List.mem_cons.1 mem with rfl | mem
      · exact (ih List.mem_cons_self).cons_cons c
      · exact (ih (List.mem_cons_of_mem _ mem)).cons c

/-! ### Dots -/

/-- A segment that stands for where it is or for going up. -/
def isDots (segment : List Char) : Bool := isSingleDot segment || isDoubleDot segment

/-- Without escapes only dots are dots. -/
theorem plainDots_eq_self {text : List Char}
    (none : ∀ front rest, text = front ++ rest → ¬ Text.Percent.Escapes rest) :
    plainDots text = text := by
  -- An encoded dot begins with an escape, of which there is none.
  have escape (last : Char) (digit : Text.Percent.isDigit last = true) (rest : List Char) :
      Text.Percent.Escapes ('%' :: '2' :: last :: rest) := .intro (by decide) digit rest
  fun_induction plainDots text with
  | case1 rest => exact absurd (escape 'e' (by decide) rest) (none [] _ rfl)
  | case2 rest => exact absurd (escape 'E' (by decide) rest) (none [] _ rfl)
  | case3 c rest _ _ ih =>
    rw [ih fun front rest' split => none (c :: front) rest' (by rw [split]; rfl)]
  | case4 => rfl

/-- No character is lost but those that spell a dot. -/
theorem mem_plainDots {text : List Char} {c : Char} (mem : c ∈ text) :
    c ∈ plainDots text ∨ c ∈ ['%', '2', 'e', 'E'] := by
  fun_induction plainDots text with
  | case1 rest ih =>
    simp only [List.mem_cons] at mem ih ⊢
    tauto
  | case2 rest ih =>
    simp only [List.mem_cons] at mem ih ⊢
    tauto
  | case3 d rest _ _ ih =>
    simp only [List.mem_cons] at mem ih ⊢
    tauto
  | case4 => cases mem

/-- Blanks are no slashes. -/
theorem isSlash_of_blank {blank : Char} (le : blank ≤ ' ') : isSlash blank = false := by
  rw [Bool.eq_false_iff]
  intro slash
  simp only [isSlash, Bool.or_eq_true, beq_iff_eq] at slash
  rcases slash with rfl | rfl <;> exact absurd le (by decide)

/-- A blank is no part of dots. -/
theorem isDots_of_blank {segment : List Char} {blank : Char} (le : blank ≤ ' ')
    (mem : blank ∈ segment) : isDots segment = false := by
  have other : ∀ c ∈ ['.', '%', '2', 'e', 'E'], ¬ c ≤ ' ' := by simp
  rw [Bool.eq_false_iff]
  intro dots
  -- A blank is part of no escape, so it is still there when the dots are decoded.
  rcases mem_plainDots mem with plain | sign
  · simp only [isDots, isSingleDot, isDoubleDot, Bool.or_eq_true, decide_eq_true_iff] at dots
    rcases dots with dots | dots <;> rw [dots] at plain <;>
      exact other blank (by simp_all) le
  · exact other blank (List.mem_cons_of_mem _ sign) le

/-! ### Written segments -/

/-- A segment that stands for itself, as it is written. -/
def written (segment : List Char) : String :=
  String.ofList (Text.Percent.encode isPathLiteral segment)

/-- The digits of an escape are kept in a path. -/
theorem isPathLiteral_of_isDigit {c : Char} (digit : Text.Percent.isDigit c = true) :
    isPathLiteral c = true := by
  have all : ∀ k : Fin 128, Text.Percent.isDigit (Char.ofNat k) = true →
      isPathLiteral (Char.ofNat k) = true := by decide +kernel
  have ascii := digit
  rw [Text.Percent.isDigit, Bool.and_eq_true, decide_eq_true_iff] at ascii
  have here := all ⟨c.toNat, ascii.1⟩
  rw [Char.ofNat_toNat] at here
  exact here digit

/-- A segment that is written in a path is read as before. -/
theorem read_written (segment : List Char) :
    Text.Percent.read (written segment).toList = Text.Percent.read segment := by
  rw [written, String.toList_ofList]
  exact Text.Percent.read_encode_of_keep (by decide) (fun _ => isPathLiteral_of_isDigit) segment

/-- A longer segment is written as a longer one. -/
theorem written_append_ne {segment more : List Char} (some : more ≠ []) :
    written (segment ++ more) ≠ written segment := by
  obtain ⟨c, more, rfl⟩ := List.exists_cons_of_ne_nil some
  intro same
  have texts := String.ofList_injective same
  rw [Text.Percent.encode, List.flatMap_append, ← Text.Percent.encode, ← Text.Percent.encode,
    List.append_right_eq_self] at texts
  -- The first of the further characters is written in some way, as itself or encoded.
  cases kept : isPathLiteral c with
  | true =>
    rw [Text.Percent.encode_cons_of_pos kept] at texts
    cases texts
  | false =>
    obtain ⟨rest, encoded⟩ := Text.Percent.exists_encoded c
    rw [Text.Percent.encode_cons_of_neg kept, encoded] at texts
    cases texts

/-! ### Resolving segments -/

/-- What a segment that does not end a path makes of those before it, which are in reverse. -/
def enter (done : List String) (segment : List Char) : List String :=
  if isDoubleDot segment then done.drop 1
  else if isSingleDot segment then done
  else written segment :: done

section

variable {segment : List Char} (done : List String)

/-- Where a segment is no dots, it is entered in writing. -/
theorem enter_of_plain (plain : isDots segment = false) :
    enter done segment = written segment :: done := by
  rw [isDots, Bool.or_eq_false_iff] at plain
  simp [enter, plain.1, plain.2]

/-- Dots never lead further down. -/
theorem length_enter_of_dots (dots : isDots segment = true) :
    (enter done segment).length ≤ done.length := by
  rw [enter]
  split
  · simp
  · next noDouble =>
    simp only [isDots, noDouble, Bool.or_false] at dots
    rw [if_pos dots]

/-- A segment that is followed by others is entered. -/
theorem resolve_cons (segment : List Char) {rest : List (List Char)} (more : rest ≠ []) :
    resolve done (segment :: rest) = resolve (enter done segment) rest := by
  rw [resolve, enter]
  cases isDoubleDot segment <;> cases isSingleDot segment <;> simp [more, written]

/-- A segment that stands for itself ends a path as it stands there. -/
theorem resolve_singleton (plain : isDots segment = false) :
    resolve done [segment] = (enter done segment).reverse := by
  rw [enter_of_plain done plain]
  rw [isDots, Bool.or_eq_false_iff] at plain
  simp [resolve, plain.1, plain.2, written]

/-- A path that ends in any other segment ends in a slash. -/
theorem resolve_singleton_of_dots (dots : isDots segment = true) :
    resolve done [segment] = (enter done segment).reverse ++ [""] := by
  rw [isDots, Bool.or_eq_true] at dots
  cases double : isDoubleDot segment with
  | true => simp [resolve, enter, double]
  | false =>
    rw [double] at dots
    simp [resolve, enter, double, dots.resolve_right Bool.false_ne_true]

end

/-- Segments are resolved after those that stand before them. -/
theorem resolve_append (done : List String) (front : List (List Char)) {rest : List (List Char)}
    (more : rest ≠ []) : resolve done (front ++ rest) = resolve (front.foldl enter done) rest := by
  induction front generalizing done with
  | nil => rfl
  | cons segment front ih =>
    rw [List.cons_append, resolve_cons done segment (by simp [more]), ih, List.foldl_cons]

/-- Segments that stand for themselves are put after the others. -/
theorem resolve_of_plain (done : List String) {segments : List (List Char)} (some : segments ≠ [])
    (plain : ∀ segment ∈ segments, isDots segment = false) :
    resolve done segments = done.reverse ++ segments.map written := by
  induction segments generalizing done with
  | nil => exact absurd rfl some
  | cons segment segments ih =>
    rw [List.forall_mem_cons] at plain
    -- The last segment is treated by itself, because dots at the end leave a slash.
    by_cases last : segments = []
    · rw [last, resolve_singleton done plain.1, enter_of_plain done plain.1]
      simp
    · rw [resolve_cons done segment last, enter_of_plain done plain.1, ih _ last plain.2]
      simp

/-- What segments after others make of them: some of the others are taken away, and some segments
    that stand for themselves are put in their place. -/
theorem exists_foldl_enter (done : List String) (segments : List (List Char)) :
    ∃ pushed n, segments.foldl enter done = pushed ++ done.drop n ∧
      ∀ name ∈ pushed, ∃ segment ∈ segments, isDots segment = false ∧ name = written segment := by
  induction segments using List.reverseRecOn with
  | nil => exact ⟨[], 0, rfl, by simp⟩
  | append_singleton front segment ih =>
    obtain ⟨pushed, n, eq, each⟩ := ih
    -- What was pushed before came from the front of the segments.
    have each : ∀ name ∈ pushed, ∃ other ∈ front ++ [segment],
        isDots other = false ∧ name = written other := by
      intro name mem
      obtain ⟨other, mem', plain⟩ := each name mem
      exact ⟨other, List.mem_append_left _ mem', plain⟩
    rw [List.foldl_append, List.foldl_cons, List.foldl_nil, eq, enter]
    split
    -- Going up takes away what was put last, or else one of the others.
    · cases pushed with
      | nil => exact ⟨[], n + 1, by simp [List.drop_drop], by simp⟩
      | cons name pushed => exact ⟨pushed, n, rfl, fun name mem => each name (by simp [mem])⟩
    · next noDouble =>
      split
      · exact ⟨pushed, n, rfl, each⟩
      · next noSingle =>
        refine ⟨written segment :: pushed, n, rfl, List.forall_mem_cons.2 ⟨?_, each⟩⟩
        exact ⟨segment, by simp, by simp [isDots, noSingle, noDouble], rfl⟩

/-- A name that was put after others is that of a segment. -/
theorem exists_of_foldl_enter_eq_cons {done : List String} {segments : List (List Char)}
    {name : String} (eq : segments.foldl enter done = name :: done) :
    ∃ segment ∈ segments, isDots segment = false ∧ name = written segment := by
  obtain ⟨pushed, n, whole, each⟩ := exists_foldl_enter done segments
  rw [eq] at whole
  cases pushed with
  | nil =>
    -- The list would be longer than what it is part of.
    have length := congrArg List.length whole
    simp at length
    omega
  | cons first pushed =>
    rw [List.cons_append, List.cons.injEq] at whole
    exact each name (by simp [whole.1])

/-- If segments put two names after others, the first name is that of a segment before the last. -/
theorem exists_of_resolve_eq {done : List String} {front : List (List Char)} {last : List Char}
    {name ending : String} (some : ending ≠ "")
    (eq : resolve done (front ++ [last]) = done.reverse ++ [name, ending]) :
    ∃ segment ∈ front, isDots segment = false ∧ name = written segment := by
  rw [resolve_append _ _ (by simp)] at eq
  cases dots : isDots last with
  | true =>
    -- The path would end in a slash.
    rw [resolve_singleton_of_dots _ dots] at eq
    have ends := congrArg List.getLast? eq
    simp [eq_comm, some] at ends
  | false =>
    rw [resolve_singleton _ dots, enter_of_plain _ dots] at eq
    have heads := congrArg (fun names => names.dropLast.reverse) eq
    apply exists_of_foldl_enter_eq_cons
    simpa using heads

/-! ### Texts with a slash at their start -/

/-- What stands before a path, in reverse, if it is put after a text and a slash. -/
def folder : List Char → List String
  | [] => []
  | _ :: text => (segments text).foldl enter []

/-- A text after a slash is resolved after what stands before the slash. -/
theorem pathOf_append_slash (tail text : List Char) :
    pathOf (tail ++ '/' :: text) = resolve (folder tail) (segments text) := by
  cases tail with
  | nil => rfl
  | cons c tail =>
    rw [List.cons_append, pathOf, List.drop_succ_cons, List.drop_zero, segments_append_slash,
      resolve_append _ _ (segments_ne_nil _), folder]

/-- A path that ends in a slash ends in an empty segment. -/
theorem pathOf_append_slash_nil (tail : List Char) :
    pathOf (tail ++ ['/']) = (folder tail).reverse ++ [""] := by
  have empty : isDots [] = false := by decide
  have written_nil : written [] = "" := by decide
  rw [pathOf_append_slash, segments_eq_singleton (by simp), resolve_singleton _ empty,
    enter_of_plain _ empty, written_nil, List.reverse_cons]

/-- A path without the slashes at its end. -/
def trimmed (path : List String) : List String := path.rdropWhile (·.isEmpty)

theorem trimmed_concat_empty (path : List String) : trimmed (path ++ [""]) = trimmed path :=
  List.rdropWhile_concat_pos _ _ _ (by decide)

/-- Nothing is trimmed exactly if the last segment is not empty. -/
theorem trimmed_eq_self_iff (path : List String) :
    trimmed path = path ↔ path.getLast? ≠ some "" := by
  induction path using List.reverseRecOn with
  | nil => simp [trimmed]
  | append_singleton front last =>
    rw [List.getLast?_concat]
    by_cases empty : last = ""
    · subst empty
      rw [trimmed_concat_empty]
      simp only [ne_eq, not_true_eq_false, iff_false]
      intro same
      -- Trimming an empty segment makes the path shorter.
      have length := (List.rdropWhile_prefix (·.isEmpty) front).length_le
      have whole := congrArg List.length same
      rw [trimmed, List.length_append, List.length_singleton] at whole
      omega
    · rw [trimmed, List.rdropWhile_concat_neg _ _ _ (by simpa using empty)]
      simpa using empty

/-- But for slashes at its end, a path is what stands before its end. -/
theorem trimmed_resolve_singleton (done : List String) (last : List Char) :
    trimmed (resolve done [last]) = trimmed (enter done last).reverse := by
  cases dots : isDots last with
  | true => rw [resolve_singleton_of_dots done dots, trimmed_concat_empty]
  | false => rw [resolve_singleton done dots]

/-- A trimmed path is the folder that the path names, trimmed. -/
theorem trimmed_pathOf (tail : List Char) :
    trimmed (pathOf tail) = trimmed (folder tail).reverse := by
  cases tail with
  | nil => decide
  | cons c text =>
    obtain ⟨front, last, split⟩ := (List.eq_nil_or_concat' _).resolve_left (segments_ne_nil text)
    rw [pathOf, List.drop_succ_cons, List.drop_zero, folder, split, resolve_append _ _ (by simp),
      trimmed_resolve_singleton, List.foldl_append]
    rfl

/-- Slashes at the end of a text are slashes at the end of the path. -/
theorem trimmed_pathOf_append (tail : List Char) {slashes : List Char}
    (all : ∀ c ∈ slashes, c = '/') :
    trimmed (pathOf (tail ++ slashes)) = trimmed (pathOf tail) := by
  induction slashes using List.reverseRecOn with
  | nil => rw [List.append_nil]
  | append_singleton slashes slash ih =>
    obtain rfl := all slash (by simp)
    rw [← List.append_assoc, pathOf_append_slash_nil, trimmed_concat_empty, ← trimmed_pathOf,
      ih fun c mem => all c (by simp [mem])]

/-- With more to it, and nothing that is dots, a segment makes a longer path of those before it, or
    ends it in another way. -/
theorem trimmed_enter_ne (done : List String) {last more : List Char} (some : more ≠ [])
    (plain : isDots (last ++ more) = false) :
    trimmed (enter done last).reverse ≠ (enter done (last ++ more)).reverse := by
  rw [enter_of_plain _ plain]
  intro same
  have short := List.rdropWhile_prefix (·.isEmpty) (enter done last).reverse
  rw [← trimmed, same] at short
  -- Trimming makes no path longer, so the right side would have to be as short.
  have length := short.length_le
  rw [List.length_reverse, List.length_reverse, List.length_cons] at length
  cases dots : isDots last with
  | true =>
    have few := length_enter_of_dots done dots
    omega
  | false =>
    -- Both paths have as many segments, of which the last ones are different.
    rw [enter_of_plain done dots] at short
    have whole := short.eq_of_length (by simp)
    rw [List.reverse_inj, List.cons.injEq] at whole
    exact written_append_ne some whole.1

/-- Blanks at the end of a text are put into the path if a slash follows them. -/
theorem trimmed_pathOf_ne {tail blanks : List Char} (some : tail ≠ []) (more : blanks ≠ [])
    (blank : ∀ c ∈ blanks, c ≤ ' ') :
    trimmed (pathOf tail) ≠ (folder (tail ++ blanks)).reverse := by
  obtain ⟨c, text, rfl⟩ := List.exists_cons_of_ne_nil some
  obtain ⟨front, last, split⟩ := exists_segments_append text
  -- The blanks go into the last segment, since there is no slash among them.
  have before (added : List Char) (noSlash : ∀ c ∈ added, isSlash c = false) :
      folder (c :: text ++ added) = enter (front.foldl enter []) (last ++ added) := by
    rw [List.cons_append, folder, split added noSlash, List.foldl_append, List.foldl_cons,
      List.foldl_nil]
  have alone := before [] (by simp)
  rw [List.append_nil, List.append_nil] at alone
  obtain ⟨d, mem⟩ := List.exists_mem_of_ne_nil blanks more
  have plain : isDots (last ++ blanks) = false :=
    isDots_of_blank (blank d mem) (List.mem_append_right _ mem)
  rw [trimmed_pathOf, alone, before blanks fun c mem => isSlash_of_blank (blank c mem)]
  exact trimmed_enter_ne _ more plain

end LargeFiles.Http.Url
