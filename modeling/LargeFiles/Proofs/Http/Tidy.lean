import LargeFiles.Proofs.Http.Join

/-!
# Tidy bases

A base is tidy if every path that is put below it goes to where the base says: to the path of the
base, without the slashes at its end, and on from there.  Three things can be in the way.  A query
or a fragment of the base takes what follows; blanks at the end of the base are dropped when the
base is read, but not when a path follows them; and where the path of the base ends in a slash that
was written in another way, the path that follows stands after two.

* `clean_cases`            what is dropped at the end of a base, and what of it stays before a path;
* `exists_cut_front`       how an address and its base are cut;
* `eq_of_parse?_join`      they name the same host;
* `parse?_join_of_tidy`    a path below a tidy base goes where it should;
* `tidy_of_path`           and below no other base does.
-/

namespace LargeFiles.Http.Url

open Remote.Endpoint (join)

/-- Where something below an address is: it follows the path without the slashes at its end. -/
def below (url : Url) (names : List String) : Url :=
  { url with path := trimmed url.path ++ names, query := none }

/-- Whether blanks at the end of a base stay there if a path follows. -/
def endsInBlank (base : String) : Bool :=
  ((base.toList.dropWhile (· ≤ ' ')).rtakeWhile (· ≤ ' ')).any isKept

/-- A base below which every path goes where it should. -/
structure Tidy (base : String) : Prop where
  /-- It names a host. -/
  read : (parse? base).isSome = true
  noQuery : '?' ∉ base.toList
  noFragment : '#' ∉ base.toList
  noBlank : endsInBlank base = false
  /-- With one slash at its end, its path does not end in two. -/
  single : ∀ root, parse? (join base "") = some root → root.path.dropLast.getLast? ≠ some ""

instance (base : String) : Decidable (Tidy base) :=
  decidable_of_iff ((parse? base).isSome = true ∧ '?' ∉ base.toList ∧ '#' ∉ base.toList ∧
      endsInBlank base = false ∧
      ∀ root ∈ parse? (join base ""), root.path.dropLast.getLast? ≠ some "")
    ⟨fun ⟨read, noQuery, noFragment, noBlank, single⟩ =>
        ⟨read, noQuery, noFragment, noBlank, single⟩,
      fun h => ⟨h.read, h.noQuery, h.noFragment, h.noBlank, h.single⟩⟩

/-! ### The end of a base -/

/-- Slashes at the end of a text are kept, and no blank stands after them. -/
theorem clean_append_slashes (text : List Char) {slashes : List Char}
    (all : ∀ c ∈ '/' :: slashes, c = '/') :
    ((text ++ '/' :: slashes).dropWhile (· ≤ ' ')).rtakeWhile (· ≤ ' ') = [] ∧
      clean (text ++ '/' :: slashes) =
        (text.dropWhile (· ≤ ' ')).filter isKept ++ '/' :: slashes := by
  constructor
  -- The last character is a slash, so there is no blank to trim.
  · rw [dropWhile_append_cons_of_neg (by decide), List.rtakeWhile_eq_nil_iff]
    intro some
    rw [List.getLast_append_of_ne_nil _ (by simp), all _ (List.getLast_mem _)]
    decide
  · have kept : slashes.filter isKept = slashes := List.filter_eq_self.2 fun c mem => by
      rw [all c (List.mem_cons_of_mem _ mem)]
      decide
    rw [clean_append_slash, List.rdropWhile_eq_self_iff.2, kept]
    intro some
    rw [all _ (List.mem_cons_of_mem _ (List.getLast_mem some))]
    decide

/-- Read alone, a base keeps the slashes at its end; below it, the blanks stay. -/
theorem clean_cases (base : String) :
    (endsInBlank base = false ∧ ∃ slashes, (∀ c ∈ slashes, c = '/') ∧
      clean base.toList = front base ++ slashes) ∨
    (endsInBlank base = true ∧ ∃ blanks, blanks ≠ [] ∧ (∀ c ∈ blanks, c ≤ ' ') ∧
      front base = clean base.toList ++ blanks) := by
  obtain ⟨slashes, all, parts⟩ := exists_slashes base
  rw [front, endsInBlank]
  generalize base.toList.rdropWhile (· == '/') = trim at parts
  rw [parts]
  cases slashes with
  | nil =>
    rw [List.append_nil]
    -- Only the blanks at its end can be missing where the base is read alone.
    have whole := clean_append_blanks trim
    cases ends : ((trim.dropWhile (· ≤ ' ')).rtakeWhile (· ≤ ' ')).any isKept with
    | false =>
      rw [List.any_eq_false] at ends
      rw [List.filter_eq_nil_iff.2 ends, List.append_nil] at whole
      exact .inl ⟨rfl, [], by simp, by rw [whole, List.append_nil]⟩
    | true =>
      obtain ⟨c, mem, kept⟩ := List.any_eq_true.1 ends
      refine .inr ⟨rfl, _, ?_, fun c mem => ?_, whole.symm⟩
      · exact List.ne_nil_of_mem (List.mem_filter.2 ⟨mem, kept⟩)
      · have blank := List.mem_rtakeWhile_imp (List.mem_filter.1 mem).1
        exact of_decide_eq_true blank
  | cons slash slashes =>
    obtain rfl := all slash List.mem_cons_self
    obtain ⟨none, kept⟩ := clean_append_slashes trim all
    exact .inl ⟨by rw [none]; rfl, '/' :: slashes, all, kept⟩

/-- Without blanks at its end, a base is cut as the addresses below it are. -/
theorem exists_cut_of_noBlank {base : String} {url : Url} (read : parse? base = some url)
    (noBlank : endsInBlank base = false) :
    ∃ cut server slashes, cut? (front base) = some cut ∧ cut.authority ≠ [] ∧
      cut.server? = some server ∧ (∀ c ∈ slashes, c = '/') ∧
      url = (cut.append slashes).url server := by
  obtain ⟨whole, server, cut_eq, host, served, rfl⟩ := exists_cut_of_parse? read
  rcases clean_cases base with ⟨-, slashes, all, clean_eq⟩ | ⟨blank, -⟩
  · rw [clean_eq] at cut_eq
    obtain ⟨cut, before, host, rfl⟩ := exists_cut_of_append cut_eq host all
    exact ⟨cut, server, slashes, before, host, served, all, rfl⟩
  · cases noBlank.symm.trans blank

/-- Blanks go on with a host that nothing follows, and make it one that cannot be read. -/
theorem exists_cut_append_blanks {text blanks : List Char} {cut : Cut} (h : cut? text = some cut)
    (host : cut.authority ≠ []) (alone : cut.tail = []) (more : blanks ≠ [])
    (blank : ∀ c ∈ blanks, c ≤ ' ') :
    ∃ longer, cut? (text ++ blanks) = some longer ∧ longer.authority ≠ [] ∧
      longer.server? = none := by
  obtain ⟨parts, scheme, rfl⟩ := Option.map_eq_some_iff.1 h
  -- With nothing after the authority the blanks become a part of it.
  have stays : ∀ c ∈ parts.2.dropWhile isSlash ++ blanks, (!endsAuthority c) = true := by
    intro c mem
    rcases List.mem_append.1 mem with mem | mem
    · exact List.dropWhile_eq_nil_iff.1 alone c mem
    · rw [endsAuthority_of_blank (blank c mem)]
      rfl
  have some : parts.2.dropWhile isSlash ≠ [] := by
    intro none
    rw [none] at host
    exact host rfl
  have whole : (Cut.ofText parts.1 (parts.2.dropWhile isSlash ++ blanks)).authority =
      parts.2.dropWhile isSlash ++ blanks := List.takeWhile_eq_self_iff.2 stays
  refine ⟨.ofText parts.1 (parts.2.dropWhile isSlash ++ blanks), ?_, ?_, ?_⟩
  · rw [cut?, scheme?_append (colon_of_scheme? scheme), scheme, Option.map_some, Option.map_some,
      List.dropWhile_append, if_neg (by simpa using some)]
  · rw [whole]
    exact List.append_ne_nil_of_right_ne_nil _ more
  · rw [Cut.server?, whole]
    -- No server has a blank at the end of its name or of its port.
    apply server?_of_blank (blank _ (List.getLast_mem more))
    rw [List.getLast?_append, List.getLast?_eq_getLast_of_ne_nil more]
    rfl

/-- How an address below a base and the base are cut. -/
theorem exists_cut_front {base path : String} {url found : Url} (read : parse? base = some url)
    (joined : parse? (join base path) = some found) :
    ∃ cut server, cut? (front base) = some cut ∧
      found = (cut.below (shown path)).url server ∧
      ((endsInBlank base = false ∧ ∃ slashes, (∀ c ∈ slashes, c = '/') ∧
          url = (cut.append slashes).url server) ∨
        ∃ (before : Cut) (blanks : List Char), before.tail ≠ [] ∧ blanks ≠ [] ∧
          (∀ c ∈ blanks, c ≤ ' ') ∧ cut = before.append blanks ∧ url = before.url server) := by
  rcases clean_cases base with ⟨noBlank, -⟩ | ⟨blank, blanks, more, le, front_eq⟩
  · obtain ⟨cut, server, slashes, before, host, served, all, rfl⟩ :=
      exists_cut_of_noBlank read noBlank
    rw [parse?_join_of_cut before host, served, Option.map_some, Option.some.injEq] at joined
    exact ⟨cut, server, before, joined.symm, .inl ⟨noBlank, slashes, all, rfl⟩⟩
  · obtain ⟨cut, server, cut_eq, host, served, rfl⟩ := exists_cut_of_parse? read
    by_cases alone : cut.tail = []
    -- The blanks would stand in the host, so nothing below the base could be read.
    · obtain ⟨longer, longer_eq, host', unserved⟩ :=
        exists_cut_append_blanks cut_eq host alone more le
      rw [← front_eq] at longer_eq
      rw [parse?_join_of_cut longer_eq host', unserved] at joined
      cases joined
    -- They stand at the end of the path, before the slash.
    · have longer : cut? (clean base.toList ++ blanks) = some (cut.append blanks) :=
        cut?_append cut_eq host (.inl alone)
      rw [← front_eq] at longer
      rw [parse?_join_of_cut longer host, Cut.server?_append, served, Option.map_some,
        Option.some.injEq] at joined
      exact ⟨_, server, longer, joined.symm, .inr ⟨cut, blanks, alone, more, le, rfl, rfl⟩⟩

/-- An address below a base names the same host as the base, and the same user. -/
theorem eq_of_parse?_join {base path : String} {url found : Url} (read : parse? base = some url)
    (joined : parse? (join base path) = some found) :
    found = { url with path := found.path, query := found.query } := by
  obtain ⟨cut, server, -, rfl, ⟨-, slashes, -, rfl⟩ | ⟨before, blanks, -, -, -, rfl, rfl⟩⟩ :=
    exists_cut_front read joined <;> rfl

/-! ### Marks in a base -/

theorem isPathChar_eq_false_iff {c : Char} : isPathChar c = false ↔ c = '?' ∨ c = '#' := by
  rw [isPathChar, Bool.and_eq_false_iff, bne_eq_false_iff_eq, bne_eq_false_iff_eq]

/-- What starts a query or a fragment of a base does so below it. -/
theorem mem_front {base : String} {c : Char} (mem : c ∈ base.toList)
    (mark : isPathChar c = false) : c ∈ front base := by
  have other : c ≠ '/' ∧ decide (c ≤ ' ') = false ∧ isKept c = true := by
    rcases isPathChar_eq_false_iff.1 mark with rfl | rfl <;> decide
  obtain ⟨slashes, all, parts⟩ := exists_slashes base
  rw [parts] at mem
  have trimmed := (List.mem_append.1 mem).resolve_right fun mem => other.1 (all c mem)
  exact List.mem_filter.2 ⟨mem_dropWhile_of_neg trimmed other.2.1, other.2.2⟩

/-- No scheme has it in its name. -/
theorem mem_of_scheme? {text rest : List Char} {secure : Bool}
    (scheme : scheme? text = some (secure, rest)) {c : Char} (mem : c ∈ text)
    (mark : isPathChar c = false) : c ∈ rest := by
  obtain ⟨name, after, rfl, noColon⟩ := List.eq_append_cons_of_mem (colon_of_scheme? scheme)
  rw [scheme?_colon noColon] at scheme
  -- A scheme has neither of the marks that end a path.
  have plain : c.toLower ∉ "http".toList ∧ c.toLower ∉ "https".toList ∧ c ≠ ':' := by
    rcases isPathChar_eq_false_iff.1 mark with rfl | rfl <;> decide
  -- The rest is what stands after the colon, and the mark is not before it.
  have named : rest = after ∧ c ∉ name := by
    split at scheme
    · next http =>
      cases scheme
      exact ⟨rfl, fun mem => plain.1 (http ▸ List.mem_map_of_mem mem)⟩
    · split at scheme
      · next https =>
        cases scheme
        exact ⟨rfl, fun mem => plain.2.1 (https ▸ List.mem_map_of_mem mem)⟩
      · cases scheme
  rw [named.1]
  simpa [named.2, plain.2.2] using mem

/-- It stands after the host. -/
theorem mem_tail_of_cut? {text : List Char} {cut : Cut} (h : cut? text = some cut) {c : Char}
    (mem : c ∈ text) (mark : isPathChar c = false) : c ∈ cut.tail := by
  obtain ⟨parts, scheme, rfl⟩ := Option.map_eq_some_iff.1 h
  have other : isSlash c = false ∧ (!endsAuthority c) = false := by
    rcases isPathChar_eq_false_iff.1 mark with rfl | rfl <;> decide
  have text := mem_dropWhile_of_neg (mem_of_scheme? scheme mem mark) other.1
  exact mem_dropWhile_of_neg text other.2

/-- Without query and fragment, nothing but a path stands after the host of a base. -/
theorem isPlain_iff {base : String} {cut : Cut} (h : cut? (front base) = some cut) :
    cut.IsPlain ↔ '?' ∉ base.toList ∧ '#' ∉ base.toList := by
  constructor
  · intro plain
    have noMark : ∀ c ∈ base.toList, isPathChar c = false → False := fun c mem mark => by
      cases mark.symm.trans (plain c (mem_tail_of_cut? h (mem_front mem mark) mark))
    exact ⟨fun mem => noMark _ mem (by decide), fun mem => noMark _ mem (by decide)⟩
  · rintro ⟨noQuery, noFragment⟩
    exact isPlain_of_notMem h noQuery noFragment

/-! ### Paths below a base -/

/-- A path with some names for its segments, and nothing in it that is resolved or ends it. -/
structure IsPart (path : String) (names : List String) : Prop where
  plain : ∀ c ∈ shown path, isPathChar c = true
  dots : ∀ segment ∈ segments (shown path), isDots segment = false
  written_eq : (segments (shown path)).map written = names
  last : names.getLast? ≠ some ""

namespace IsPart

variable {path : String} {names : List String}

/-- Below a path, its names follow. -/
theorem url_below (part : IsPart path names) {cut : Cut} (plain : cut.IsPlain)
    (server : String × Option Nat) :
    (cut.below (shown path)).url server = { cut.url server with
      path := (folder cut.tail).reverse ++ names
      query := none } := by
  rw [Cut.url_below server plain, List.takeWhile_eq_self_iff.2 part.plain,
    List.dropWhile_eq_nil_iff.2 part.plain,
    resolve_of_plain _ (segments_ne_nil _) part.dots, part.written_eq]
  rfl

/-- Names that follow a path make another one of it. -/
theorem ne_trimmed_append (part : IsPart path names) (other : List String) :
    other ≠ trimmed other ++ names := by
  intro same
  have some : names ≠ [] := by
    rw [← part.written_eq]
    simpa using segments_ne_nil (shown path)
  -- A trimmed path does not end in an empty segment.
  have last : other.getLast? ≠ .some "" := by
    rw [same, List.getLast?_append_of_ne_nil _ some]
    exact part.last
  rw [(trimmed_eq_self_iff other).2 last] at same
  exact some (List.append_right_eq_self.1 same.symm)

end IsPart

/-- A path below a tidy base goes where it should. -/
theorem parse?_join_of_tidy {base path : String} {names : List String} {url : Url}
    (tidy : Tidy base) (read : parse? base = some url) (part : IsPart path names) :
    parse? (join base path) = some (url.below names) := by
  obtain ⟨cut, server, slashes, before, host, served, all, rfl⟩ :=
    exists_cut_of_noBlank read tidy.noBlank
  have plain := (isPlain_iff before).2 ⟨tidy.noQuery, tidy.noFragment⟩
  have chars : ∀ c ∈ slashes, isPathChar c = true := fun c mem => by
    rw [all c mem]
    decide
  have root : parse? (join base "") = some ((cut.below []).url server) := by
    rw [parse?_join_of_cut before host, served]
    rfl
  -- The base has no empty segment at the end, once the slashes are trimmed.
  have single := tidy.single _ root
  rw [Cut.url_below_nil server plain, List.dropLast_concat] at single
  rw [parse?_join_of_cut before host, served, Option.map_some, part.url_below plain, below,
    Cut.url_append server plain, List.takeWhile_eq_self_iff.2 chars, trimmed_pathOf_append _ all,
    trimmed_pathOf, (trimmed_eq_self_iff _).2 single]

/-- Only below a tidy base a path goes where it should. -/
theorem tidy_of_path {base path : String} {names : List String} {url found : Url}
    (read : parse? base = some url) (part : IsPart path names)
    (joined : parse? (join base path) = some found)
    (same : found.path = trimmed url.path ++ names) : Tidy base := by
  obtain ⟨cut, server, before, rfl, ends⟩ := exists_cut_front read joined
  rcases ends with ⟨noBlank, slashes, all, rfl⟩ | ⟨shorter, blanks, some, more, le, rfl, rfl⟩
  · by_cases plain : cut.IsPlain
    -- The path of the base is what stands before the last slash, so it does not end in one.
    · obtain ⟨noQuery, noFragment⟩ := (isPlain_iff before).1 plain
      refine ⟨by rw [read]; rfl, noQuery, noFragment, noBlank, fun root root_eq => ?_⟩
      have chars : ∀ c ∈ slashes, isPathChar c = true := fun c mem => by
        rw [all c mem]
        decide
      rw [part.url_below plain, Cut.url_append server plain, List.takeWhile_eq_self_iff.2 chars,
        trimmed_pathOf_append _ all, trimmed_pathOf, List.append_cancel_right_eq] at same
      obtain ⟨other, server', before', host, served, rfl⟩ := exists_cut_join root_eq
      obtain rfl : cut = other := Option.some.inj (before.symm.trans before')
      rw [Cut.url_below_nil server' plain, List.dropLast_concat]
      exact (trimmed_eq_self_iff _).1 same.symm
    -- A query or a fragment of the base takes the path, and that of the base is found alone.
    · rw [Cut.below, Cut.path_url_append server plain, Cut.path_url_append server plain] at same
      exact absurd same (part.ne_trimmed_append _)
  -- Blanks that stay before a slash change the path of the base.
  · exfalso
    have chars : ∀ c ∈ blanks, isPathChar c = true := fun c mem => by
      rw [← Bool.not_eq_false, isPathChar_eq_false_iff]
      rintro (rfl | rfl) <;> exact absurd (le _ mem) (by decide)
    by_cases plain : shorter.IsPlain
    · have longer : (shorter.append blanks).IsPlain := List.forall_mem_append.2 ⟨plain, chars⟩
      have whole : (shorter.url server).path = pathOf shorter.tail := by
        rw [Cut.url, List.takeWhile_eq_self_iff.2 plain]
      rw [part.url_below longer, whole, List.append_cancel_right_eq] at same
      exact trimmed_pathOf_ne some more le same.symm
    · have longer : (shorter.append blanks).below (shown path) =
          shorter.append (blanks ++ '/' :: shown path) := by
        rw [Cut.below, Cut.append, Cut.append, Cut.append, List.append_assoc]
      rw [longer, Cut.path_url_append server plain] at same
      exact part.ne_trimmed_append _ same

end LargeFiles.Http.Url
