import LargeFiles.Proofs.Http.Path
import LargeFiles.Proofs.Http.Url

/-!
# Addresses below a base

An address is read by cutting it after its host.  An address below a base is cut as the base is, if
the base names a host, and what stands after the slash that was put between them is read as the end
of a path, unless a query or a fragment starts before it.

* `parse?_eq`              an address is cut, and its parts are read;
* `cut?_append`            what follows an address is put after its host;
* `parse?_join_of_cut`     an address below a base is cut as the base is;
* `Cut.url_below`          where an address below a path leads to;
* `parse?_join`            the same, told by where an address with nothing below the base leads to.
-/

namespace LargeFiles.Http.Url

open Remote.Endpoint (join)

/-! ### Cutting addresses -/

/-- A character of a path: neither a query nor a fragment starts with it. -/
def isPathChar (c : Char) : Bool := c != '?' && c != '#'

/-- An address without its scheme, cut after its host. -/
structure Cut where
  secure : Bool
  /-- The part with user and host. -/
  authority : List Char
  /-- What stands after it. -/
  tail : List Char

namespace Cut

/-- Cuts what stands after the slashes. -/
def ofText (secure : Bool) (text : List Char) : Cut :=
  ⟨secure, text.takeWhile (!endsAuthority ·), text.dropWhile (!endsAuthority ·)⟩

/-- The URL with the given host and port. -/
def url (cut : Cut) (server : String × Option Nat) : Url where
  secure := cut.secure
  user := (userOf cut.authority).1
  password := (userOf cut.authority).2
  host := server.1
  port := server.2
  path := pathOf (cut.tail.takeWhile isPathChar)
  query := queryOf (cut.tail.dropWhile isPathChar)

/-- The address with more text. -/
def append (cut : Cut) (text : List Char) : Cut := { cut with tail := cut.tail ++ text }

/-- The address with more text after a slash. -/
def below (cut : Cut) (text : List Char) : Cut := cut.append ('/' :: text)

/-- The host and the port, if they can be read. -/
def server? (cut : Cut) : Option (String × Option Nat) := Url.server? cut.secure cut.authority

@[simp] theorem server?_append (cut : Cut) (text : List Char) :
    (cut.append text).server? = cut.server? := rfl

/-- Text that does not go on with the host is put after it. -/
theorem ofText_append (secure : Bool) (text : List Char) {rest : List Char}
    (ends : ∀ c ∈ rest.head?, endsAuthority c = true) :
    ofText secure (text ++ rest) = (ofText secure text).append rest := by
  have stop : ∀ c ∈ rest.head?, (!endsAuthority c) = false := by simpa using ends
  rw [ofText, takeWhile_append_of_head? text stop, dropWhile_append_of_head? text stop, append,
    ofText]

/-- So is any text, if something stands there already. -/
theorem ofText_append_of_ne_nil {secure : Bool} {text : List Char}
    (more : (ofText secure text).tail ≠ []) (rest : List Char) :
    ofText secure (text ++ rest) = (ofText secure text).append rest := by
  rw [ofText, takeWhile_append_of_dropWhile_ne_nil more, List.dropWhile_append,
    if_neg (by simpa [ofText] using more), append, ofText]

end Cut

/-- Cuts an address after its host. -/
def cut? (text : List Char) : Option Cut :=
  (scheme? text).map fun parts => .ofText parts.1 (parts.2.dropWhile isSlash)

/-- An address is read by cutting it and reading its parts. -/
theorem parse?_eq (text : String) :
    parse? text = (cut? (clean text.toList)).bind fun cut => cut.server?.map cut.url := by
  rw [parse?, cut?]
  cases scheme? (clean text.toList) with
  | none => rfl
  | some parts =>
    simp only [Option.bind_eq_bind, Option.bind_some, Option.map_some, Cut.ofText, Cut.server?,
      Url.server?]
    -- Both read the host and the port from the authority, and the rest from what follows it.
    cases Host.ofText? _ with
    | none => rfl
    | some host =>
      simp only [Option.bind_some]
      cases port? _ _ <;> rfl

theorem server?_nil (secure : Bool) : server? secure [] = none := by
  cases secure <;> decide

/-- A text with a scheme has a colon. -/
theorem colon_of_scheme? {text : List Char} {parts : Bool × List Char}
    (h : scheme? text = some parts) : ':' ∈ text := by
  by_contra none
  have left : text.dropWhile (· != ':') = [] := by
    rw [List.dropWhile_eq_nil_iff]
    exact fun c mem => bne_iff_ne.2 (ne_of_mem_of_not_mem mem none)
  simp [scheme?, left] at h

/-- What comes after the scheme is part of the text. -/
theorem scheme?_subset {text rest : List Char} {secure : Bool}
    (h : scheme? text = some (secure, rest)) : rest ⊆ text := by
  have sub : text.dropWhile (· != ':') ⊆ text := (List.dropWhile_sublist _).subset
  rw [scheme?] at h
  cases left : text.dropWhile (· != ':') with
  | nil => simp [left] at h
  | cons colon after =>
    -- The rest is what follows the colon, whichever of the two schemes there is.
    have whole : rest = after := by
      simp only [left] at h
      split at h
      · cases h
        rfl
      · split at h <;> cases h
        rfl
    rw [left] at sub
    exact whole ▸ List.Subset.trans (List.subset_cons_self _ _) sub

/-- What comes after the authority is part of the text. -/
theorem tail_subset_of_cut? {text : List Char} {cut : Cut} (h : cut? text = some cut) :
    cut.tail ⊆ text := by
  obtain ⟨parts, scheme, rfl⟩ := Option.map_eq_some_iff.1 h
  exact List.Subset.trans
    ((List.dropWhile_sublist _).trans (List.dropWhile_sublist _)).subset (scheme?_subset scheme)

/-- What follows an address with a host is put after the host, unless it goes on with the host. -/
theorem cut?_append {text : List Char} {cut : Cut} (h : cut? text = some cut)
    (host : cut.authority ≠ []) {rest : List Char}
    (after : cut.tail ≠ [] ∨ ∀ c ∈ rest.head?, endsAuthority c = true) :
    cut? (text ++ rest) = some (cut.append rest) := by
  obtain ⟨parts, scheme, rfl⟩ := Option.map_eq_some_iff.1 h
  -- Something stands after the slashes, so they are not skipped further.
  have some : parts.2.dropWhile isSlash ≠ [] := by
    intro none
    rw [none] at host
    exact host rfl
  rw [cut?, scheme?_append (colon_of_scheme? scheme), scheme, Option.map_some, Option.map_some,
    List.dropWhile_append, if_neg (by simpa using some), Option.some.injEq]
  rcases after with more | ends
  · exact Cut.ofText_append_of_ne_nil more rest
  · exact Cut.ofText_append parts.1 _ ends

/-- Slashes at the end of an address stand after its host. -/
theorem exists_cut_of_append {front slashes : List Char} {whole : Cut}
    (h : cut? (front ++ slashes) = some whole) (host : whole.authority ≠ [])
    (all : ∀ c ∈ slashes, c = '/') :
    ∃ cut, cut? front = some cut ∧ cut.authority ≠ [] ∧ whole = cut.append slashes := by
  by_cases colon : ':' ∈ front
  · rw [cut?, scheme?_append colon] at h
    cases scheme : scheme? front with
    | none =>
      rw [scheme] at h
      cases h
    | some parts =>
      -- Slashes end the authority, if there is one before them.
      have skipped : slashes.dropWhile isSlash = [] :=
        List.dropWhile_eq_nil_iff.2 fun c mem => by rw [all c mem]; decide
      have ends : ∀ c ∈ slashes.head?, endsAuthority c = true := fun c mem => by
        rw [all c (List.mem_of_mem_head? mem)]
        decide
      rw [scheme, Option.map_some, Option.map_some, Option.some.injEq, List.dropWhile_append,
        skipped] at h
      split at h
      -- Nothing but slashes would stand after the scheme.
      · exact absurd (by rw [← h]; rfl) host
      · rw [Cut.ofText_append parts.1 _ ends] at h
        refine ⟨_, by rw [cut?, scheme]; rfl, ?_, h.symm⟩
        rw [← h] at host
        exact host
  -- Without a colon in front there would have to be one among the slashes.
  · cases slashes with
    | nil =>
      rw [List.append_nil] at h
      exact ⟨whole, h, host, by simp [Cut.append]⟩
    | cons slash slashes =>
      obtain rfl := all slash List.mem_cons_self
      rw [cut?, scheme?_of_slash colon] at h
      cases h

/-- A path as it stands in an address. -/
def shown (path : String) : List Char :=
  ((path.toList.dropWhile (· == '/')).rdropWhile (· ≤ ' ')).filter isKept

/-- A base without the slashes at its end, as it stands in an address. -/
def front (base : String) : List Char :=
  ((base.toList.rdropWhile (· == '/')).dropWhile (· ≤ ' ')).filter isKept

theorem front_subset (base : String) : front base ⊆ base.toList :=
  List.Sublist.subset ((List.filter_sublist.trans (List.dropWhile_sublist _)).trans
    (List.rdropWhile_prefix _ _).sublist)

/-- What is read of a joined address is the front of the base, a slash, and what is shown of the
    path. -/
theorem clean_join (base path : String) :
    clean (join base path).toList = front base ++ '/' :: shown path := by
  rw [toList_join, clean_append_slash, front, shown]

/-- If a base names a host, the addresses below it do. -/
theorem parse?_join_of_cut {base : String} {cut : Cut} (h : cut? (front base) = some cut)
    (host : cut.authority ≠ []) (path : String) :
    parse? (join base path) = cut.server?.map (cut.below (shown path)).url := by
  have below : cut? (front base ++ '/' :: shown path) = some (cut.below (shown path)) := by
    apply cut?_append h host
    right
    rintro c ⟨⟩
    decide
  rw [parse?_eq, clean_join, below]
  rfl

/-- An address that can be read names a host. -/
theorem exists_cut_of_parse? {text : String} {url : Url} (read : parse? text = some url) :
    ∃ cut server, cut? (clean text.toList) = some cut ∧ cut.authority ≠ [] ∧
      cut.server? = some server ∧ url = cut.url server := by
  rw [parse?_eq] at read
  obtain ⟨cut, cut_eq, served⟩ := Option.bind_eq_some_iff.1 read
  obtain ⟨server, server_eq, rfl⟩ := Option.map_eq_some_iff.1 served
  refine ⟨cut, server, cut_eq, fun nil => ?_, server_eq, rfl⟩
  rw [Cut.server?, nil, server?_nil] at server_eq
  cases server_eq

/-- A base names a host if it does with a slash after it. -/
theorem exists_cut_join {base : String} {root : Url} (read : parse? (join base "") = some root) :
    ∃ cut server, cut? (front base) = some cut ∧ cut.authority ≠ [] ∧
      cut.server? = some server ∧ root = (cut.below []).url server := by
  obtain ⟨whole, server, cut_eq, host, server_eq, rfl⟩ := exists_cut_of_parse? read
  have slash : ∀ c ∈ '/' :: shown "", c = '/' := fun c mem => List.mem_singleton.1 mem
  rw [clean_join] at cut_eq
  obtain ⟨cut, before, host, rfl⟩ := exists_cut_of_append cut_eq host slash
  exact ⟨cut, server, before, host, server_eq, rfl⟩

/-! ### Below a base without query and fragment -/

namespace Cut

/-- Neither a query nor a fragment stands after the host. -/
def IsPlain (cut : Cut) : Prop := ∀ c ∈ cut.tail, isPathChar c = true

variable {cut : Cut} (server : String × Option Nat)

/-- Text is put after a path. -/
theorem url_append (plain : cut.IsPlain) (text : List Char) :
    (cut.append text).url server = { cut.url server with
      path := pathOf (cut.tail ++ text.takeWhile isPathChar)
      query := queryOf (text.dropWhile isPathChar) } := by
  rw [url, append]
  dsimp only
  rw [List.takeWhile_append_of_pos plain, List.dropWhile_append_of_pos plain]
  rfl

/-- Text after a query or a fragment is no part of the path. -/
theorem path_url_append (marked : ¬ cut.IsPlain) (text : List Char) :
    ((cut.append text).url server).path = (cut.url server).path := by
  have left : cut.tail.dropWhile isPathChar ≠ [] :=
    fun none => marked (List.dropWhile_eq_nil_iff.1 none)
  rw [url, url, append]
  dsimp only
  rw [takeWhile_append_of_dropWhile_ne_nil left]

/-- Below a path, the path is read off what stands after the slash. -/
theorem url_below (plain : cut.IsPlain) (text : List Char) :
    (cut.below text).url server = { cut.url server with
      path := resolve (folder cut.tail) (segments (text.takeWhile isPathChar))
      query := queryOf (text.dropWhile isPathChar) } := by
  have slash : isPathChar '/' = true := by decide
  rw [below, url_append server plain, List.takeWhile_cons_of_pos slash,
    List.dropWhile_cons_of_pos slash, pathOf_append_slash]

/-- The root below a path. -/
theorem url_below_nil (plain : cut.IsPlain) :
    (cut.below []).url server = { cut.url server with
      path := (folder cut.tail).reverse ++ [""]
      query := none } := by
  rw [below, url_append server plain]
  exact congrArg (fun path => { cut.url server with path, query := none })
    (pathOf_append_slash_nil cut.tail)

end Cut

/-- Without query and fragment, nothing but a path stands after the host of a base. -/
theorem isPlain_of_notMem {base : String} {cut : Cut} (h : cut? (front base) = some cut)
    (noQuery : '?' ∉ base.toList) (noFragment : '#' ∉ base.toList) : cut.IsPlain := by
  intro c mem
  have mem := front_subset base (tail_subset_of_cut? h mem)
  rw [isPathChar, Bool.and_eq_true, bne_iff_ne, bne_iff_ne]
  exact ⟨ne_of_mem_of_not_mem mem noQuery, ne_of_mem_of_not_mem mem noFragment⟩

/-- Below a base without query and fragment, the path and the query are read off what stands after
    the slash, the path after that of the base. -/
theorem parse?_join {base : String} {root : Url} (read : parse? (join base "") = some root)
    (noQuery : '?' ∉ base.toList) (noFragment : '#' ∉ base.toList) :
    root.path = root.path.dropLast ++ [""] ∧ root.query = none ∧
      ∀ path, parse? (join base path) = some { root with
        path := resolve root.path.dropLast.reverse (segments ((shown path).takeWhile isPathChar))
        query := queryOf ((shown path).dropWhile isPathChar) } := by
  obtain ⟨cut, server, before, host, served, rfl⟩ := exists_cut_join read
  have plain := isPlain_of_notMem before noQuery noFragment
  rw [Cut.url_below_nil server plain]
  simp only [List.dropLast_concat, List.reverse_reverse, true_and]
  intro path
  rw [parse?_join_of_cut before host, served, Option.map_some, Cut.url_below server plain]

end LargeFiles.Http.Url
