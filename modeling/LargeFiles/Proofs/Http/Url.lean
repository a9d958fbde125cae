import LargeFiles.Http.Url
import LargeFiles.Proofs.List
import LargeFiles.Proofs.Text.Percent
import LargeFiles.Remote.Endpoint
import Mathlib.Data.List.DropRight
import Mathlib.Data.List.Induction

/-!
# Users in addresses

An address below a base names the user that the base names, and no other.  What stands before the
host ends at the first slash, and the path is put after a slash; all that has to be ruled out is
that the host of the joined address is read off the path, or that the base is fit for use only
together with a path.
-/

namespace LargeFiles

namespace Http

/-! ### Hosts -/

namespace Host

/-- No name has a blank in it. -/
theorem name?_of_mem {text : List Char} {c : Char} (blank : c ≤ ' ') (mem : c ∈ text) :
    name? text = none := by
  have small : c.toNat ≤ 32 := blank
  have byte : String.utf8EncodeChar c = [UInt8.ofNat c.toNat] := by
    rw [String.utf8EncodeChar]
    exact if_pos (show c.toNat ≤ 127 by omega)
  have number : (UInt8.ofNat c.toNat).toNat = c.toNat := by
    rw [UInt8.toNat_ofNat']
    omega
  have plain : ∀ k : Fin 33, UInt8.ofNat k ≠ 0x25 ∧ Text.Hex.value? (UInt8.ofNat k) = none := by
    decide
  obtain ⟨noPercent, noDigit⟩ := plain ⟨c.toNat, by omega⟩
  -- A blank is not encoded, so decoding leaves it in the name.
  have kept : UInt8.ofNat c.toNat ∈
      Text.Percent.decode (Bytes.ofString (String.ofList text)) := by
    apply Text.Percent.mem_decode noPercent noDigit
    rw [Bytes.ofString, String.toList_ofList, List.mem_flatMap]
    exact ⟨c, mem, byte ▸ List.mem_cons_self⟩
  rw [name?]
  cases read : Bytes.toString? (Text.Percent.decode (Bytes.ofString (String.ofList text))) with
  | none => rfl
  | some decoded =>
    rw [← Bytes.ofString_of_toString? read, Bytes.ofString, List.mem_flatMap] at kept
    obtain ⟨d, mem_d, encoded⟩ := kept
    have value := Bytes.toNat_eq_of_mem_utf8EncodeChar encoded (by omega)
    obtain rfl : d = c := Char.toNat_inj.1 (by omega)
    -- No name of a host may have it there.
    have forbidden : (decoded.toList.map Char.toLower).any isForbidden = true := by
      rw [List.any_map, List.any_eq_true]
      refine ⟨d, mem_d, ?_⟩
      have noCapital : ¬ (d.val ≥ 'A'.val ∧ d.val ≤ 'Z'.val) := by
        rintro ⟨ge, -⟩
        have : 65 ≤ d.toNat := UInt32.le_iff_toNat_le.1 ge
        omega
      have lower : d.toLower = d := dif_neg noCapital
      rw [Function.comp_apply, lower, isForbidden, decide_eq_true blank]
      rfl
    refine if_pos ?_
    rw [Bool.or_eq_true]
    exact .inr forbidden

/-- No host ends in a blank. -/
theorem ofText?_of_blank {text : List Char} {blank : Char} (le : blank ≤ ' ')
    (last : text.getLast? = some blank) : ofText? text = none := by
  have mem := List.mem_of_getLast? last
  fun_cases ofText? text with
  -- In brackets a host would end in a bracket, which is no blank.
  | case1 rest closed =>
    cases rest with
    | nil => cases closed
    | cons c rest =>
      rw [List.getLast?_cons_cons] at last
      rw [last, beq_iff_eq, Option.some.injEq] at closed
      exact absurd (closed ▸ le) (by decide)
  | case2 => rfl
  | case3 => exact name?_of_mem le mem

end Host

namespace Url

/-! ### The part with user and host -/

/-- Whether the scheme of a text asks for encryption, and the part with user and host after it. -/
def authority? (text : List Char) : Option (Bool × List Char) :=
  (scheme? text).map fun parts =>
    (parts.1, (parts.2.dropWhile isSlash).takeWhile (!endsAuthority ·))

/-- The user name and the password in the part with user and host. -/
def userOf (authority : List Char) : String × String :=
  ((splitUser authority).1, (splitUser authority).2.1)

/-- The host and the port in the part with user and host. -/
def server? (secure : Bool) (authority : List Char) : Option (String × Option Nat) :=
  let parts := splitPort (splitUser authority).2.2
  (Host.ofText? parts.1).bind fun host => (port? secure parts.2).map fun port => (host, port)

/-- The user that an address names stands before its host, if it has one. -/
theorem map_user_parse? (text : String) :
    (parse? text).map (fun url => (url.user, url.password)) =
      (authority? (clean text.toList)).bind fun parts =>
        (server? parts.1 parts.2).map fun _ => userOf parts.2 := by
  rw [parse?, authority?]
  cases scheme? (clean text.toList) with
  | none => rfl
  | some parts =>
    simp only [Option.bind_eq_bind, Option.bind_some, Option.map_some, server?, userOf]
    generalize Host.ofText? _ = host
    generalize port? _ _ = port
    -- Whether there is a server does not depend on the user, nor the user on it.
    cases host with
    | none => rfl
    | some host =>
      cases port with
      | none => rfl
      | some port => rfl

/-- An address can be read if its part with user and host can. -/
theorem isSome_parse?_iff (text : String) :
    (parse? text).isSome ↔
      ∃ parts ∈ authority? (clean text.toList), (server? parts.1 parts.2).isSome := by
  have read := congrArg Option.isSome (map_user_parse? text)
  rw [Option.isSome_map] at read
  rw [read]
  cases authority? (clean text.toList) with
  | none => simp
  | some parts => simp

/-! ### Appending -/

/-- The scheme is what stands before the first colon. -/
theorem scheme?_colon {name : List Char} (noColon : ':' ∉ name) (after : List Char) :
    scheme? (name ++ ':' :: after) =
      if name.map Char.toLower = "http".toList then some (false, after)
      else if name.map Char.toLower = "https".toList then some (true, after)
      else none := by
  have all : ∀ c ∈ name, (c != ':') = true := fun c mem =>
    bne_iff_ne.2 (ne_of_mem_of_not_mem mem noColon)
  have taken : (name ++ ':' :: after).takeWhile (· != ':') = name := by
    rw [List.takeWhile_append_of_pos all, List.takeWhile_cons_of_neg (by simp), List.append_nil]
  have left : (name ++ ':' :: after).dropWhile (· != ':') = ':' :: after := by
    rw [List.dropWhile_append_of_pos all, List.dropWhile_cons_of_neg (by simp)]
  simp only [scheme?, taken, left]

/-- What follows a text with a scheme follows what follows the scheme. -/
theorem scheme?_append {text : List Char} (colon : ':' ∈ text) (rest : List Char) :
    scheme? (text ++ rest) = (scheme? text).map fun parts => (parts.1, parts.2 ++ rest) := by
  obtain ⟨name, after, rfl, noColon⟩ := List.eq_append_cons_of_mem colon
  rw [List.append_assoc, List.cons_append, scheme?_colon noColon, scheme?_colon noColon]
  split
  · rfl
  · split <;> rfl

/-- A text with a slash before its first colon has no scheme. -/
theorem scheme?_of_slash {text : List Char} (noColon : ':' ∉ text) (rest : List Char) :
    scheme? (text ++ '/' :: rest) = none := by
  -- The scheme would go up to the first colon, and no scheme has a slash.
  by_cases colon : ':' ∈ rest
  · obtain ⟨name, after, rfl, noColon'⟩ := List.eq_append_cons_of_mem colon
    have none : ':' ∉ text ++ '/' :: name := by
      simp [noColon, noColon']
    have slash : '/' ∈ (text ++ '/' :: name).map Char.toLower :=
      List.mem_map.2 ⟨'/', by simp, by decide⟩
    have shape : text ++ '/' :: (name ++ ':' :: after) = (text ++ '/' :: name) ++ ':' :: after := by
      simp
    rw [shape, scheme?_colon none, if_neg, if_neg]
    · intro same
      exact absurd (same ▸ slash) (by decide)
    · intro same
      exact absurd (same ▸ slash) (by decide)
  · have all : ∀ c ∈ text ++ '/' :: rest, (c != ':') = true := by
      intro c mem
      apply bne_iff_ne.2
      rintro rfl
      simp [noColon, colon] at mem
    have left : (text ++ '/' :: rest).dropWhile (· != ':') = [] := by
      rw [List.dropWhile_eq_nil_iff]
      exact all
    simp only [scheme?, left]

/-- A part with a user in it that ends before a slash is the same whatever stands after the slash,
    and if nothing does. -/
theorem authority?_of_append_slash {text rest : List Char} {secure : Bool}
    {authority : List Char} (h : authority? (text ++ '/' :: rest) = some (secure, authority))
    (user : '@' ∈ authority)
    (first : '@' ∉ (rest.dropWhile isSlash).takeWhile (!endsAuthority ·)) {after : List Char}
    (slash : ∀ c ∈ after.head?, c = '/') :
    authority? (text ++ after) = some (secure, authority) := by
  by_cases colon : ':' ∈ text
  · rw [authority?, scheme?_append colon] at h ⊢
    cases scheme : scheme? text with
    | none => simp [scheme] at h
    | some parts =>
      rw [scheme] at h
      simp only [Option.map_some, Option.some.injEq, Prod.mk.injEq] at h ⊢
      obtain ⟨rfl, rfl⟩ := h
      refine ⟨rfl, ?_⟩
      rw [List.dropWhile_append] at user ⊢
      rw [List.dropWhile_append]
      split at user
      · -- The host would be read off what stands after the slash.
        rw [List.dropWhile_cons_of_pos (by decide)] at user
        exact absurd user first
      · next some =>
        rw [if_neg some, if_neg some, takeWhile_append_of_head?, takeWhile_append_of_head?]
        · rintro c ⟨⟩
          decide
        · intro c mem
          rw [slash c mem]
          decide
  · rw [authority?, scheme?_of_slash colon] at h
    cases h

/-- A blank neither stands for a slash nor starts what follows the host. -/
theorem endsAuthority_of_blank {c : Char} (le : c ≤ ' ') : endsAuthority c = false := by
  rw [Bool.eq_false_iff]
  intro ends
  simp only [endsAuthority, isSlash, Bool.or_eq_true, beq_iff_eq] at ends
  rcases ends with ((rfl | rfl) | rfl) | rfl <;> exact absurd le (by decide)

/-- A blank after a text with a user in it is no part of the part with the user, or the last
    character of it. -/
theorem authority?_of_append_blank {text : List Char} {blank : Char} (le : blank ≤ ' ')
    {secure : Bool} {authority : List Char}
    (h : authority? (text ++ [blank]) = some (secure, authority)) (user : '@' ∈ authority) :
    authority? text = some (secure, authority) ∨ authority.getLast? = some blank := by
  by_cases colon : ':' ∈ text
  · rw [authority?, scheme?_append colon] at h
    rw [authority?]
    cases scheme : scheme? text with
    | none => simp [scheme] at h
    | some parts =>
      rw [scheme] at h
      simp only [Option.map_some, Option.some.injEq, Prod.mk.injEq] at h ⊢
      obtain ⟨rfl, rfl⟩ := h
      rw [List.dropWhile_append] at user ⊢
      split at user
      · -- Nothing but the blank would stand before the path.
        have mem := List.dropWhile_sublist _ |>.mem ((List.takeWhile_sublist _).mem user)
        exact absurd (List.mem_singleton.1 mem ▸ le) (by decide)
      · next some =>
        rw [if_neg some, List.takeWhile_append]
        split
        · right
          have stays : [blank].takeWhile (!endsAuthority ·) = [blank] :=
            List.takeWhile_cons_of_pos (by rw [endsAuthority_of_blank le]; rfl)
          rw [stays, List.getLast?_append]
          rfl
        · exact .inl ⟨rfl, rfl⟩
  · -- A blank is no colon.
    have none : ':' ∉ text ++ [blank] := by
      rw [List.mem_append, List.mem_singleton]
      rintro (mem | rfl)
      · exact colon mem
      · exact absurd le (by decide)
    have left : (text ++ [blank]).dropWhile (· != ':') = [] := by
      rw [List.dropWhile_eq_nil_iff]
      exact fun c mem => bne_iff_ne.2 (ne_of_mem_of_not_mem mem none)
    simp [authority?, scheme?, left] at h

/-- The host and the port end as the part with user and host does. -/
theorem getLast?_splitUser {authority : List Char} {blank : Char} (le : blank ≤ ' ')
    (last : authority.getLast? = some blank) :
    (splitUser authority).2.2.getLast? = some blank := by
  rw [splitUser]
  split
  · have noAt : (blank != '@') = true := bne_iff_ne.2 (by rintro rfl; exact absurd le (by decide))
    obtain ⟨before, rfl⟩ := List.getLast?_eq_some_iff.1 last
    simp [noAt]
  · exact last

theorem splitPort_append (text : List Char) :
    (splitPort text).1 ++ (splitPort text).2 = text := by
  fun_cases splitPort text <;> simp

/-- A port stands after a colon. -/
theorem head?_splitPort (text : List Char) : ∀ c ∈ (splitPort text).2.head?, c = ':' := by
  have colon : ∀ l : List Char, ∀ c ∈ (l.dropWhile (· != ':')).head?, c = ':' := by
    intro l c mem
    have stop := List.head?_dropWhile_not (· != ':') l
    rw [Option.mem_def.1 mem] at stop
    simpa using stop
  fun_cases splitPort text <;> exact colon _

/-- No port has a blank in it. -/
theorem port?_of_mem {secure : Bool} {digits : List Char} {blank : Char} (le : blank ≤ ' ')
    (mem : blank ∈ digits) : port? secure (':' :: digits) = none := by
  -- A port is written in digits, and a blank is none.
  have noDigits : digits.all Char.isDigit = false := by
    rw [List.all_eq_false]
    refine ⟨blank, mem, fun digit => ?_⟩
    rw [Char.isDigit, Bool.and_eq_true, decide_eq_true_iff] at digit
    have large : 48 ≤ blank.toNat := UInt32.le_iff_toNat_le.1 digit.1
    have small : blank.toNat ≤ 32 := le
    omega
  cases digits with
  | nil => cases mem
  | cons d digits =>
    show (if (d :: digits).all Char.isDigit then _ else _) = _
    rw [noDigits]
    rfl

/-- No host and no port ends in a blank. -/
theorem server?_of_blank {secure : Bool} {authority : List Char} {blank : Char} (le : blank ≤ ' ')
    (last : authority.getLast? = some blank) : server? secure authority = none := by
  have ends := getLast?_splitUser le last
  rw [server?]
  generalize (splitUser authority).2.2 = text at ends
  have colon := head?_splitPort text
  rw [← splitPort_append text, List.getLast?_append] at ends
  -- The blank is the end of the host, or else of the port.
  cases port : (splitPort text).2 with
  | nil =>
    rw [port, List.getLast?_nil, Option.none_or] at ends
    simp [Host.ofText?_of_blank le ends]
  | cons c digits =>
    obtain rfl : c = ':' := colon c (by rw [port]; rfl)
    -- The blank is not the colon itself, so it is among the digits.
    have mem : blank ∈ digits := by
      cases digits with
      | nil =>
        rw [port] at ends
        cases ends
        exact absurd le (by decide)
      | cons d digits =>
        rw [port, List.getLast?_cons_cons, List.getLast?_cons, Option.some_or] at ends
        exact List.mem_of_getLast? (List.getLast?_cons.trans ends)
    cases Host.ofText? (splitPort text).1 <;> simp [port?_of_mem le mem]

/-! ### Joining -/

/-- Blanks after a text with a user in it do not make an address of it. -/
theorem authority?_of_append_blanks {text blanks : List Char} (le : ∀ c ∈ blanks, c ≤ ' ')
    {secure : Bool} {authority : List Char}
    (h : authority? (text ++ blanks) = some (secure, authority)) (user : '@' ∈ authority)
    (server : (server? secure authority).isSome) :
    authority? text = some (secure, authority) := by
  induction blanks using List.reverseRecOn with
  | nil => rwa [List.append_nil] at h
  | append_singleton blanks blank ih =>
    have le_blank : blank ≤ ' ' := le blank (by simp)
    rw [← List.append_assoc] at h
    -- A host that ends in a blank cannot be read, so the blank was not part of it.
    rcases authority?_of_append_blank le_blank h user with before | last
    · exact ih (fun c mem => le c (List.mem_append_left _ mem)) before
    · rw [server?_of_blank le_blank last] at server
      cases server

/-- Whether a character stays that stands between others. -/
def isKept (c : Char) : Bool := !(['\t', '\n', '\r'].contains c)

/-- An address is cleaned of blanks at both ends, and then of tabs and line breaks. -/
theorem clean_eq (text : List Char) :
    clean text = ((text.dropWhile (· ≤ ' ')).rdropWhile (· ≤ ' ')).filter isKept := rfl

/-- What is clean before a slash and after it is so together. -/
theorem clean_append_slash (text rest : List Char) :
    clean (text ++ '/' :: rest) =
      (text.dropWhile (· ≤ ' ')).filter isKept ++
        '/' :: (rest.rdropWhile (· ≤ ' ')).filter isKept := by
  have slash : decide ('/' ≤ ' ') = false := by decide
  -- Blanks are trimmed from the ends only, and the slash is no blank.
  have right (front : List Char) : (front ++ '/' :: rest).rdropWhile (· ≤ ' ') =
      front ++ '/' :: rest.rdropWhile (· ≤ ' ') := by
    rw [List.rdropWhile, List.reverse_append, List.reverse_cons, List.append_assoc,
      List.singleton_append, dropWhile_append_cons_of_neg (p := (· ≤ ' ')) slash]
    simp [List.rdropWhile]
  rw [clean_eq, dropWhile_append_cons_of_neg (p := (· ≤ ' ')) slash, right, List.filter_append,
    List.filter_cons_of_pos (by decide)]

/-- Blanks at the end of an address are left out. -/
theorem clean_append_blanks (text : List Char) :
    clean text ++ ((text.dropWhile (· ≤ ' ')).rtakeWhile (· ≤ ' ')).filter isKept =
      (text.dropWhile (· ≤ ' ')).filter isKept := by
  rw [clean_eq, ← List.filter_append, List.rdropWhile_append_rtakeWhile]

/-- A text is a clean one but for blanks around it. -/
theorem exists_clean_append (text : List Char) :
    ∃ blanks, (∀ c ∈ blanks, c ≤ ' ') ∧
      (text.dropWhile (· ≤ ' ')).filter isKept = clean text ++ blanks := by
  refine ⟨_, fun c mem => ?_, (clean_append_blanks text).symm⟩
  have mem := List.mem_rtakeWhile_imp (List.mem_filter.1 mem).1
  exact of_decide_eq_true mem

/-- What would be read as user and host if the path stood for them. -/
def firstPart (path : String) : List Char :=
  ((clean ('/' :: path.toList.dropWhile (· == '/'))).dropWhile isSlash).takeWhile
    (!endsAuthority ·)

/-- The first part of a path as it is found in a joined address. -/
theorem firstPart_eq (path : String) : firstPart path =
    ((((path.toList.dropWhile (· == '/')).rdropWhile (· ≤ ' ')).filter isKept).dropWhile
      isSlash).takeWhile (!endsAuthority ·) := by
  rw [firstPart, ← List.nil_append ('/' :: _), clean_append_slash, List.dropWhile_nil,
    List.filter_nil, List.nil_append, List.dropWhile_cons_of_pos (by decide)]

/-- The first part of a path with a slash in it is what stands before the slash. -/
theorem firstPart_append_slash {segment : List Char} (rest : List Char) (nonempty : segment ≠ [])
    (plain : ∀ c ∈ segment, isKept c = true ∧ endsAuthority c = false) :
    firstPart (String.ofList (segment ++ '/' :: rest)) = segment := by
  obtain ⟨c, segment, rfl⟩ := List.exists_cons_of_ne_nil nonempty
  -- The segment begins with no slash, so nothing of it is dropped.
  have ends := (plain c List.mem_cons_self).2
  have noSlash : isSlash c = false := by
    rw [endsAuthority, Bool.or_assoc, Bool.or_eq_false_iff] at ends
    exact ends.1
  have notSlash : (c == '/') = false := by
    rw [isSlash, Bool.or_eq_false_iff] at noSlash
    exact noSlash.1
  have kept : (c :: segment).filter isKept = c :: segment :=
    List.filter_eq_self.2 fun d mem => (plain d mem).1
  have shape : '/' :: (c :: segment ++ '/' :: rest) = ('/' :: c :: segment) ++ '/' :: rest := rfl
  rw [firstPart, String.toList_ofList, List.cons_append,
    List.dropWhile_cons_of_neg (by simp [notSlash]), ← List.cons_append, shape,
    clean_append_slash, List.dropWhile_cons_of_neg (by decide),
    List.filter_cons_of_pos (by decide), kept, List.cons_append,
    List.dropWhile_cons_of_pos (by decide), List.cons_append,
    List.dropWhile_cons_of_neg (by simp [noSlash]), ← List.cons_append,
    takeWhile_append_of_head?]
  · rw [List.takeWhile_eq_self_iff]
    intro d mem
    rw [(plain d mem).2]
    rfl
  · rintro d ⟨⟩
    decide

/-- A base and a path are joined by one slash. -/
theorem toList_join (base path : String) : (Remote.Endpoint.join base path).toList =
    base.toList.rdropWhile (· == '/') ++ '/' :: path.toList.dropWhile (· == '/') := by
  simp [Remote.Endpoint.join, Remote.Endpoint.withoutSlashes, List.rdropWhile]

/-- The part with user and host of an address below a base is the same for all paths, unless the
    base ends before it: then it is what the path starts with. -/
theorem authority?_join_cases (base : String) :
    (∃ authority, ∀ path,
      authority? (clean (Remote.Endpoint.join base path).toList) = authority) ∨
    ∃ secure, ∀ path, authority? (clean (Remote.Endpoint.join base path).toList) =
      some (secure, firstPart path) := by
  simp only [toList_join, clean_append_slash, firstPart_eq]
  generalize ((base.toList.rdropWhile (· == '/')).dropWhile (· ≤ ' ')).filter isKept = front
  by_cases colon : ':' ∈ front
  · simp only [authority?, scheme?_append colon]
    cases scheme? front with
    | none => exact .inl ⟨none, fun _ => rfl⟩
    | some parts =>
      simp only [Option.map_some, List.dropWhile_append, List.isEmpty_iff]
      -- Where the base ends after its scheme, the path is read as the authority.
      by_cases empty : parts.2.dropWhile isSlash = []
      · right
        refine ⟨parts.1, fun path => ?_⟩
        rw [if_pos empty, List.dropWhile_cons_of_pos (by decide)]
      · left
        refine ⟨some (parts.1, (parts.2.dropWhile isSlash).takeWhile (!endsAuthority ·)),
          fun path => ?_⟩
        rw [if_neg empty, takeWhile_append_of_head?]
        rintro c ⟨⟩
        decide
  · exact .inl ⟨none, fun _ => by rw [authority?, scheme?_of_slash colon]; rfl⟩

/-- A base is what stands before the slashes at its end, and these. -/
theorem exists_slashes (base : String) :
    ∃ slashes, (∀ c ∈ slashes, c = '/') ∧
      base.toList = base.toList.rdropWhile (· == '/') ++ slashes := by
  refine ⟨base.toList.rtakeWhile (· == '/'), fun c mem => ?_,
    (List.rdropWhile_append_rtakeWhile (p := (· == '/')) (l := base.toList)).symm⟩
  have slash := List.mem_rtakeWhile_imp mem
  exact beq_iff_eq.1 slash

/-- If a base and a path make an address with a user, the base is an address with the same part
    with user and host. -/
theorem authority?_of_join {base path : String} {secure : Bool} {authority : List Char}
    (h : authority? (clean (Remote.Endpoint.join base path).toList) = some (secure, authority))
    (user : '@' ∈ authority) (first : '@' ∉ firstPart path)
    (server : (server? secure authority).isSome) :
    authority? (clean base.toList) = some (secure, authority) := by
  rw [toList_join, clean_append_slash] at h
  have first' := first
  rw [firstPart_eq] at first'
  obtain ⟨slashes, all, parts⟩ := exists_slashes base
  -- Slashes that the base ended in are lost; without them blanks may be lost.
  cases slashes with
  | nil =>
    rw [List.append_nil] at parts
    obtain ⟨blanks, le, eq⟩ := exists_clean_append base.toList
    rw [← parts, eq] at h
    have alone : authority? (clean base.toList ++ blanks ++ []) = some (secure, authority) :=
      authority?_of_append_slash h user first' (by simp)
    rw [List.append_nil] at alone
    exact authority?_of_append_blanks le alone user server
  | cons slash more =>
    obtain rfl := all slash List.mem_cons_self
    rw [parts, clean_append_slash]
    exact authority?_of_append_slash h user first' (by simp)

/-- If the address can be read at all, it names no user. -/
def NamesNoUser (address : String) : Prop :=
  ∀ url, parse? address = some url → url.user = "" ∧ url.password = ""

instance (address : String) : Decidable (NamesNoUser address) :=
  inferInstanceAs (Decidable (∀ url ∈ parse? address, url.user = "" ∧ url.password = ""))

/-- An address below a base names no user unless the base does. -/
theorem NamesNoUser.join {base path : String} (h : NamesNoUser base)
    (first : '@' ∉ firstPart path) : NamesNoUser (Remote.Endpoint.join base path) := by
  intro url parsed
  have read := map_user_parse? (Remote.Endpoint.join base path)
  rw [parsed] at read
  cases found : authority? (clean (Remote.Endpoint.join base path).toList) with
  | none => simp [found] at read
  | some parts =>
    obtain ⟨secure, authority⟩ := parts
    rw [found, Option.map_some, Option.bind_some] at read
    -- Who is named depends on the authority alone.
    obtain ⟨server, some, user_eq⟩ := Option.map_eq_some_iff.1 read.symm
    by_cases user : '@' ∈ authority
    · -- The base can be read too, and names the same user.
      have base_read := map_user_parse? base
      rw [authority?_of_join found user first (by rw [some]; rfl), Option.bind_some, some,
        Option.map_some, user_eq] at base_read
      obtain ⟨base_url, base_parsed, same⟩ := Option.map_eq_some_iff.1 base_read
      obtain ⟨user_nil, password_nil⟩ := h base_url base_parsed
      obtain ⟨user_same, password_same⟩ := Prod.mk.inj same
      exact ⟨user_same ▸ user_nil, password_same ▸ password_nil⟩
    · rw [userOf, splitUser, if_neg (by simpa using user)] at user_eq
      obtain ⟨user_nil, password_nil⟩ := Prod.mk.inj user_eq
      exact ⟨user_nil.symm, password_nil.symm⟩

end Url

end Http

end LargeFiles
