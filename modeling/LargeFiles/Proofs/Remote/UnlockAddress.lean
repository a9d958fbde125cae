import LargeFiles.Proofs.Http.Join
import LargeFiles.Proofs.Remote.Acquisition
import Mathlib.Data.List.Flatten

/-!
# Where locks are removed

The id of a lock is put into the address of its removal as it is.  An id that can stand as a segment
of a path leads to the place for its lock; any other leads elsewhere, since slashes split it, dots
are resolved, what follows a question mark or a number sign is no path, some characters are dropped,
and an escape stands for another character.

* `isSegment_of_removesAt`     what leads to the place for a lock can stand as a segment;
* `removesAt_of_isSegment`     and what can stand as a segment leads there;
* `unlock_reaches_lock_iff`    where every removal is asked for.
-/

namespace LargeFiles

open Http (Network Request Url)

/-! ### Segments -/

/-- A part of a text that takes no less room is all of it. -/
theorem Text.Percent.eq_of_sublist {part text : List Char} (sub : part.Sublist text)
    (room : (text.flatMap String.utf8EncodeChar).length ≤
      (part.flatMap String.utf8EncodeChar).length) : part = text :=
  flatMap_utf8EncodeChar_injective ((sub.flatMap _).eq_of_length_le room)

/-- A text that stands for itself as a segment of a path. -/
structure IsSegment (text : String) : Prop where
  /-- No character splits or ends a path or is dropped from it. -/
  chars : ∀ c ∈ text.toList, c ∉ ['/', '\\', '?', '#', '\t', '\n', '\r']
  /-- It is not resolved. -/
  noDots : text ≠ "." ∧ text ≠ ".."
  /-- No percent sign stands before two digits. -/
  noEscape : ∀ front rest, text.toList = front ++ rest → ¬ Text.Percent.Escapes rest

instance (text : String) : Decidable (IsSegment text) :=
  decidable_of_iff
    (text.toList.all (fun c => decide (c ∉ ['/', '\\', '?', '#', '\t', '\n', '\r'])) = true ∧
      (text ≠ "." ∧ text ≠ "..") ∧
      Text.Percent.read text.toList = text.toList.flatMap String.utf8EncodeChar)
    ⟨fun ⟨chars, noDots, same⟩ => ⟨fun c mem => of_decide_eq_true (List.all_eq_true.1 chars c mem),
        noDots, (Text.Percent.read_eq_self_iff _).1 same⟩,
      fun h => ⟨List.all_eq_true.2 fun c mem => decide_eq_true (h.chars c mem), h.noDots,
        (Text.Percent.read_eq_self_iff _).2 h.noEscape⟩⟩

namespace Remote

open Http.Url (isKept isPathChar isSlash isDots enter written shown)

/-- What is read off a segment is the text. -/
def Encodes (segment text : String) : Prop :=
  Text.Percent.read segment.toList = Bytes.ofString text

/-- An address is the place where the lock with an id is removed: below the root, the id is one
    segment. -/
def RemovesAt (root : Url) (lockId : String) (url : Url) : Prop :=
  ∃ segment, Encodes segment lockId ∧
    url = { root with
      path := root.path.dropLast ++ ["locks", segment, "unlock"]
      query := none }

/-- Where the removal of the lock with an id is asked for. -/
def unlockTarget (root : Url) (lockId : String) : Url :=
  let text := shown (Endpoint.unlock lockId)
  { root with
    path := Url.resolve root.path.dropLast.reverse (Url.segments (text.takeWhile isPathChar))
    query := Url.queryOf (text.dropWhile isPathChar) }

/-- What is left of an id before its address is cut. -/
def keptId (lockId : String) : List Char := lockId.toList.filter isKept

/-- What is shown of the path for a removal is the identifier between its neighbours. -/
theorem shown_unlock (lockId : String) :
    shown (Endpoint.unlock lockId) =
      "locks".toList ++ '/' :: (keptId lockId ++ "/unlock".toList) := by
  have text : (Endpoint.unlock lockId).toList =
      'l' :: ("ocks/".toList ++ lockId.toList ++ "/unloc".toList ++ ['k']) := by
    simp [Endpoint.unlock]
  rw [shown, text, List.dropWhile_cons_of_neg (by decide), ← List.cons_append,
    List.rdropWhile_concat_neg _ _ _ (by decide)]
  simp [keptId, isKept]

/-- The segments after that for the locks: some of them are split off the id, and one follows. -/
theorem exists_segments_unlock (lockId : String) :
    ∃ front last, Url.segments ((shown (Endpoint.unlock lockId)).takeWhile isPathChar) =
        "locks".toList :: (front ++ [last]) ∧
      ∀ segment ∈ front, segment ∈ Url.segments ((keptId lockId).takeWhile isPathChar) := by
  have locks : Url.segments "locks".toList = ["locks".toList] := by decide
  have unlock : ("/unlock".toList).takeWhile isPathChar = "/unlock".toList := by decide
  have inPath := List.all_eq_true.1 (by decide : "locks".toList.all isPathChar = true)
  rw [shown_unlock, List.takeWhile_append_of_pos inPath, List.takeWhile_cons_of_pos (by decide),
    Url.segments_append_slash, locks, List.takeWhile_append]
  split
  -- The id has no query or fragment in it.
  · next all =>
    have whole := (List.takeWhile_prefix isPathChar).eq_of_length all
    refine ⟨Url.segments (keptId lockId), "unlock".toList, ?_, ?_⟩
    · rw [unlock]
      exact congrArg _ (Url.segments_append_slash _ _)
    · rw [whole]
      exact fun _ mem => mem
  -- It has, and its last segment ends the path.
  · obtain ⟨front, last, split⟩ :=
      (List.eq_nil_or_concat' _).resolve_left (Url.segments_ne_nil
        ((keptId lockId).takeWhile isPathChar))
    refine ⟨front, last, by rw [split]; rfl, ?_⟩
    rw [split]
    exact fun _ mem => List.mem_append_left _ mem

/-- In the place for a lock, a piece of the id stands for the id. -/
theorem exists_piece_of_removesAt {root : Url} {lockId : String}
    (removes : RemovesAt root lockId (unlockTarget root lockId)) :
    ∃ piece ∈ Url.segments ((keptId lockId).takeWhile isPathChar), isDots piece = false ∧
      Text.Percent.read piece = lockId.toList.flatMap String.utf8EncodeChar := by
  obtain ⟨segment, encodes, same⟩ := removes
  have path := congrArg Url.path same
  rw [unlockTarget] at path
  dsimp only at path
  obtain ⟨front, last, split, sub⟩ := exists_segments_unlock lockId
  have locks : enter root.path.dropLast.reverse "locks".toList =
      "locks" :: root.path.dropLast.reverse := Url.enter_of_plain _ (by decide)
  rw [split, Url.resolve_cons _ _ (by simp), locks] at path
  -- The address ends as it should, so a segment of the identifier is what stands there.
  have ends : Url.resolve ("locks" :: root.path.dropLast.reverse) (front ++ [last]) =
      ("locks" :: root.path.dropLast.reverse).reverse ++ [segment, "unlock"] := by
    rw [path]
    simp
  obtain ⟨piece, mem, noDots, rfl⟩ := Url.exists_of_resolve_eq (by decide) ends
  exact ⟨piece, sub piece mem, noDots, (Url.read_written piece).symm.trans encodes⟩

/-- A piece of an id that stands for the id is all of it, since what is read off the piece takes no
    more room than the piece. -/
theorem isSegment_of_piece {lockId : String} {piece : List Char}
    (mem : piece ∈ Url.segments ((keptId lockId).takeWhile isPathChar))
    (noDots : isDots piece = false)
    (read : Text.Percent.read piece = lockId.toList.flatMap String.utf8EncodeChar) :
    IsSegment lockId := by
  have inPath := Url.sublist_of_mem_segments mem
  have kept : ((keptId lockId).takeWhile isPathChar).Sublist lockId.toList :=
    (List.takeWhile_sublist _).trans List.filter_sublist
  -- The segment is part of the identifier, and reading makes it no longer.
  obtain rfl : piece = lockId.toList := by
    apply Text.Percent.eq_of_sublist ((inPath.trans List.filter_sublist).trans kept)
    rw [← read]
    exact Text.Percent.length_read_le piece
  -- As a part of a path it has none of the characters that would end it.
  refine ⟨fun c mem => ?_, ⟨?_, ?_⟩, (Text.Percent.read_eq_self_iff _).1 read⟩
  · obtain ⟨inText, noSlash⟩ := List.mem_filter.1 (inPath.mem mem)
    have pathChar := List.mem_takeWhile_imp inText
    have keeps := (List.mem_filter.1 ((List.takeWhile_sublist _).mem inText)).2
    simp only [isKept, isPathChar, isSlash] at noSlash pathChar keeps
    simp_all
  · rintro rfl
    exact absurd noDots (by decide)
  · rintro rfl
    exact absurd noDots (by decide)

/-- What leads to the place for a lock can stand as a segment. -/
theorem isSegment_of_removesAt {root : Url} {lockId : String}
    (removes : RemovesAt root lockId (unlockTarget root lockId)) : IsSegment lockId := by
  obtain ⟨piece, mem, noDots, read⟩ := exists_piece_of_removesAt removes
  exact isSegment_of_piece mem noDots read

section

variable {lockId : String} (h : IsSegment lockId)

include h

/-- A segment has no characters that are lost, that end the path, or that are slashes. -/
theorem plain_of_isSegment {c : Char} (mem : c ∈ lockId.toList) :
    isKept c = true ∧ isPathChar c = true ∧ isSlash c = false := by
  have other := h.chars c mem
  simp only [isKept, isPathChar, isSlash]
  simp_all

theorem keptId_of_isSegment : keptId lockId = lockId.toList :=
  List.filter_eq_self.2 fun _ mem => (plain_of_isSegment h mem).1

/-- A segment does not lead elsewhere. -/
theorem isDots_of_isSegment : isDots lockId.toList = false := by
  have single : lockId.toList ≠ ['.'] := fun same =>
    h.noDots.1 (String.toList_injective same)
  have double : lockId.toList ≠ ['.', '.'] := fun same =>
    h.noDots.2 (String.toList_injective same)
  simp [isDots, Url.isSingleDot, Url.isDoubleDot, Url.plainDots_eq_self h.noEscape, single, double]

/-- Neither a query nor a fragment starts in the path. -/
theorem isPathChar_of_mem_shown :
    ∀ c ∈ shown (Endpoint.unlock lockId), isPathChar c = true := by
  have locks := List.all_eq_true.1 (by decide : "locks".toList.all isPathChar = true)
  have unlock := List.all_eq_true.1 (by decide : "/unlock".toList.all isPathChar = true)
  rw [shown_unlock, keptId_of_isSegment h]
  simp only [List.mem_append, List.mem_cons]
  -- The words around the identifier are harmless, and so is the identifier.
  rintro c (mem | rfl | mem | mem)
  · exact locks c mem
  · decide
  · exact (plain_of_isSegment h mem).2.1
  · exact unlock c mem

/-- The path has three segments, of which the id is one. -/
theorem segments_shown_unlock : Url.segments (shown (Endpoint.unlock lockId)) =
    ["locks".toList, lockId.toList, "unlock".toList] := by
  have locks : Url.segments "locks".toList = ["locks".toList] := by decide
  have last : Url.segments "unlock".toList = ["unlock".toList] := by decide
  have shape : keptId lockId ++ "/unlock".toList = lockId.toList ++ '/' :: "unlock".toList := by
    rw [keptId_of_isSegment h]
    rfl
  rw [shown_unlock, shape, Url.segments_append_slash, Url.segments_append_slash, locks, last,
    Url.segments_eq_singleton fun _ mem => (plain_of_isSegment h mem).2.2]
  rfl

/-- None of them is resolved. -/
theorem isDots_of_mem_segments :
    ∀ segment ∈ ["locks".toList, lockId.toList, "unlock".toList], isDots segment = false := by
  simp only [List.forall_mem_cons]
  exact ⟨by decide, isDots_of_isSegment h, by decide, by simp⟩

end

/-- What can stand as a segment leads to the place for the lock. -/
theorem removesAt_of_isSegment (root : Url) {lockId : String} (h : IsSegment lockId) :
    RemovesAt root lockId (unlockTarget root lockId) := by
  have locks : written "locks".toList = "locks" := by decide
  have last : written "unlock".toList = "unlock" := by decide
  refine ⟨written lockId.toList, ?_, ?_⟩
  · rw [Encodes, Url.read_written]
    exact (Text.Percent.read_eq_self_iff _).2 h.noEscape
  · have inPath := isPathChar_of_mem_shown h
    -- The whole text stays in the path, and resolving it changes nothing.
    rw [unlockTarget, List.takeWhile_eq_self_iff.2 inPath, List.dropWhile_eq_nil_iff.2 inPath,
      segments_shown_unlock h, Url.resolve_of_plain _ (by simp) (isDots_of_mem_segments h),
      List.reverse_reverse]
    simp only [List.map_cons, List.map_nil, locks, last, Url.queryOf]

/-- Different ids that can stand as segments have different places. -/
theorem RemovesAt.inj {root url : Url} {lockId other : String} (first : RemovesAt root lockId url)
    (second : RemovesAt root other url) : lockId = other := by
  obtain ⟨segment, encodes, rfl⟩ := first
  obtain ⟨segment', encodes', same⟩ := second
  have paths := congrArg Url.path same
  simp only [List.append_cancel_left_eq, List.cons.injEq, true_and, and_true] at paths
  apply Bytes.ofString_injective
  rw [← encodes, ← encodes', paths]

/-! ### Removals -/

/-- Where locks are removed.  The removal of a lock takes one request, which goes to the service
    whatever the id is.  Below the address of the service it goes to the place for the lock if and
    only if the id can stand as a segment, and then no other such id leads there.  Since the address
    has to be read, its host is in ASCII. -/
theorem unlock_reaches_lock_iff {c : Connection} (builds : c.Builds) {root : Url}
    (read : Url.parse? (c.address "") = some root) (noQuery : '?' ∉ c.baseUrl.toList)
    (noFragment : '#' ∉ c.baseUrl.toList) :
    ∃ target : String → Url,
      (∀ lockId force ref (network : Network), network.reachable = true →
        ∃ remove, network.Exchanges [remove] ((c.unlock lockId force ref).outcome network).2 ∧
          remove.request.Asks .post (target lockId)
            (Api.DeleteLockRequest.toJson ⟨force, ref⟩).render) ∧
      (∀ lockId, target lockId =
        { root with path := (target lockId).path, query := (target lockId).query }) ∧
      (∀ lockId, RemovesAt root lockId (target lockId) ↔ IsSegment lockId) ∧
      ∀ lockId other, IsSegment lockId → IsSegment other → target lockId = target other →
        lockId = other := by
  obtain ⟨-, -, below⟩ := Url.parse?_join read noQuery noFragment
  -- An identifier gets through exactly if it is a segment as it stands.
  have reaches (lockId : String) : RemovesAt root lockId (unlockTarget root lockId) ↔
      IsSegment lockId := ⟨isSegment_of_removesAt, removesAt_of_isSegment root⟩
  refine ⟨unlockTarget root, ?_, fun _ => by rw [unlockTarget], reaches, ?_⟩
  · intro lockId force ref network reachable
    obtain ⟨_, made, remove, rfl, asksRemoval, _⟩ :=
      Connection.converses_unlock builds lockId force ref network reachable
    obtain ⟨url, addressed, asks⟩ := asksRemoval
    obtain rfl : unlockTarget root lockId = url := Option.some.inj ((below _).symm.trans addressed)
    exact ⟨remove, made, asks⟩
  · intro lockId other segment segment' same
    have first := (reaches lockId).2 segment
    rw [same] at first
    exact first.inj ((reaches other).2 segment')

/-- An id with a space and a sign in it has its own place. -/
theorem unlock_reaches_lock_iff_spaced :
    let c : Connection := ⟨"http://lfs.test/info/lfs", .anonymous, "lfs", 1024⟩
    let root : Url := ⟨false, "", "", "lfs.test", none, ["info", "lfs", ""], none⟩
    c.Builds ∧ Url.parse? (c.address "") = some root ∧
      '?' ∉ c.baseUrl.toList ∧ '#' ∉ c.baseUrl.toList ∧ IsSegment "7 of 9%" ∧
      ∃ target : String → Url,
        (∀ lockId force ref (network : Network), network.reachable = true →
          ∃ remove, network.Exchanges [remove] ((c.unlock lockId force ref).outcome network).2 ∧
            remove.request.Asks .post (target lockId)
              (Api.DeleteLockRequest.toJson ⟨force, ref⟩).render) ∧
        (∀ lockId, target lockId =
          { root with path := (target lockId).path, query := (target lockId).query }) ∧
        (∀ lockId, RemovesAt root lockId (target lockId) ↔ IsSegment lockId) ∧
        ∀ lockId other, IsSegment lockId → IsSegment other → target lockId = target other →
          lockId = other := by
  intro c root
  -- Spaces and single percent signs are encoded as they should be.
  have builds : c.Builds := by decide +kernel
  have read : Url.parse? (c.address "") = some root := by decide +kernel
  have noQuery : '?' ∉ c.baseUrl.toList := by decide
  have noFragment : '#' ∉ c.baseUrl.toList := by decide
  exact ⟨builds, read, noQuery, noFragment, by decide +kernel,
    unlock_reaches_lock_iff builds read noQuery noFragment⟩

/-- An id leads to another part of the service, or to the place for another lock, and two ids
    lead to one place. -/
theorem unlock_redirected :
    let c : Connection := ⟨"http://lfs.test/info/lfs", .anonymous, "lfs", 1024⟩
    let network : Network := ⟨true, [⟨404, [], .whole⟩], []⟩
    let sent (lockId : String) : List (Http.Method × List String × Option String) :=
      ((c.unlock lockId true none).outcome network).2.sent.map fun request =>
        (request.method, request.url.path, request.url.query)
    sent "../objects/batch?" = [(.post, ["info", "lfs", "objects", "batch"], some "/unlock")] ∧
      sent "8/../7" = [(.post, ["info", "lfs", "locks", "7", "unlock"], none)] ∧
      sent "a b" = [(.post, ["info", "lfs", "locks", "a%20b", "unlock"], none)] ∧
      sent "a%20b" = sent "a b" := by
  decide +kernel

end Remote

end LargeFiles
