import LargeFiles.Proofs.Branch.Grammar
import LargeFiles.Proofs.Json.Record
import LargeFiles.Wire

/-!
# The names that a branch prints

A branch prints a full name, which names it again, and a short name, which is also what it is
written as.  A name that is read loses one `refs/heads/` in front, though, and a short name may have
one of its own: it stays a name without it, so another branch is read, and no error tells.

* `ofName_eq_ok_iff`         the branch that a name is read as;
* `ofName_full`              the full name of a branch names it;
* `ofName_short_eq_iff`      when the short name does;
* `faultless_rest`           what follows the prefix in a short name is a short name;
* `printed_names`            both forms, and the written one, for every name that is accepted.
-/

namespace LargeFiles.Branch

/-- The text that a branch is written as. -/
def encode (branch : Branch) : Bytes := branch.toJson.render

/-- The branch that a text is read as. -/
def decode? (text : Bytes) : Option Branch := (Json.parse? text).bind ofJson?

variable {branch : Branch} {name : String}

/-! ### The branch of a name -/

/-- A branch is made of a short name if the name is that of the branch. -/
theorem ofShort_eq_ok_iff : ofShort name = .ok branch ↔ branch.short = name := by
  unfold ofShort
  split
  · exact ⟨fun same => by cases same; rfl, fun same => congrArg Except.ok (ext same.symm)⟩
  · next found =>
    refine ⟨fun same => (nomatch same), fun same => ?_⟩
    rw [← same, branch.faultless] at found
    cases found

/-- The branch of a name has the short name that is left without a prefix. -/
theorem ofName_eq_ok_iff : ofName name = .ok branch ↔ branch.short = stripHeads name :=
  ofShort_eq_ok_iff

/-- The full name of a branch names it. -/
theorem ofName_full (branch : Branch) : ofName branch.full = .ok branch := by
  rw [ofName_eq_ok_iff, full, stripHeads_append]

/-- The short name of a branch names it, unless it looks like a full name. -/
theorem ofName_short_eq_iff :
    ofName branch.short = .ok branch ↔ ¬ heads.toList <+: branch.short.toList := by
  rw [ofName_eq_ok_iff, eq_comm, stripHeads_eq_iff, and_iff_left rfl, or_iff_right]
  -- No text is as long as itself with something in front.
  intro same
  have lengths := congrArg String.length same
  rw [String.length_append] at lengths
  have some : 0 < heads.length := by decide
  omega

/-- A branch is read that was written if its short name names it. -/
theorem decode?_encode (branch : Branch) :
    decode? branch.encode = (ofName branch.short).toOption := by
  rw [decode?, encode, toJson, Json.parse?_render (Json.Faithful.text.plain branch.short),
    Option.bind_some, ofJson?, Json.Faithful.text.read_write]
  rfl

/-- A branch is read as it was written if its short name names it. -/
theorem decode?_encode_eq_iff :
    decode? branch.encode = some branch ↔ ofName branch.short = .ok branch := by
  rw [decode?_encode]
  cases ofName branch.short with
  | error refusal => exact ⟨fun h => (nomatch h), fun h => nomatch h⟩
  | ok other =>
    exact ⟨fun h => congrArg _ (Option.some.inj h), fun h => congrArg _ (Except.ok.inj h)⟩

/-! ### Names with two prefixes -/

/-- What follows the prefix in a short name is a short name. -/
theorem faultless_rest {rest : List Char} (h : fault? (heads.toList ++ rest) = none) :
    fault? rest = none := by
  rw [fault?_eq_none_iff] at h ⊢
  obtain ⟨chars, dots, brace, dotEnd, lock, fine⟩ := h
  have part : rest <:+ heads.toList ++ rest := List.suffix_append _ rest
  -- The slash at the end of the prefix makes the other components those of the rest.
  have components : (heads.toList ++ rest).splitOn '/' =
      "refs/heads".toList.splitOn '/' ++ rest.splitOn '/' :=
    List.splitOn_append_cons_self "refs/heads".toList rest
  refine ⟨fun c mem within => chars c mem (List.mem_append_right _ within),
    fun within => dots (within.trans part.isInfix), fun within => brace (within.trans part.isInfix),
    fun last => dotEnd (last.trans part), fun last => lock (last.trans part),
    fun component mem => fine component ?_⟩
  rw [components]
  exact List.mem_append_right _ mem

/-- A short name that looks like a full name names another branch. -/
theorem exists_ofName_short {rest : String} (h : branch.short = heads ++ rest) :
    ∃ other : Branch, other.short = rest ∧ ofName branch.short = .ok other := by
  -- The rest is a name of its own, since the whole has no fault.
  have faultless : fault? rest.toList = none := by
    apply faultless_rest
    rw [← String.toList_append, ← h]
    exact branch.faultless
  refine ⟨⟨rest, faultless⟩, rfl, ?_⟩
  rw [ofName_eq_ok_iff, h, stripHeads_append]

/-- The short name of an accepted name has the prefix in front just if the name has it twice. -/
theorem heads_prefix_short_iff (accepted : ofName name = .ok branch) :
    heads.toList <+: branch.short.toList ↔ (heads ++ heads).toList <+: name.toList := by
  rw [String.toList_append]
  rcases stripHeads_eq_iff.1 (ofName_eq_ok_iff.1 accepted).symm with rfl | ⟨single, rfl⟩
  · rw [String.toList_append, List.prefix_append_right_inj]
  · exact iff_of_false single fun double => single ((List.prefix_append _ _).trans double)

/-- The full name of a branch names it.  Its short name does, and it is read as it was written, just
    if the name that it was made from did not begin with two prefixes.  If it did, then both give
    the branch whose name is what follows them. -/
theorem printed_names (accepted : ofName name = .ok branch) :
    ofName branch.full = .ok branch ∧
    (ofName branch.short = .ok branch ↔ ¬ (heads ++ heads).toList <+: name.toList) ∧
    (decode? branch.encode = some branch ↔ ¬ (heads ++ heads).toList <+: name.toList) ∧
    ∀ rest : String, name = heads ++ heads ++ rest → ∃ other : Branch, other.short = rest ∧
      ofName branch.short = .ok other ∧ decode? branch.encode = some other := by
  rw [decode?_encode_eq_iff, ofName_short_eq_iff, heads_prefix_short_iff accepted]
  refine ⟨ofName_full branch, Iff.rfl, Iff.rfl, ?_⟩
  rintro rest rfl
  -- One prefix was taken away, and the other is still there.
  have short : branch.short = heads ++ rest := by
    rw [ofName_eq_ok_iff.1 accepted, String.append_assoc, stripHeads_append]
  obtain ⟨other, other_short, named⟩ := exists_ofName_short short
  refine ⟨other, other_short, named, ?_⟩
  rw [decode?_encode, named]
  rfl

/-- A name with one prefix, and one with two. -/
theorem printed_names_one_and_two :
    (∃ branch, ofName "refs/heads/main" = .ok branch ∧ branch.short = "main" ∧
      ofName branch.full = .ok branch ∧ decode? branch.encode = some branch) ∧
    ∃ branch other, ofName "refs/heads/refs/heads/main" = .ok branch ∧
      branch.short = "refs/heads/main" ∧ other.short = "main" ∧
      ofName "refs/heads/main" = .ok other := by
  constructor
  · have accepted : ofName "refs/heads/main" = .ok ⟨"main", by decide⟩ := rfl
    obtain ⟨full, -, written, -⟩ := printed_names accepted
    exact ⟨_, accepted, rfl, full, written.2 (by decide)⟩
  · have accepted : ofName "refs/heads/refs/heads/main" = .ok ⟨"refs/heads/main", by decide⟩ := rfl
    obtain ⟨-, -, -, nested⟩ := printed_names accepted
    obtain ⟨other, other_short, named, -⟩ := nested "main" rfl
    exact ⟨_, other, accepted, rfl, other_short, named⟩

/-- The branch that is made from a name with two prefixes is not the one that its short name names,
    nor the one that is read from what it is written as. -/
theorem doubly_named_branch_lost :
    ∃ branch other, ofName "refs/heads/refs/heads/x" = .ok branch ∧
      ofName branch.short = .ok other ∧ decode? branch.encode = some other ∧ other ≠ branch := by
  have named : ofName "refs/heads/x" = .ok ⟨"x", by decide⟩ := rfl
  refine ⟨⟨"refs/heads/x", by decide⟩, ⟨"x", by decide⟩, rfl, named, ?_, by decide⟩
  rw [decode?_encode, named]
  rfl

end LargeFiles.Branch
