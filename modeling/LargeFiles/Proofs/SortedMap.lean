import LargeFiles.SortedMap
import Mathlib.Data.List.Forall2

/-!
# Maps side by side

The entries of a map are in the order of its keys.  So two maps that give related values to every
key of a kind have related lists of entries of this kind, and a map can be put together again from
the list of its entries.

* `forall₂_filter_of_get?`   from look-up to lists of entries;
* `ext_get?`                 maps with the same look-ups are the same;
* `ofList_toList`            a map is the map of its entries.
-/

namespace LargeFiles.SortedMap

variable {κ ν μ : Type} [Ord κ] [Std.TransOrd κ]

/-! ### Lists in ascending order -/

/-- A smaller key is another key. -/
theorem ne_of_lt {a b : κ} (h : compare a b = .lt) : a ≠ b := by
  rintro rfl
  rw [Std.ReflOrd.compare_self] at h
  cases h

/-- Lists of entries in ascending order whose keys are the same have them in the same places. -/
theorem forall₂_of_mem {R : ν → μ → Prop} {l : List (κ × ν)} {l' : List (κ × μ)}
    (ascending : l.Pairwise fun a b => compare a.1 b.1 = .lt)
    (ascending' : l'.Pairwise fun a b => compare a.1 b.1 = .lt)
    (left : ∀ a ∈ l, ∃ b ∈ l', a.1 = b.1 ∧ R a.2 b.2) (right : ∀ b ∈ l', ∃ a ∈ l, a.1 = b.1) :
    List.Forall₂ (fun a b => a.1 = b.1 ∧ R a.2 b.2) l l' := by
  induction l generalizing l' with
  | nil =>
    cases l' with
    | nil => exact .nil
    | cons b _ => obtain ⟨_, mem, -⟩ := right b List.mem_cons_self; cases mem
  | cons a rest ih =>
    cases l' with
    | nil => obtain ⟨_, mem, -⟩ := left a List.mem_cons_self; cases mem
    | cons b rest' =>
      rw [List.pairwise_cons] at ascending ascending'
      -- The first keys are equal: each is the least of the same keys.
      have first : a.1 = b.1 ∧ R a.2 b.2 := by
        obtain ⟨c, mem, same, related⟩ := left a List.mem_cons_self
        obtain rfl | later := List.mem_cons.1 mem
        · exact ⟨same, related⟩
        · have below : compare b.1 a.1 = .lt := same ▸ ascending'.1 c later
          obtain ⟨d, mem', same'⟩ := right b List.mem_cons_self
          obtain rfl | later' := List.mem_cons.1 mem'
          · exact absurd same'.symm (ne_of_lt below)
          · exact absurd same' (ne_of_lt (Std.TransCmp.lt_trans below (ascending.1 d later'))).symm
      -- A key of the rest is greater than the first one, so its partner is in the rest too.
      refine .cons first (ih ascending.2 ascending'.2 (fun c mem => ?_) fun c mem => ?_)
      · obtain ⟨d, mem', same, related⟩ := left c (List.mem_cons_of_mem _ mem)
        obtain rfl | mem' := List.mem_cons.1 mem'
        · exact absurd (first.1.trans same.symm) (ne_of_lt (ascending.1 c mem))
        · exact ⟨d, mem', same, related⟩
      · obtain ⟨d, mem', same⟩ := right c (List.mem_cons_of_mem _ mem)
        obtain rfl | mem' := List.mem_cons.1 mem'
        · exact absurd (first.1.symm.trans same) (ne_of_lt (ascending'.1 c mem))
        · exact ⟨d, mem', same⟩

/-- Two maps that give related values to all keys of a kind have related entries of this kind. -/
theorem forall₂_filter_of_get? [Std.LawfulEqOrd κ] {R : ν → μ → Prop} {m : SortedMap κ ν}
    {n : SortedMap κ μ} {p : κ → Bool}
    (h : ∀ key, p key = true → Option.Rel R (m.get? key) (n.get? key)) :
    List.Forall₂ (fun a b => a.1 = b.1 ∧ R a.2 b.2) (m.toList.filter (p ·.1))
      (n.toList.filter (p ·.1)) := by
  -- Both lists ascend, so they are equal key by key if they have the same keys.
  refine forall₂_of_mem (m.ascending.filter _) (n.ascending.filter _) ?_ ?_
  · rintro ⟨key, value⟩ mem
    rw [List.mem_filter, mem_toList_iff] at mem
    have related := h key mem.2
    rw [mem.1] at related
    cases found : n.get? key with
    | none => rw [found] at related; cases related
    | some other =>
      rw [found] at related
      cases related with
      | some related => exact ⟨(key, other), List.mem_filter.2 ⟨mem_toList_iff.2 found, mem.2⟩,
          rfl, related⟩
  · rintro ⟨key, value⟩ mem
    rw [List.mem_filter, mem_toList_iff] at mem
    have related := h key mem.2
    rw [mem.1] at related
    cases found : m.get? key with
    | none => rw [found] at related; cases related
    | some other => exact ⟨(key, other), List.mem_filter.2 ⟨mem_toList_iff.2 found, mem.2⟩, rfl⟩

/-- A map is determined by what look-up finds. -/
theorem ext_get? [Std.LawfulEqOrd κ] {m n : SortedMap κ ν}
    (h : ∀ key, m.get? key = n.get? key) : m = n := by
  have related (key : κ) : Option.Rel Eq (m.get? key) (n.get? key) := by
    rw [h key]
    cases n.get? key with
    | none => exact .none
    | some value => exact .some rfl
  have entries := forall₂_filter_of_get? (p := fun _ => true) fun key _ => related key
  have same := entries.imp fun _ _ entry => Prod.ext entry.1 entry.2
  rw [List.forall₂_eq_eq_eq, List.filter_true, List.filter_true] at same
  exact ext same

/-- An insertion does not depend on what was under its key. -/
theorem insert_erase [Std.LawfulEqOrd κ] (m : SortedMap κ ν) (key : κ) (value : ν) :
    (m.erase key).insert key value = m.insert key value := by
  refine ext_get? fun other => ?_
  by_cases same : other = key
  · rw [same, get?_insert_self, get?_insert_self]
  · rw [get?_insert_of_ne _ same, get?_insert_of_ne _ same, get?_erase_of_ne _ same]

/-! ### Maps from lists -/

/-- A key above all others is put at the end. -/
theorem insertEntry_of_gt {key : κ} {value : ν} {l : List (κ × ν)}
    (above : ∀ entry ∈ l, compare entry.1 key = .lt) :
    insertEntry key value l = l ++ [(key, value)] := by
  induction l with
  | nil => rfl
  | cons entry rest ih =>
    have gt : compare key entry.1 = .gt :=
      Std.OrientedCmp.gt_of_lt (above entry List.mem_cons_self)
    simp only [insertEntry, gt, ih fun other mem => above other (List.mem_cons_of_mem _ mem),
      List.cons_append]

/-- Entries that ascend are inserted at the end, one after the other. -/
theorem toList_foldl_insert {entries : List (κ × ν)} {m : SortedMap κ ν}
    (ascending : (m.toList ++ entries).Pairwise fun a b => compare a.1 b.1 = .lt) :
    (entries.foldl (fun m entry => m.insert entry.1 entry.2) m).toList = m.toList ++ entries := by
  induction entries generalizing m with
  | nil => simp
  | cons entry rest ih =>
    have last : (m.insert entry.1 entry.2).toList = m.toList ++ [entry] :=
      insertEntry_of_gt fun other mem =>
        (List.pairwise_append.1 ascending).2.2 other mem entry List.mem_cons_self
    have grown : m.toList ++ [entry] ++ rest = m.toList ++ entry :: rest := by simp
    rw [List.foldl_cons, ih (by rwa [last, grown]), last, grown]

omit [Std.TransOrd κ] in
/-- Only the empty map is empty. -/
theorem eq_empty_of_isEmpty {m : SortedMap κ ν} (h : m.isEmpty = true) : m = empty :=
  ext (List.isEmpty_iff.1 h)

/-- A map is the map of its entries. -/
theorem ofList_toList (m : SortedMap κ ν) : ofList m.toList = m :=
  ext ((toList_foldl_insert (m := empty) m.ascending).trans (List.nil_append _))

end LargeFiles.SortedMap
