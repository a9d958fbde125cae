import Mathlib.Data.List.Nodup
import Mathlib.Data.List.TakeWhile

/-!
# Lists

Facts about lists that are useful beyond the module that they were first needed in: where taking
and dropping stop, parts with separators between them, and elements that are the only ones of their
kind.
-/

namespace LargeFiles

variable {α β : Type} {p : α → Bool}

/-! ### Taking and dropping -/

/-- What is taken of a list ends where something follows that is not to be taken. -/
theorem takeWhile_append_of_head? (l : List α) {rest : List α}
    (stop : ∀ a ∈ rest.head?, p a = false) : (l ++ rest).takeWhile p = l.takeWhile p := by
  -- If all of the front is taken, then nothing of the rest is.
  have nothing : rest.takeWhile p = [] := by
    cases rest with
    | nil => rfl
    | cons a rest => exact List.takeWhile_cons_of_neg (by simp [stop a rfl])
  rw [List.takeWhile_append]
  split
  · next all =>
    rw [nothing, List.append_nil]
    exact (List.takeWhile_prefix p).eq_of_length all |>.symm
  · rfl

/-- What is left of a list starts as before where something follows that is not to be dropped. -/
theorem dropWhile_append_of_head? (l : List α) {rest : List α}
    (stop : ∀ a ∈ rest.head?, p a = false) :
    (l ++ rest).dropWhile p = l.dropWhile p ++ rest := by
  -- The rest begins with an element that is kept.
  have nothing : rest.dropWhile p = rest := by
    cases rest with
    | nil => rfl
    | cons a rest => exact List.dropWhile_cons_of_neg (by simp [stop a rfl])
  rw [List.dropWhile_append]
  split
  · next all => rw [nothing, List.isEmpty_iff.1 all, List.nil_append]
  · rfl

/-- Nothing is dropped beyond an element that stays. -/
theorem dropWhile_append_cons_of_neg {a : α} (stop : p a = false) (l rest : List α) :
    (l ++ a :: rest).dropWhile p = l.dropWhile p ++ a :: rest := by
  apply dropWhile_append_of_head?
  rintro _ ⟨⟩
  exact stop

/-- What is taken of a list ends in it, if something is left of it. -/
theorem takeWhile_append_of_dropWhile_ne_nil {l : List α} (left : l.dropWhile p ≠ [])
    (rest : List α) : (l ++ rest).takeWhile p = l.takeWhile p := by
  rw [List.takeWhile_append, if_neg]
  intro all
  have whole := (List.takeWhile_prefix p).eq_of_length all
  exact left (List.dropWhile_eq_nil_iff.2 (List.takeWhile_eq_self_iff.1 whole))

/-- What stops the dropping is left. -/
theorem mem_dropWhile_of_neg {l : List α} {a : α} (mem : a ∈ l) (stops : p a = false) :
    a ∈ l.dropWhile p := by
  rw [← List.takeWhile_append_dropWhile (p := p) (l := l)] at mem
  refine (List.mem_append.1 mem).resolve_left fun taken => ?_
  cases stops.symm.trans (List.mem_takeWhile_imp taken)

/-- The first element of another kind parts a list. -/
theorem takeWhile_dropWhile_of_parts {l front back : List α} {a : α}
    (parts : l = front ++ a :: back) (taken : ∀ b ∈ front, p b = true) (stop : p a = false) :
    l.takeWhile p = front ∧ l.dropWhile p = a :: back := by
  rw [parts, List.takeWhile_append_of_pos taken, List.dropWhile_append_of_pos taken]
  simp [stop]

/-! ### Separators -/

/-- A part at the end comes after a separator, if there are parts before it. -/
theorem intercalate_concat {sep part : List α} {parts : List (List α)} (some : parts ≠ []) :
    sep.intercalate (parts ++ [part]) = sep.intercalate parts ++ (sep ++ part) := by
  induction parts with
  | nil => exact absurd rfl some
  | cons first rest ih =>
    -- The separator comes before the new part, which is not the first one.
    cases rest with
    | nil => simp [List.intercalate_cons_cons]
    | cons second rest =>
      have later := ih (List.cons_ne_nil _ _)
      rw [List.cons_append] at later
      rw [List.cons_append, List.cons_append, List.intercalate_cons_cons, later,
        List.intercalate_cons_cons]
      simp only [List.append_assoc]

/-! ### Elements that are the only ones of their kind -/

/-- A search for an element that is the only one of its kind. -/
theorem find?_of_unique {l : List α} {a : α} (mem : a ∈ l) (fits : p a = true)
    (unique : ∀ b ∈ l, p b = true → b = a) : l.find? p = some a := by
  cases found : l.find? p with
  | none => exact absurd fits (List.find?_eq_none.1 found a mem)
  | some b => rw [unique b (List.mem_of_find?_eq_some found) (List.find?_some found)]

/-- Without duplicates nothing comes twice. -/
theorem notMem_map_of_nodup {f : α → β} {before rest : List α} {a : α}
    (distinct : ((before ++ a :: rest).map f).Nodup) : f a ∉ rest.map f := by
  rw [List.map_append, List.map_cons, List.nodup_append] at distinct
  exact (List.nodup_cons.1 distinct.2.1).1

end LargeFiles
