/-!
# Sorted maps

Finite maps that keep their entries in ascending order of the keys: request headers, configured
users, transfer links, the lock table.  The proof-facing view is the list `toList`, which is
strictly ascending; the bridge lemmas

* `get?_insert_self`, `get?_insert_of_ne`   an insertion is seen at its own key and no other;
* `get?_erase_self`, `get?_erase_of_ne`     the same for an erasure;
* `mem_toList_iff`                          the view holds exactly what look-up finds;
* `nodup_keys`                              no key has two entries

let users reason about a map as a function from keys to values.
-/

namespace LargeFiles

/-- A finite map whose entries are in strictly ascending order of their keys. -/
structure SortedMap (κ : Type) (ν : Type) [Ord κ] where
  toList : List (κ × ν)
  ascending : toList.Pairwise fun a b => compare a.1 b.1 = .lt

namespace SortedMap

variable {κ ν : Type} [Ord κ]

/-- The map without entries. -/
def empty : SortedMap κ ν := ⟨[], .nil⟩

instance : Inhabited (SortedMap κ ν) := ⟨empty⟩

@[ext] theorem ext {m n : SortedMap κ ν} (h : m.toList = n.toList) : m = n := by
  cases m; cases n; cases h; rfl

instance [DecidableEq κ] [DecidableEq ν] : DecidableEq (SortedMap κ ν) := fun m n =>
  decidable_of_iff (m.toList = n.toList) ⟨ext, fun h => h ▸ rfl⟩

/-- The number of entries. -/
def size (m : SortedMap κ ν) : Nat := m.toList.length

/-- Whether there is no entry. -/
def isEmpty (m : SortedMap κ ν) : Bool := m.toList.isEmpty

/-- The keys, in ascending order. -/
def keys (m : SortedMap κ ν) : List κ := m.toList.map (·.1)

/-- The values, in ascending order of their keys. -/
def values (m : SortedMap κ ν) : List ν := m.toList.map (·.2)

/-- The value under a key. -/
def get? (m : SortedMap κ ν) (key : κ) : Option ν :=
  (m.toList.find? fun entry => compare key entry.1 == .eq).map (·.2)

/-- Whether a key has a value. -/
def contains (m : SortedMap κ ν) (key : κ) : Bool := (m.get? key).isSome

/-! ### Insertion -/

/-- Puts an entry in its place, over the one that has its key. -/
def insertEntry (key : κ) (value : ν) : List (κ × ν) → List (κ × ν)
  | [] => [(key, value)]
  | entry :: rest =>
    match compare key entry.1 with
    | .lt => (key, value) :: entry :: rest
    | .eq => (key, value) :: rest
    | .gt => entry :: insertEntry key value rest

theorem mem_insertEntry {key : κ} {value : ν} {x : κ × ν} {l : List (κ × ν)}
    (h : x ∈ insertEntry key value l) : x = (key, value) ∨ x ∈ l := by
  induction l with
  | nil => simpa [insertEntry] using h
  | cons entry rest ih =>
    rw [insertEntry] at h
    split at h <;> grind

theorem pairwise_insertEntry [Std.TransOrd κ] (key : κ) (value : ν) {l : List (κ × ν)}
    (h : l.Pairwise fun a b => compare a.1 b.1 = .lt) :
    (insertEntry key value l).Pairwise fun a b => compare a.1 b.1 = .lt := by
  induction l with
  | nil => simp [insertEntry]
  | cons entry rest ih =>
    rw [List.pairwise_cons] at h
    rw [insertEntry]
    split
    · next lt =>
      refine .cons (fun x hx => ?_) (.cons h.1 h.2)
      rcases List.mem_cons.1 hx with rfl | hx
      · exact lt
      · exact Std.TransCmp.lt_trans lt (h.1 x hx)
    · next eq =>
      exact .cons (fun x hx => Std.TransCmp.lt_of_eq_of_lt eq (h.1 x hx)) h.2
    · next gt =>
      refine .cons (fun x hx => ?_) (ih h.2)
      rcases mem_insertEntry hx with rfl | hx
      · exact Std.OrientedCmp.lt_of_gt gt
      · exact h.1 x hx

/-- Sets the value under a key. -/
def insert [Std.TransOrd κ] (m : SortedMap κ ν) (key : κ) (value : ν) : SortedMap κ ν :=
  ⟨insertEntry key value m.toList, pairwise_insertEntry key value m.ascending⟩

/-- The map of some entries; of entries with one key the last counts. -/
def ofList [Std.TransOrd κ] (entries : List (κ × ν)) : SortedMap κ ν :=
  entries.foldl (fun m entry => m.insert entry.1 entry.2) empty

/-- Removes the entry under a key. -/
def erase (m : SortedMap κ ν) (key : κ) : SortedMap κ ν :=
  ⟨m.toList.filter fun entry => compare key entry.1 != .eq, m.ascending.filter _⟩

/-! ### Look-up -/

theorem find?_insertEntry_self [Std.LawfulEqOrd κ] (key : κ) (value : ν) (l : List (κ × ν)) :
    (insertEntry key value l).find? (fun entry => compare key entry.1 == .eq) =
      some (key, value) := by
  induction l with
  | nil => simp [insertEntry]
  | cons entry rest ih =>
    rw [insertEntry]
    split
    · simp
    · simp
    · next gt => simp [gt, ih]

theorem find?_insertEntry_of_ne [Std.LawfulEqOrd κ] {key other : κ} (h : other ≠ key) (value : ν)
    (l : List (κ × ν)) :
    (insertEntry key value l).find? (fun entry => compare other entry.1 == .eq) =
      l.find? fun entry => compare other entry.1 == .eq := by
  induction l with
  | nil => simp [insertEntry, h]
  | cons entry rest ih =>
    rw [insertEntry]
    split
    · simp [List.find?_cons, h]
    · next eq =>
      have : key = entry.1 := by simpa using eq
      subst this
      simp [h]
    · simp [List.find?_cons, ih]

@[simp] theorem get?_empty (key : κ) : (empty : SortedMap κ ν).get? key = none := rfl

@[simp] theorem get?_insert_self [Std.TransOrd κ] [Std.LawfulEqOrd κ] (m : SortedMap κ ν) (key : κ)
    (value : ν) :
    (m.insert key value).get? key = some value := by
  simp [get?, insert, find?_insertEntry_self]

theorem get?_insert_of_ne [Std.TransOrd κ] [Std.LawfulEqOrd κ] (m : SortedMap κ ν)
    {key other : κ} (h : other ≠ key) (value : ν) :
    (m.insert key value).get? other = m.get? other := by
  simp [get?, insert, find?_insertEntry_of_ne h]

@[simp] theorem get?_erase_self [Std.LawfulEqOrd κ] (m : SortedMap κ ν) (key : κ) :
    (m.erase key).get? key = none := by
  simp [get?, erase]

theorem get?_erase_of_ne [Std.LawfulEqOrd κ] (m : SortedMap κ ν) {key other : κ}
    (h : other ≠ key) :
    (m.erase key).get? other = m.get? other := by
  simp only [get?, erase, List.find?_filter]
  congr 2
  funext entry
  by_cases eq : other = entry.1
  · subst eq
    simp [Ne.symm h]
  · simp [eq]

/-- The view holds exactly what look-up finds. -/
theorem mem_toList_iff [Std.LawfulEqOrd κ] {m : SortedMap κ ν} {key : κ} {value : ν} :
    (key, value) ∈ m.toList ↔ m.get? key = some value := by
  obtain ⟨l, sorted⟩ := m
  simp only [get?]
  induction l with
  | nil => simp
  | cons entry rest ih =>
    rw [List.pairwise_cons] at sorted
    have ih := ih sorted.2
    by_cases eq : key = entry.1
    · subst eq
      have absent : (entry.1, value) ∉ rest := fun mem => by
        have := sorted.1 _ mem
        simp at this
      simp only [List.mem_cons, absent, or_false, List.find?_cons]
      simp [Prod.ext_iff, eq_comm]
    · have ne : (key, value) ≠ entry := fun h => eq (by rw [← h])
      simp [eq, ne, ih]

/-- No key has two entries. -/
theorem nodup_keys [Std.ReflOrd κ] (m : SortedMap κ ν) : m.keys.Nodup := by
  rw [keys, List.Nodup, List.pairwise_map]
  refine m.ascending.imp fun {a b} lt same => ?_
  rw [same, Std.ReflOrd.compare_self] at lt
  cases lt

end SortedMap

end LargeFiles
