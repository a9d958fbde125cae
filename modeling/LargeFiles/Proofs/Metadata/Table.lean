import LargeFiles.Metadata.Table
import Mathlib.Data.Set.Card

/-!
# Metadata tables as maps

The entries of the tables are the pairs that look-up finds, and the number of entries is the
number of keys that have a value.

* `get?_eq_some_iff`          look-up finds exactly the entries;
* `encard_keys`               the keys with a value are as many as the entries;
* `get?_putIfAbsent_of_some`  a value stays when something is put;
* `getText_eq_ok_iff`, `getNumber_eq_ok_iff`   typed look-up.
-/

namespace LargeFiles.Metadata

/-- Look-up finds exactly the entries. -/
theorem get?_eq_some_iff {m : Metadata} {key : Key} {value : Value} :
    m.get? key = some value ↔ (key, value) ∈ m.entries := by
  obtain ⟨entries, distinct⟩ := m
  simp only [get?]
  -- Since no key is there twice, the first entry with a key is the only one.
  induction entries with
  | nil => simp
  | cons entry rest ih =>
    obtain ⟨key', value'⟩ := entry
    rw [List.map_cons, List.nodup_cons] at distinct
    rw [List.lookup_cons, List.mem_cons, Prod.mk.injEq]
    by_cases same : key = key'
    · subst same
      -- The key of the first entry does not come again.
      have absent : (key, value) ∉ rest := fun mem =>
        distinct.1 (List.mem_map.2 ⟨_, mem, rfl⟩)
      simp [absent, eq_comm]
    · have other : (key == key') = false := by simpa using same
      simp [other, same, ih distinct.2]

/-- A key has a value if it is the key of an entry. -/
theorem get?_ne_none_iff {m : Metadata} {key : Key} :
    m.get? key ≠ none ↔ key ∈ m.entries.map (·.1) := by
  simp only [ne_eq, Option.ne_none_iff_exists', get?_eq_some_iff, List.mem_map, Prod.exists,
    exists_and_right, exists_eq_right]

/-- The keys with a value are as many as the entries. -/
theorem encard_keys (m : Metadata) : {key | m.get? key ≠ none}.encard = m.size := by
  have keys : {key | m.get? key ≠ none} = ((m.entries.map (·.1)).toFinset : Set Key) := by
    ext key
    simp only [Set.mem_ofPred_eq, get?_ne_none_iff, List.coe_toFinset]
  rw [keys, Set.encard_coe_eq_coe_finsetCard, List.toFinset_card_of_nodup m.distinct,
    List.length_map, size]

@[simp] theorem entries_add (m : Metadata) (key : Key) (value : Value)
    (absent : m.get? key = none) : (m.add key value absent).entries = m.entries ++ [(key, value)] :=
  rfl

/-- A put under a key that has a value changes nothing. -/
theorem putIfAbsent_of_some {m : Metadata} {key : Key} {previous : Value}
    (h : m.get? key = some previous) (value : Value) :
    m.putIfAbsent key value = (some previous, m) := by
  unfold putIfAbsent
  split <;> simp_all

/-- A put under a key that has none adds the value. -/
theorem putIfAbsent_of_none {m : Metadata} {key : Key} (h : m.get? key = none) (value : Value) :
    m.putIfAbsent key value = (none, m.add key value h) := by
  unfold putIfAbsent
  split <;> simp_all

/-- A value stays, whatever is put under its key or another. -/
theorem get?_putIfAbsent_of_some {m : Metadata} {key : Key} {value : Value}
    (found : m.get? key = some value) (key' : Key) (value' : Value) :
    (m.putIfAbsent key' value').2.get? key = some value := by
  by_cases same : key = key'
  · subst same
    rw [putIfAbsent_of_some found]
    exact found
  · rw [get?_putIfAbsent_of_ne _ same, found]

/-! ### Typed look-up -/

/-- A text is given if there is one, and none if there is no value. -/
theorem getText_eq_ok_iff {m : Metadata} {key : Key} {known : Option String} :
    m.getText key = .ok known ↔ m.get? key = known.map .text := by
  rw [getText]
  cases known <;> split <;> simp_all

/-- A number is given if there is one, and none if there is no value. -/
theorem getNumber_eq_ok_iff {m : Metadata} {key : Key} {known : Option UInt64} :
    m.getNumber key = .ok known ↔ m.get? key = known.map .number := by
  rw [getNumber]
  cases known <;> split <;> simp_all

end LargeFiles.Metadata
