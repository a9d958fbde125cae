import LargeFiles.StoreError

/-!
# Metadata tables

Small values kept under a key in a named table.  A value is never overwritten: the first one put
under a key stays, and every later put is told what is there.  The proof-facing view of a
`Metadata` is the function `get?`, and the bridge lemmas are `get?_putIfAbsent_self` and
`get?_putIfAbsent_of_ne`.
-/

namespace LargeFiles

namespace Metadata

/-- A value of a metadata table. -/
inductive Value
  | text (value : String)
  | number (value : UInt64)
  deriving DecidableEq, Repr

/-- Where a value is kept: a table and a key in it. -/
structure Key where
  table : String
  key : String
  deriving DecidableEq, Repr

end Metadata

/-- The entries of all tables, in the order in which they were put, each key once. -/
structure Metadata where
  entries : List (Metadata.Key × Metadata.Value)
  distinct : (entries.map (·.1)).Nodup

namespace Metadata

@[ext] theorem ext {m n : Metadata} (h : m.entries = n.entries) : m = n := by
  cases m; cases n; cases h; rfl

/-- Tables without entries. -/
def empty : Metadata := ⟨[], .nil⟩

instance : Inhabited Metadata := ⟨empty⟩

/-- The value under a key. -/
def get? (m : Metadata) (key : Key) : Option Value := m.entries.lookup key

/-- The number of entries of all tables. -/
def size (m : Metadata) : Nat := m.entries.length

/-- The number of entries of one table. -/
def tableSize (m : Metadata) (table : String) : Nat :=
  (m.entries.filter (·.1.table == table)).length

theorem notMem_of_get?_eq_none {m : Metadata} {key : Key} (h : m.get? key = none) :
    key ∉ m.entries.map (·.1) := by
  simp only [get?, List.lookup_eq_none_iff] at h
  simp only [List.mem_map, not_exists, not_and]
  intro entry mem eq
  simpa [eq] using h entry mem

/-- Adds an entry under a key that has none. -/
def add (m : Metadata) (key : Key) (value : Value) (absent : m.get? key = none) : Metadata :=
  ⟨m.entries ++ [(key, value)], by
    have := notMem_of_get?_eq_none absent
    rw [List.map_append, List.nodup_append]
    exact ⟨m.distinct, by simp, fun a ha b hb => by
      simp only [List.map_cons, List.map_nil, List.mem_singleton] at hb
      rintro rfl
      exact this (hb ▸ ha)⟩⟩

/-- Puts a value under a key that has none, and tells what the key had. -/
def putIfAbsent (m : Metadata) (key : Key) (value : Value) : Option Value × Metadata :=
  match h : m.get? key with
  | some previous => (some previous, m)
  | none => (none, m.add key value h)

/-! ### Typed look-up -/

/-- The text under a key; it is an error if there is a number. -/
def getText (m : Metadata) (key : Key) : Except StoreError (Option String) :=
  match m.get? key with
  | none => .ok none
  | some (.text s) => .ok (some s)
  | some (.number _) => .error (.typeMismatch key.table key.key "string")

/-- The number under a key; it is an error if there is a text. -/
def getNumber (m : Metadata) (key : Key) : Except StoreError (Option UInt64) :=
  match m.get? key with
  | none => .ok none
  | some (.number n) => .ok (some n)
  | some (.text _) => .error (.typeMismatch key.table key.key "u64")

/-! ### The view -/

@[simp] theorem get?_empty (key : Key) : empty.get? key = none := rfl

theorem get?_add (m : Metadata) (key other : Key) (value : Value) (absent : m.get? key = none) :
    (m.add key value absent).get? other = if other = key then some value else m.get? other := by
  simp only [get?, add, List.lookup_append]
  by_cases eq : other = key
  · subst eq
    simp only [get?] at absent
    simp [absent]
  · have : (other == key) = false := by simpa using eq
    simp [eq, List.lookup_cons, this]

/-- After a put the key has what it had, or else the new value. -/
theorem get?_putIfAbsent_self (m : Metadata) (key : Key) (value : Value) :
    (m.putIfAbsent key value).2.get? key = some ((m.get? key).getD value) := by
  unfold putIfAbsent
  split
  · next h => simp [h]
  · next h => simp [get?_add, h]

/-- A put is not seen at another key. -/
theorem get?_putIfAbsent_of_ne (m : Metadata) {key other : Key} (ne : other ≠ key)
    (value : Value) : (m.putIfAbsent key value).2.get? other = m.get? other := by
  unfold putIfAbsent
  split
  · rfl
  · simp [get?_add, ne]

end Metadata

end LargeFiles
