import LargeFiles.Metadata.Journal

/-!
# Metadata stores

Metadata is kept in memory only or in a journal.  Whoever uses a `Metadata.Store` cannot tell
which, but for what survives.
-/

namespace LargeFiles.Metadata

/-- A store of either kind. -/
inductive Store
  | memory (tables : Metadata)
  | journal (j : Journal)

namespace Store

/-- What the store answers from. -/
def tables : Store → Metadata
  | memory tables => tables
  | journal j => j.tables

/-- Puts a value under a key that has none, and tells what the key had. -/
def putIfAbsent (store : Store) (key : Key) (value : Value) : Option Value × Store :=
  match store with
  | memory tables => let (previous, tables) := tables.putIfAbsent key value
                     (previous, memory tables)
  | journal j => let (previous, j) := j.putIfAbsent key value
                 (previous, journal j)

end Store

end LargeFiles.Metadata
