import LargeFiles.Proofs.Metadata.Refinement

/-!
# What becomes of a metadata store

The only things that ever happen to a metadata store are puts, and that it is closed and opened
again.  A store that is durable when it starts, and whose puts fit into records, goes on with all
that it holds, and holds nothing new but what was put in.

* `Becomes`                    the stores that a store can become;
* `Becomes.durable`            each of them is durable;
* `Becomes.get?_of_some`       a value stays;
* `Becomes.get?`               a new value was put in;
* `get?_reopen_putIfAbsent`    what is found when a store is opened again is found then too if
                               something was put in before, whether it fits or not.
-/

namespace LargeFiles.Metadata.Store

/-! ### Opening again -/

/-- A store that was opened again can be opened once more without any loss. -/
theorem durable_reopen (store : Store) : store.reopen.Durable := by
  cases store with
  | memory tables => exact durable_memory tables
  | journal j => exact durable_journal.2 (Journal.settled_openFile j.file)

/-- What is found when a store is opened again is found after any put too. -/
theorem get?_reopen_putIfAbsent {store : Store} {key : Key} {value : Value}
    (found : store.reopen.tables.get? key = some value) (key' : Key) (value' : Value) :
    (store.putIfAbsent key' value').2.reopen.tables.get? key = some value := by
  cases store with
  | memory tables => exact get?_putIfAbsent_of_some found key' value'
  | journal j =>
    show (j.putIfAbsent key' value').2.reopen.tables.get? key = some value
    cases present : j.tables.get? key' with
    | some previous =>
      rw [Journal.putIfAbsent_of_some present]
      exact found
    | none =>
      -- The new record may put the scan out of step, but only from its own place on.
      rw [Journal.putIfAbsent_of_none present]
      exact Journal.get?_openFile_append found _

/-! ### Histories -/

/-- The stores that a store becomes by puts of entries that are allowed, and by being closed and
    opened again. -/
inductive Becomes (may : Entry → Prop) (store : Store) : Store → Prop
  | refl : Becomes may store store
  | put {later : Store} {key : Key} {value : Value} (before : Becomes may store later)
      (allowed : may ⟨key, value⟩) : Becomes may store (later.putIfAbsent key value).2
  | reopen {later : Store} (before : Becomes may store later) : Becomes may store later.reopen

namespace Becomes

variable {may may' : Entry → Prop} {store later last : Store} {key : Key} {value : Value}

/-- A store that becomes another by some entries does so by more. -/
theorem mono (h : Becomes may store later) (more : ∀ e, may e → may' e) :
    Becomes may' store later := by
  induction h with
  | refl => exact .refl
  | put before allowed ih => exact ih.put (more _ allowed)
  | reopen before ih => exact ih.reopen

/-- Histories are put one after the other. -/
theorem trans (h : Becomes may store later) (next : Becomes may later last) :
    Becomes may store last := by
  induction next with
  | refl => exact h
  | put before allowed ih => exact ih.put allowed
  | reopen before ih => exact ih.reopen

/-- Puts that fit keep a store durable. -/
theorem durable (h : Becomes may store later) (lasting : store.Durable)
    (fit : ∀ e, may e → e.Fits) : later.Durable := by
  induction h with
  | refl => exact lasting
  | put before allowed ih => exact ih.putIfAbsent (fit _ allowed)
  | @reopen later before ih =>
    have same : later.reopen = later := ih
    rw [same]
    exact ih

/-- A value that a key has stays. -/
theorem get?_of_some (h : Becomes may store later) (lasting : store.Durable)
    (fit : ∀ e, may e → e.Fits) (found : store.tables.get? key = some value) :
    later.tables.get? key = some value := by
  induction h with
  | refl => exact found
  | @put later key' value' before allowed ih =>
    rw [tables_putIfAbsent]
    exact get?_putIfAbsent_of_some ih key' value'
  | @reopen later before ih =>
    have same : later.reopen = later := before.durable lasting fit
    rw [same, ih]

/-- A value that a key has was there before, or was put in. -/
theorem get? (h : Becomes may store later) (lasting : store.Durable)
    (fit : ∀ e, may e → e.Fits) (found : later.tables.get? key = some value) :
    store.tables.get? key = some value ∨ may ⟨key, value⟩ := by
  -- The last put either found a value under its key, which it left, or put in one.
  induction h with
  | refl => exact .inl found
  | @put later key' value' before allowed ih =>
    rw [tables_putIfAbsent] at found
    by_cases same : key = key'
    · subst same
      rw [Metadata.get?_putIfAbsent_self] at found
      cases earlier : later.tables.get? key with
      | some previous =>
        rw [earlier] at found
        cases found
        exact ih earlier
      | none =>
        rw [earlier] at found
        cases found
        exact .inr allowed
    · rw [Metadata.get?_putIfAbsent_of_ne _ same] at found
      exact ih found
  | @reopen later before ih =>
    -- What was put fits, so reopening brings back all of it and nothing else.
    have same : later.reopen = later := before.durable lasting fit
    rw [same] at found
    exact ih found

end Becomes

end LargeFiles.Metadata.Store
