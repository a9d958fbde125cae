import LargeFiles.Filter.Cache
import LargeFiles.Proofs.Metadata.Refinement
import LargeFiles.Proofs.Session
import LargeFiles.Proofs.Text.Hex

/-!
# What caches keep

A cache keeps two kinds of measurements of an object, each under a key that determines the name of
the cache, the kind and the object, whatever characters the name has.  A look-up tells what is
under the key and changes nothing; a put never fails.

* `md5Table_inj`, `sizeTable_inj`, `md5Table_ne_sizeTable`   the names of the tables;
* `key_inj`                                                  the keys;
* `told_congr`, `told_eq_ok_iff`                             what look-ups tell;
* `outcome_putValue`, `told_putValue`                        what puts do;
* `told_putValue_ne_iff`                                     which look-ups notice a put.
-/

namespace LargeFiles.Filter.Cache

variable {σ : Type} {a b cache : Cache} {g h object : ObjectName} {depot other : Depot σ}

/-- A cache is its name. -/
@[ext] theorem ext (name : a.filterName = b.filterName) : a = b := by
  cases a
  cases b
  cases name
  rfl

/-! ### Tables and keys -/

theorem md5Table_inj : a.md5Table = b.md5Table ↔ a.filterName = b.filterName := by
  rw [md5Table, md5Table, String.append_left_inj, String.append_right_inj]

theorem sizeTable_inj : a.sizeTable = b.sizeTable ↔ a.filterName = b.filterName := by
  rw [sizeTable, sizeTable, String.append_left_inj, String.append_right_inj]

/-- The tables of the two kinds end in different letters, so no name makes them one. -/
theorem md5Table_ne_sizeTable (a b : Cache) : a.md5Table ≠ b.sizeTable := by
  intro same
  have last := congrArg (·.toList.reverse.head?) same
  simp [md5Table, sizeTable] at last

/-- A key for an MD5 tells the name and the object. -/
theorem md5Key_inj : a.md5Key g = b.md5Key h ↔ a.filterName = b.filterName ∧ g = h := by
  rw [md5Key, md5Key, Metadata.Key.mk.injEq, md5Table_inj, ObjectName.toHex_injective.eq_iff]

/-- A key for a size tells the name and the object. -/
theorem sizeKey_inj : a.sizeKey g = b.sizeKey h ↔ a.filterName = b.filterName ∧ g = h := by
  rw [sizeKey, sizeKey, Metadata.Key.mk.injEq, sizeTable_inj, ObjectName.toHex_injective.eq_iff]

theorem md5Key_ne_sizeKey (a b : Cache) (g h : ObjectName) : a.md5Key g ≠ b.sizeKey h :=
  fun same => md5Table_ne_sizeTable a b (congrArg Metadata.Key.table same)

/-! ### Kinds -/

/-- What a cache keeps of an object. -/
inductive Kind
  | md5
  | size
  deriving DecidableEq, Repr

/-- The values of a kind. -/
abbrev Kind.Value : Kind → Type
  | md5 => String
  | size => UInt64

/-- A value as the metadata store has it. -/
def Kind.stored : (kind : Kind) → kind.Value → Metadata.Value
  | md5, text => .text text
  | size, bytes => .number bytes

/-- Where a cache keeps a value. -/
def key (cache : Cache) : Kind → ObjectName → Metadata.Key
  | .md5 => cache.md5Key
  | .size => cache.sizeKey

/-- The value that is recorded for an object. -/
def value? (cache : Cache) : (kind : Kind) → ObjectName → Task σ (Option kind.Value)
  | .md5 => cache.md5?
  | .size => cache.size?

/-- Records a value for an object. -/
def putValue (cache : Cache) : (kind : Kind) → ObjectName → kind.Value → Task σ Unit
  | .md5 => cache.putMd5
  | .size => cache.putSize

/-- What a look-up tells. -/
def told (cache : Cache) (kind : Kind) (object : ObjectName) (depot : Depot σ) :
    Except Error (Option kind.Value) :=
  ((cache.value? kind object).outcome depot).1

variable {kind kind' : Kind}

/-- A key belongs to one name, one kind and one object. -/
theorem key_inj : a.key kind g = b.key kind' h ↔
    a.filterName = b.filterName ∧ kind = kind' ∧ g = h := by
  cases kind <;> cases kind'
  · simpa [key] using md5Key_inj
  · simpa [key] using md5Key_ne_sizeKey a b g h
  · simpa [key] using (md5Key_ne_sizeKey b a h g).symm
  · simpa [key] using sizeKey_inj

/-! ### Look-ups -/

/-- A look-up changes nothing. -/
@[simp] theorem snd_outcome_value? (cache : Cache) (kind : Kind) (object : ObjectName)
    (depot : Depot σ) : ((cache.value? kind object).outcome depot).2 = depot := by
  cases kind <;> rfl

/-- A look-up tells what is under one key. -/
theorem told_congr (same : depot.metadata.tables.get? (cache.key kind object) =
      other.metadata.tables.get? (cache.key kind object)) :
    cache.told kind object depot = cache.told kind object other := by
  cases kind with
  | md5 =>
    simp only [key] at same
    simp only [told, value?, md5?, Session.outcome_ofFunction, Metadata.getText, same]
  | size =>
    simp only [key] at same
    simp only [told, value?, size?, Session.outcome_ofFunction, Metadata.getNumber, same]

/-- What is told, if it is no error, is what is under the key. -/
theorem told_eq_ok_iff {known : Option kind.Value} : cache.told kind object depot = .ok known ↔
    depot.metadata.tables.get? (cache.key kind object) = known.map kind.stored := by
  cases kind with
  | md5 => exact Session.mapError_eq_ok.trans Metadata.getText_eq_ok_iff
  | size => exact Session.mapError_eq_ok.trans Metadata.getNumber_eq_ok_iff

/-! ### Puts -/

/-- A put never fails, and is one into the metadata store. -/
theorem outcome_putValue (cache : Cache) (kind : Kind) (object : ObjectName) (value : kind.Value)
    (depot : Depot σ) : (cache.putValue kind object value).outcome depot =
      (.ok (), { depot with metadata :=
        (depot.metadata.putIfAbsent (cache.key kind object) (kind.stored value)).2 }) := by
  cases kind <;> rfl

/-- After a put the same is told as before, or what was put if nothing was told. -/
theorem told_putValue (cache : Cache) (kind : Kind) (object : ObjectName) (value : kind.Value)
    (depot : Depot σ) :
    cache.told kind object ((cache.putValue kind object value).outcome depot).2 =
      (cache.told kind object depot).map (·.or (some value)) := by
  rw [outcome_putValue]
  cases found : depot.metadata.tables.get? (cache.key kind object) with
  | none =>
    -- Nothing was told, so the value goes in and is told from now on.
    have before : cache.told kind object depot = .ok none := told_eq_ok_iff.2 found
    rw [before]
    apply told_eq_ok_iff.2
    rw [Metadata.Store.tables_putIfAbsent, Metadata.get?_putIfAbsent_self, found]
    rfl
  | some previous =>
    -- What is there stays, also if it is of the other kind, which is an error before and after.
    have same : cache.told kind object { depot with metadata :=
        (depot.metadata.putIfAbsent (cache.key kind object) (kind.stored value)).2 } =
          cache.told kind object depot := by
      apply told_congr
      rw [Metadata.Store.tables_putIfAbsent, Metadata.get?_putIfAbsent_self, found]
      rfl
    rw [same]
    cases told : cache.told kind object depot with
    | error fault => rfl
    | ok known =>
      cases known with
      | none =>
        rw [told_eq_ok_iff.1 told] at found
        cases found
      | some value' => rfl

/-- A put is not told from another key. -/
theorem told_putValue_of_ne (apart : b.key kind' h ≠ a.key kind g) (value : kind.Value)
    (depot : Depot σ) :
    b.told kind' h ((a.putValue kind g value).outcome depot).2 = b.told kind' h depot := by
  rw [outcome_putValue]
  apply told_congr
  rw [Metadata.Store.tables_putIfAbsent, Metadata.get?_putIfAbsent_of_ne _ apart]

/-- A put changes what is told of the same object by a cache of the same name, as the same kind,
    if nothing was told before.  It changes nothing else that is told. -/
theorem told_putValue_ne_iff (value : kind.Value) :
    b.told kind' h ((a.putValue kind g value).outcome depot).2 ≠ b.told kind' h depot ↔
      a.filterName = b.filterName ∧ kind = kind' ∧ g = h ∧ b.told kind' h depot = .ok none := by
  -- The key alone decides: another is left alone, and this one is not written twice.
  by_cases same : b.key kind' h = a.key kind g
  · obtain ⟨name, rfl, rfl⟩ := key_inj.1 same
    obtain rfl : b = a := Cache.ext name
    rw [told_putValue]
    cases told : b.told kind' h depot with
    | error fault => simp [Except.map]
    | ok known => cases known <;> simp [Except.map]
  · rw [told_putValue_of_ne same]
    refine iff_of_false (fun changed => changed rfl) ?_
    rintro ⟨name, rfl, rfl, -⟩
    exact same (key_inj.2 ⟨name.symm, rfl, rfl⟩)

end LargeFiles.Filter.Cache
