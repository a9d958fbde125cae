import LargeFiles.Filter.Measure
import LargeFiles.Proofs.Filter.Cache
import LargeFiles.Proofs.Metadata.History

/-!
# Looking up measurements

A look-up of the MD5 or the size of some content is answered from the cache, or else it opens the
content once, reads it to its end and records at least what was asked for.  Every opening is paid
for by a value that was missing: the number of openings and that of the missing values together
never grow.

* `Reopens`                   a content that can be opened again and again;
* `outcome_getMd5_of_some`, `outcome_getSize_of_some`   a value that is recorded;
* `outcome_getMd5_of_none`, `outcome_getSize_of_none`   a value that is not;
* `lookUp_spec`, `lookUpAll_spec`   one look-up, and any number of them;
* `opened_lookUpAll_le_one`   a first look-up that asks for both values.
-/

namespace LargeFiles.Filter

open Metadata (Entry)

variable {σ : Type}

/-! ### Contents that are measured -/

/-- In every depot of a kind the task opens a stream that delivers the content, and leads to a
    depot of that kind.  Metadata is not concerned by it.  How often the task was carried out is
    counted. -/
structure Reopens (opening : Task σ Stream) (content : Bytes) (ready : Depot σ → Prop)
    (opened : Depot σ → Nat) : Prop where
  delivers : ∀ depot, ready depot →
    ∃ stream, (opening.outcome depot).1 = .ok stream ∧ stream.drain = .ok content
  stays : ∀ depot, ready depot → ready (opening.outcome depot).2
  spares : ∀ depot, ready depot → (opening.outcome depot).2.metadata = depot.metadata
  counts : ∀ depot, ready depot → opened (opening.outcome depot).2 = opened depot + 1
  ready_metadata : ∀ depot metadata, ready depot → ready { depot with metadata }
  opened_metadata : ∀ depot metadata, opened { depot with metadata } = opened depot

/-- The entries that the measuring of a content may put in. -/
def measurements (cache : Cache) (object : ObjectName) (content : Bytes) : List Entry :=
  [⟨cache.md5Key object, .text (md5Hex content)⟩,
    ⟨cache.sizeKey object, .number (UInt64.ofNat content.length)⟩]

/-- The metadata store after a content was measured: the MD5 and the size are put in, each if it
    was wanted. -/
def recorded (cache : Cache) (object : ObjectName) (content : Bytes) (wantMd5 wantSize : Bool)
    (store : Metadata.Store) : Metadata.Store :=
  let store := if wantMd5 then
    (store.putIfAbsent (cache.md5Key object) (.text (md5Hex content))).2 else store
  if wantSize then
    (store.putIfAbsent (cache.sizeKey object) (.number (UInt64.ofNat content.length))).2 else store

variable {opening : Task σ Stream} {content : Bytes} {ready : Depot σ → Prop}
  {opened : Depot σ → Nat} {cache : Cache} {object : ObjectName} {depot : Depot σ}

/-! ### What is recorded -/

section Recorded

variable {store : Metadata.Store} (wantMd5 wantSize : Bool)

/-- If the MD5 is recorded, there is a value afterwards: the one that was there, or else the
    measured one. -/
theorem get?_recorded_md5Key :
    (recorded cache object content wantMd5 wantSize store).tables.get? (cache.md5Key object) =
      if wantMd5 then some ((store.tables.get? (cache.md5Key object)).getD (.text (md5Hex content)))
      else store.tables.get? (cache.md5Key object) := by
  have ne := cache.md5Key_ne_sizeKey cache object object
  cases wantMd5 <;> cases wantSize <;>
    simp [recorded, Metadata.Store.tables_putIfAbsent, Metadata.get?_putIfAbsent_of_ne _ ne,
      Metadata.get?_putIfAbsent_self]

/-- If the size is recorded, there is a value afterwards: the one that was there, or else the
    measured one. -/
theorem get?_recorded_sizeKey :
    (recorded cache object content wantMd5 wantSize store).tables.get? (cache.sizeKey object) =
      if wantSize then some ((store.tables.get? (cache.sizeKey object)).getD
        (.number (UInt64.ofNat content.length)))
      else store.tables.get? (cache.sizeKey object) := by
  have ne := (cache.md5Key_ne_sizeKey cache object object).symm
  cases wantMd5 <;> cases wantSize <;>
    simp [recorded, Metadata.Store.tables_putIfAbsent, Metadata.get?_putIfAbsent_of_ne _ ne,
      Metadata.get?_putIfAbsent_self]

/-- Nothing but measurements of the content is recorded. -/
theorem becomes_recorded :
    store.Becomes (· ∈ measurements cache object content)
      (recorded cache object content wantMd5 wantSize store) := by
  have md5 : ⟨cache.md5Key object, .text (md5Hex content)⟩ ∈ measurements cache object content :=
    List.mem_cons_self
  have size : ⟨cache.sizeKey object, .number (UInt64.ofNat content.length)⟩ ∈
      measurements cache object content := List.mem_cons_of_mem _ List.mem_cons_self
  -- Neither, one or both of the measurements are put in.
  cases wantMd5 <;> cases wantSize
  · exact .refl
  · exact .put .refl size
  · exact .put .refl md5
  · exact .put (.put .refl md5) size

end Recorded

/-! ### Single look-ups -/

/-- Recording reads the stream to its end and passes its content on. -/
theorem outcome_record (wantMd5 wantSize : Bool) {stream : Stream}
    (drained : stream.drain = .ok content) :
    (record cache object wantMd5 wantSize stream : Task σ Bytes).outcome depot =
      (.ok content, { depot with
        metadata := recorded cache object content wantMd5 wantSize depot.metadata }) := by
  rw [record, Session.outcome_bind, Session.outcome_ofExcept, drained]
  cases wantMd5 <;> cases wantSize <;> rfl

/-- An MD5 that is recorded is told, and nothing else happens. -/
theorem outcome_getMd5_of_some (opening : Task σ Stream) (wantSize : Bool) {md5 : String}
    (found : depot.metadata.tables.get? (cache.md5Key object) = some (.text md5)) :
    (getMd5 opening cache object wantSize).outcome depot = (.ok md5, depot) := by
  rw [getMd5, Session.outcome_bind, Cache.md5?, Session.outcome_ofFunction, Metadata.getText, found]
  rfl

/-- A size that is recorded is told, and nothing else happens. -/
theorem outcome_getSize_of_some (opening : Task σ Stream) (wantMd5 : Bool) {size : UInt64}
    (found : depot.metadata.tables.get? (cache.sizeKey object) = some (.number size)) :
    (getSize opening cache object wantMd5).outcome depot = (.ok size, depot) := by
  rw [getSize, Session.outcome_bind, Cache.size?, Session.outcome_ofFunction, Metadata.getNumber,
    found]
  rfl

/-- The depot after a content was opened and measured. -/
def measured (opening : Task σ Stream) (cache : Cache) (object : ObjectName) (content : Bytes)
    (wantMd5 wantSize : Bool) (depot : Depot σ) : Depot σ :=
  let depot := (opening.outcome depot).2
  { depot with metadata := recorded cache object content wantMd5 wantSize depot.metadata }

/-- If there is no MD5 on record, the content is opened and measured. -/
theorem outcome_getMd5_of_none (reopens : Reopens opening content ready opened)
    (here : ready depot) (wantSize : Bool)
    (missing : depot.metadata.tables.get? (cache.md5Key object) = none) :
    (getMd5 opening cache object wantSize).outcome depot =
      (.ok (md5Hex content), measured opening cache object content true wantSize depot) := by
  obtain ⟨stream, opens, drained⟩ := reopens.delivers depot here
  rw [getMd5, Session.outcome_bind, Cache.md5?, Session.outcome_ofFunction, Metadata.getText,
    missing]
  simp only [Except.mapError, Session.outcome_bind]
  rw [measured]
  -- What opening the stream does to the depot is not known, only what it gives.
  revert opens
  rcases opening.outcome depot with ⟨result, other⟩
  rintro rfl
  simp only [md5OfStream, Session.outcome_bind, outcome_record true wantSize drained,
    Session.outcome_pure]

/-- If there is no size on record, the content is opened and measured. -/
theorem outcome_getSize_of_none (reopens : Reopens opening content ready opened)
    (here : ready depot) (wantMd5 : Bool)
    (missing : depot.metadata.tables.get? (cache.sizeKey object) = none) :
    (getSize opening cache object wantMd5).outcome depot =
      (.ok (UInt64.ofNat content.length),
        measured opening cache object content wantMd5 true depot) := by
  obtain ⟨stream, opens, drained⟩ := reopens.delivers depot here
  rw [getSize, Session.outcome_bind, Cache.size?, Session.outcome_ofFunction, Metadata.getNumber,
    missing]
  simp only [Except.mapError, Session.outcome_bind]
  rw [measured]
  -- What opening the stream does to the depot is not known, only what it gives.
  revert opens
  rcases opening.outcome depot with ⟨result, other⟩
  rintro rfl
  simp only [outcome_record wantMd5 true drained, Session.outcome_pure]

/-! ### Sequences of look-ups -/

/-- What is done about the measurements of a content. -/
inductive Lookup
  /-- The MD5 is asked for, and the size is recorded too if it is wanted. -/
  | md5 (wantSize : Bool)
  /-- The size is asked for, and the MD5 is recorded too if it is wanted. -/
  | size (wantMd5 : Bool)
  /-- The metadata store is closed and opened again. -/
  | reopen
  deriving DecidableEq

/-- The depot after a look-up. -/
def lookUp (opening : Task σ Stream) (cache : Cache) (object : ObjectName) (depot : Depot σ) :
    Lookup → Depot σ
  | .md5 wantSize => ((getMd5 opening cache object wantSize).outcome depot).2
  | .size wantMd5 => ((getSize opening cache object wantMd5).outcome depot).2
  | .reopen => { depot with metadata := depot.metadata.reopen }

/-- The depot after some look-ups. -/
def lookUpAll (opening : Task σ Stream) (cache : Cache) (object : ObjectName) (depot : Depot σ)
    (lookups : List Lookup) : Depot σ :=
  lookups.foldl (lookUp opening cache object) depot

/-- The content can be opened, and what the cache holds of it, if anything, is right. -/
structure Answerable (ready : Depot σ → Prop) (cache : Cache) (object : ObjectName)
    (content : Bytes) (depot : Depot σ) : Prop where
  ready : ready depot
  md5 : ∀ value, depot.metadata.tables.get? (cache.md5Key object) = some value →
    value = .text (md5Hex content)
  size : ∀ value, depot.metadata.tables.get? (cache.sizeKey object) = some value →
    value = .number (UInt64.ofNat content.length)

/-- Closing the metadata store loses nothing if it is to be closed at all. -/
def Lasting (cache : Cache) (object : ObjectName) (content : Bytes) (depot : Depot σ)
    (lookups : List Lookup) : Prop :=
  .reopen ∈ lookups →
    depot.metadata.Durable ∧ ∀ e ∈ measurements cache object content, e.Fits

/-- 1 if there is no value under a key. -/
def lacks (store : Metadata.Store) (key : Metadata.Key) : Nat :=
  if (store.tables.get? key).isSome then 0 else 1

/-- How many of the two values are missing. -/
def missing (cache : Cache) (object : ObjectName) (store : Metadata.Store) : Nat :=
  lacks store (cache.md5Key object) + lacks store (cache.sizeKey object)

/-- What was recorded is missing no longer. -/
theorem missing_recorded (wantMd5 wantSize : Bool) (store : Metadata.Store) :
    missing cache object (recorded cache object content wantMd5 wantSize store) =
      (if wantMd5 then 0 else lacks store (cache.md5Key object)) +
        if wantSize then 0 else lacks store (cache.sizeKey object) := by
  rw [missing, lacks, lacks, get?_recorded_md5Key, get?_recorded_sizeKey]
  cases wantMd5 <;> cases wantSize <;> rfl

/-- Without an MD5 and without a size, two values are missing. -/
theorem missing_of_none (md5 : depot.metadata.tables.get? (cache.md5Key object) = none)
    (size : depot.metadata.tables.get? (cache.sizeKey object) = none) :
    missing cache object depot.metadata = 2 := by
  rw [missing, lacks, lacks, md5, size]
  rfl

namespace Answerable

/-- Opening and measuring the content leaves it measurable and counts as one opening. -/
theorem spec_measured (h : Answerable ready cache object content depot)
    (reopens : Reopens opening content ready opened) (wantMd5 wantSize : Bool) :
    let after := measured opening cache object content wantMd5 wantSize depot
    Answerable ready cache object content after ∧ opened after = opened depot + 1 ∧
      after.metadata = recorded cache object content wantMd5 wantSize depot.metadata := by
  -- Opening records nothing, so the only records are those of the measurement.
  have metadata : (measured opening cache object content wantMd5 wantSize depot).metadata =
      recorded cache object content wantMd5 wantSize depot.metadata := by
    rw [← reopens.spares depot h.ready]
    rfl
  refine ⟨⟨?_, ?_, ?_⟩, ?_, metadata⟩
  · exact reopens.ready_metadata _ _ (reopens.stays depot h.ready)
  · intro value found
    rw [metadata, get?_recorded_md5Key] at found
    -- A value that was there stays, and it was right before.
    cases before : depot.metadata.tables.get? (cache.md5Key object) with
    | some value' =>
      obtain rfl := h.md5 value' before
      cases wantMd5 <;> simp_all
    | none => cases wantMd5 <;> simp_all
  · intro value found
    rw [metadata, get?_recorded_sizeKey] at found
    cases before : depot.metadata.tables.get? (cache.sizeKey object) with
    | some value' =>
      obtain rfl := h.size value' before
      cases wantSize <;> simp_all
    | none => cases wantSize <;> simp_all
  · exact (reopens.opened_metadata _ _).trans (reopens.counts depot h.ready)

/-- The MD5 that is told, and the depot after that. -/
theorem outcome_getMd5 (h : Answerable ready cache object content depot)
    (reopens : Reopens opening content ready opened) (wantSize : Bool) :
    (getMd5 opening cache object wantSize).outcome depot =
      (.ok (md5Hex content), if (depot.metadata.tables.get? (cache.md5Key object)).isSome then depot
        else measured opening cache object content true wantSize depot) := by
  cases found : depot.metadata.tables.get? (cache.md5Key object) with
  | some value =>
    obtain rfl := h.md5 value found
    exact outcome_getMd5_of_some opening wantSize found
  | none => exact outcome_getMd5_of_none reopens h.ready wantSize found

/-- The size that is told, and the depot after that. -/
theorem outcome_getSize (h : Answerable ready cache object content depot)
    (reopens : Reopens opening content ready opened) (wantMd5 : Bool) :
    (getSize opening cache object wantMd5).outcome depot =
      (.ok (UInt64.ofNat content.length),
        if (depot.metadata.tables.get? (cache.sizeKey object)).isSome then depot
        else measured opening cache object content wantMd5 true depot) := by
  cases found : depot.metadata.tables.get? (cache.sizeKey object) with
  | some value =>
    obtain rfl := h.size value found
    exact outcome_getSize_of_some opening wantMd5 found
  | none => exact outcome_getSize_of_none reopens h.ready wantMd5 found

/-- One look-up.  If it opens the content, then one of the values was missing and is not any
    more. -/
theorem lookUp_spec (h : Answerable ready cache object content depot)
    (reopens : Reopens opening content ready opened) (lookup : Lookup)
    (lasting : lookup = .reopen → depot.metadata.Durable) :
    let after := lookUp opening cache object depot lookup
    Answerable ready cache object content after ∧
      opened after + missing cache object after.metadata ≤
        opened depot + missing cache object depot.metadata ∧
      depot.metadata.Becomes (· ∈ measurements cache object content) after.metadata := by
  intro after
  have refl : Answerable ready cache object content depot ∧
      opened depot + missing cache object depot.metadata ≤
        opened depot + missing cache object depot.metadata ∧
      depot.metadata.Becomes (· ∈ measurements cache object content) depot.metadata :=
    ⟨h, Nat.le_refl _, .refl⟩
  -- A look-up that misses pays for its opening with the value that it then records.
  have miss (wantMd5 wantSize : Bool)
      (fewer : missing cache object (recorded cache object content wantMd5 wantSize depot.metadata)
        + 1 ≤ missing cache object depot.metadata) :
      let after := measured opening cache object content wantMd5 wantSize depot
      Answerable ready cache object content after ∧
        opened after + missing cache object after.metadata ≤
          opened depot + missing cache object depot.metadata ∧
        depot.metadata.Becomes (· ∈ measurements cache object content) after.metadata := by
    obtain ⟨still, counted, metadata⟩ := h.spec_measured reopens wantMd5 wantSize
    refine ⟨still, ?_, metadata ▸ becomes_recorded wantMd5 wantSize⟩
    rw [counted, metadata]
    omega
  cases lookup with
  | md5 wantSize =>
    simp only [after, lookUp, h.outcome_getMd5 reopens]
    split
    · exact refl
    · next none =>
      apply miss
      have one : lacks depot.metadata (cache.md5Key object) = 1 := if_neg none
      rw [missing_recorded, missing, one]
      cases wantSize <;> simp
  | size wantMd5 =>
    simp only [after, lookUp, h.outcome_getSize reopens]
    split
    · exact refl
    · next none =>
      apply miss
      have one : lacks depot.metadata (cache.sizeKey object) = 1 := if_neg none
      rw [missing_recorded, missing, one]
      cases wantMd5 <;> simp
  -- Reopening costs nothing, as it loses no record.
  | reopen =>
    have same : depot.metadata.reopen = depot.metadata := lasting rfl
    simp only [after, lookUp, same]
    exact refl

end Answerable

/-- Values that last for a list of look-ups last for the rest of them. -/
theorem Lasting.rest {lookup : Lookup} {rest : List Lookup}
    (lasting : Lasting cache object content depot (lookup :: rest)) {other : Depot σ}
    (becomes : depot.metadata.Becomes (· ∈ measurements cache object content) other.metadata) :
    Lasting cache object content other rest := by
  intro mem
  obtain ⟨durable, fit⟩ := lasting (List.mem_cons_of_mem _ mem)
  exact ⟨becomes.durable durable fit, fit⟩

/-- Any number of look-ups. -/
theorem Answerable.lookUpAll_spec (h : Answerable ready cache object content depot)
    (reopens : Reopens opening content ready opened) (lookups : List Lookup)
    (lasting : Lasting cache object content depot lookups) :
    let after := lookUpAll opening cache object depot lookups
    Answerable ready cache object content after ∧
      opened after + missing cache object after.metadata ≤
        opened depot + missing cache object depot.metadata := by
  induction lookups generalizing depot with
  | nil => exact ⟨h, Nat.le_refl _⟩
  | cons lookup rest ih =>
    -- One look-up opens no more streams than it makes values present.
    obtain ⟨next, paid, becomes⟩ := h.lookUp_spec reopens lookup fun eq =>
      (lasting (eq ▸ List.mem_cons_self)).1
    obtain ⟨last, paidLater⟩ := ih next (lasting.rest becomes)
    exact ⟨last, Nat.le_trans paidLater paid⟩

/-- If neither value is recorded and the first look-up wants both, then the content is opened once
    at most. -/
theorem Answerable.opened_lookUpAll_le_one (h : Answerable ready cache object content depot)
    (reopens : Reopens opening content ready opened)
    (noMd5 : depot.metadata.tables.get? (cache.md5Key object) = none)
    (noSize : depot.metadata.tables.get? (cache.sizeKey object) = none) (lookups : List Lookup)
    (lasting : Lasting cache object content depot lookups) {first : Lookup}
    (isFirst : lookups.find? (· != .reopen) = some first)
    (both : first = .md5 true ∨ first = .size true) :
    opened (lookUpAll opening cache object depot lookups) ≤ opened depot + 1 := by
  induction lookups generalizing depot with
  | nil => cases isFirst
  | cons lookup rest ih =>
    obtain ⟨next, -, becomes⟩ := h.lookUp_spec reopens lookup fun eq =>
      (lasting (eq ▸ List.mem_cons_self)).1
    by_cases eq : lookup = .reopen
    -- Reopening comes before the first look-up, and changes nothing.
    · subst eq
      have same : depot.metadata.reopen = depot.metadata := (lasting List.mem_cons_self).1
      have stays : lookUp opening cache object depot .reopen = depot := by
        rw [lookUp, same]
      rw [lookUpAll, List.foldl_cons, stays]
      exact ih h noMd5 noSize (fun mem => lasting (List.mem_cons_of_mem _ mem)) isFirst
    · -- After this look-up nothing is missing, so no other one opens the content.
      have here : lookup = first := by simpa [List.find?_cons, eq] using isFirst
      have opens : lookUp opening cache object depot lookup =
          measured opening cache object content true true depot := by
        rcases here ▸ both with rfl | rfl
        · rw [lookUp, h.outcome_getMd5 reopens, noMd5]
          rfl
        · rw [lookUp, h.outcome_getSize reopens, noSize]
          rfl
      obtain ⟨-, counted, metadata⟩ := h.spec_measured reopens true true
      obtain ⟨-, paid⟩ := next.lookUpAll_spec reopens rest (lasting.rest becomes)
      rw [opens, counted, metadata, missing_recorded] at paid
      rw [lookUpAll, List.foldl_cons, opens]
      exact Nat.le_of_add_right_le paid

end LargeFiles.Filter
