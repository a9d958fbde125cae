import LargeFiles.LockDescription
import Mathlib.Data.List.Forall2

/-!
# What lock descriptions say

A description tells what the service has reported of a lock, and the branch that the lock was asked
for within.  This is stated field by field, and without regard to how descriptions are made, so that
theorems about requests can say what their callers are told.

* `LockDescription.Describes`               what a description says of a lock;
* `LockDescription.describes_iff`           it is the description that is made of the lock;
* `LockDescription.forall₂_describes_iff`   the same for the descriptions of several locks.
-/

namespace LargeFiles.LockDescription

variable {branch : Option Branch} {description : LockDescription} {lock : Api.Lock}

/-- A description is of a lock that was asked for within a branch. -/
structure Describes (branch : Option Branch) (description : LockDescription) (lock : Api.Lock) :
    Prop where
  path : description.path = lock.path
  /-- The branch is that of the request, which the service does not repeat. -/
  branch : description.branch = branch.map (·.short)
  token : description.token = lock.id
  owner : description.owner = lock.owner.map (·.name)
  /-- The service keeps no comments. -/
  comment : description.comment = none
  created : description.created = lock.lockedAt

/-- What is made of a lock describes it. -/
theorem describes_ofLock (branch : Option Branch) (lock : Api.Lock) :
    Describes branch (ofLock branch lock) lock where
  path := rfl
  branch := rfl
  token := rfl
  owner := rfl
  comment := rfl
  created := rfl

/-- A lock has one description within a branch. -/
theorem describes_iff : Describes branch description lock ↔ description = ofLock branch lock := by
  constructor
  · obtain ⟨_, _, _, _, _, _⟩ := description
    rintro ⟨⟨⟩, ⟨⟩, ⟨⟩, ⟨⟩, ⟨⟩, ⟨⟩⟩
    rfl
  · rintro rfl
    exact describes_ofLock branch lock

/-! ### Several locks -/

variable {descriptions : List LockDescription} {locks : List Api.Lock}

/-- Several locks have one list of descriptions, in their order. -/
theorem forall₂_describes_iff :
    List.Forall₂ (Describes branch) descriptions locks ↔
      descriptions = locks.map (ofLock branch) := by
  have pointwise : Describes branch = fun description lock => description = ofLock branch lock := by
    funext description lock
    exact propext describes_iff
  rw [pointwise, ← List.forall₂_map_right_iff, List.forall₂_eq_eq_eq]

theorem forall₂_describes_map (branch : Option Branch) (locks : List Api.Lock) :
    List.Forall₂ (Describes branch) (locks.map (ofLock branch)) locks :=
  forall₂_describes_iff.2 rfl

/-- The tokens of descriptions are the ids of the locks. -/
theorem map_token (h : List.Forall₂ (Describes branch) descriptions locks) :
    descriptions.map (·.token) = locks.map (·.id) := by
  rw [forall₂_describes_iff.1 h, List.map_map]
  rfl

/-- The paths of descriptions are those of the locks. -/
theorem map_path (h : List.Forall₂ (Describes branch) descriptions locks) :
    descriptions.map (·.path) = locks.map (·.path) := by
  rw [forall₂_describes_iff.1 h, List.map_map]
  rfl

/-- A description among several is of one of the locks. -/
theorem exists_describes (h : List.Forall₂ (Describes branch) descriptions locks)
    (mem : description ∈ descriptions) : ∃ lock ∈ locks, Describes branch description lock := by
  rw [forall₂_describes_iff.1 h] at mem
  obtain ⟨lock, listed, rfl⟩ := List.mem_map.1 mem
  exact ⟨lock, listed, describes_ofLock branch lock⟩

/-- Each of several things yields a lock and each of these has its description, if and only if the
    yielded locks have the descriptions as a list. -/
theorem forall₂_yielded_iff {α : Type} {yielded? : α → Option Api.Lock} {l : List α} :
    List.Forall₂ (fun a description => ∃ lock, yielded? a = some lock ∧
        Describes branch description lock) l descriptions ↔
      ∃ locks : List Api.Lock, l.map yielded? = locks.map some ∧
        descriptions = locks.map (ofLock branch) := by
  constructor
  · -- The yielded locks are collected from the front, along with their descriptions.
    intro h
    induction h with
    | nil => exact ⟨[], rfl, rfl⟩
    | cons first _ ih =>
      obtain ⟨lock, found, describes⟩ := first
      obtain ⟨locks, all, rfl⟩ := ih
      refine ⟨lock :: locks, ?_, ?_⟩
      · rw [List.map_cons, found, all, List.map_cons]
      · rw [describes_iff.1 describes, List.map_cons]
  · rintro ⟨locks, all, rfl⟩
    induction locks generalizing l with
    | nil =>
      rw [List.map_eq_nil_iff.1 all]
      exact .nil
    | cons lock locks ih =>
      obtain ⟨a, rest, rfl, found, all⟩ := List.map_eq_cons_iff.1 all
      exact .cons ⟨lock, found, describes_ofLock branch lock⟩ (ih all)

end LargeFiles.LockDescription
