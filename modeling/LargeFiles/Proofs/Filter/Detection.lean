import LargeFiles.Filter.Content
import LargeFiles.Proofs.ObjectStore
import LargeFiles.Proofs.Pointer.Extension

/-!
# Finding pointers

A filter looks for a pointer at the start of a blob, and does not open the blob at all if it is too
large.  What it finds is what reading the whole blob would give: the largest blob that is opened is
the largest one that the reader of documents looks at.

* `outcome_pointer?_of_large`       a large blob: nothing is opened;
* `outcome_pointer?_of_small`       any other: one opening, and what is made of the bytes read;
* `detection_agrees_with_parse`     what is found, what it takes, and what it depends on.
-/

namespace LargeFiles.Filter

variable {σ : Type} {depot : Depot σ} {object : ObjectName} {blob : Bytes}

/-- What is done with the object store leaves the rest of the depot alone. -/
theorem Task.outcome_onObjects {α : Type} (s : Session ObjectStore StoreError α)
    (depot : Depot σ) :
    (Task.onObjects s : Task σ α).outcome depot =
      ((s.outcome depot.objects).1.mapError .store,
        { depot with objects := (s.outcome depot.objects).2 }) := rfl

/-- A size that is told in 64 bits is compared with the limit as it is. -/
theorem maxSize_lt_iff (fits : blob.length < UInt64.size) :
    UInt64.ofNat Pointer.maxSize < UInt64.ofNat blob.length ↔ 1024 < blob.length :=
  UInt64.ofNat_lt_iff_lt (by decide) fits

/-- A blob that is too large for a pointer is told from its size and is not opened. -/
theorem outcome_pointer?_of_large (stored : depot.objects.content? object = some blob)
    (fits : blob.length < UInt64.size) (large : 1024 < blob.length) :
    (pointer? object).outcome depot =
      (.ok none, { depot with
        objects := { depot.objects with sizeQueries := depot.objects.sizeQueries + 1 } }) := by
  rw [pointer?, Session.outcome_bind, Task.outcome_onObjects, ObjectStore.outcome_sizeOf stored]
  simp only [Except.mapError, if_pos ((maxSize_lt_iff fits).2 large)]
  rfl

/-- What is made of the first bytes of a blob, if they can be read. -/
def pointerOf (start : Except IoError Bytes) : Except Error (Option Pointer) :=
  match start with
  | .error fault => .error (.store (.io fault))
  | .ok bytes => (Pointer.parse bytes).mapError fun fault => .remote (.malformedPointer fault)

/-- A small blob is opened once, and what is read of it is parsed. -/
theorem outcome_pointer?_of_small (stored : depot.objects.content? object = some blob)
    (fits : blob.length < UInt64.size) (small : blob.length ≤ 1024) :
    (pointer? object).outcome depot =
      (pointerOf ((depot.objects.stream object blob).read 1024), { depot with
        objects := { depot.objects with
          sizeQueries := depot.objects.sizeQueries + 1, opens := depot.objects.opens + 1 } }) := by
  -- The blob is no longer than a pointer may be, so it is read.
  have notLarge : ¬ UInt64.ofNat Pointer.maxSize < UInt64.ofNat blob.length := by
    rw [maxSize_lt_iff fits]
    omega
  rw [pointer?, Session.outcome_bind, Task.outcome_onObjects, ObjectStore.outcome_sizeOf stored]
  simp only [Except.mapError, if_neg notLarge]
  -- Counting the first question does not change which blob is then read.
  have alike : ObjectStore.SameBlobs depot.objects { depot.objects with
      sizeQueries := depot.objects.sizeQueries + 1 } := ⟨rfl, rfl⟩
  rw [Session.outcome_bind, Task.outcome_onObjects,
    ObjectStore.outcome_readStart ((alike.content?_eq object).trans stored), alike.stream_eq]
  show _ = (pointerOf ((depot.objects.stream object blob).read Pointer.maxSize), _)
  cases (depot.objects.stream object blob).read Pointer.maxSize with
  | error fault => rfl
  | ok start =>
    simp only [Except.mapError, pointerOf]
    cases Pointer.parse start <;> rfl

theorem stream_of_readable {store : ObjectStore} (readable : store.broken.lookup object = none) :
    store.stream object blob = ⟨blob, none⟩ := by
  rw [ObjectStore.stream, readable]

/-- Looking for a pointer finds what reading the whole blob would give, if a blob that is not too
    large can be read.  It asks for the size once, and opens the blob at most once, and not at all
    if it has more than 1024 bytes.  Nothing else changes.  What is found depends on the size of
    the blob and, unless it is too large, on what reading its first 1024 bytes gives, so no other
    byte is looked at. -/
theorem detection_agrees_with_parse (stored : depot.objects.content? object = some blob)
    (readable : blob.length ≤ 1024 → depot.objects.broken.lookup object = none)
    (fits : blob.length < UInt64.size) :
    (pointer? object).outcome depot =
      ((Pointer.parse blob).mapError fun fault => .remote (.malformedPointer fault),
        { depot with objects := { depot.objects with
            sizeQueries := depot.objects.sizeQueries + 1
            opens := depot.objects.opens + if blob.length ≤ 1024 then 1 else 0 } }) ∧
    ∀ (other : Depot σ) blob', other.objects.content? object = some blob' →
      blob'.length = blob.length →
      (blob.length ≤ 1024 → (other.objects.stream object blob').read 1024 =
        (depot.objects.stream object blob).read 1024) →
      ((pointer? object).outcome other).1 = ((pointer? object).outcome depot).1 := by
  by_cases small : blob.length ≤ 1024
  · constructor
    · -- As many bytes are read as a pointer may have, which is the whole blob.
      have whole : (depot.objects.stream object blob).read 1024 = .ok blob := by
        rw [stream_of_readable (readable small)]
        exact congrArg Except.ok (List.take_of_length_le small)
      rw [outcome_pointer?_of_small stored fits small, whole, if_pos small]
      rfl
    · -- Nothing but the length and the bytes that were read has an influence.
      intro other blob' stored' same reading
      rw [outcome_pointer?_of_small stored fits small, outcome_pointer?_of_small stored'
        (same ▸ fits) (same ▸ small), reading small]
  · have large : 1024 < blob.length := Nat.lt_of_not_le small
    constructor
    · rw [outcome_pointer?_of_large stored fits large, Pointer.parse_of_maxSize_lt large,
        if_neg small]
      rfl
    · intro other blob' stored' same _
      rw [outcome_pointer?_of_large stored fits large, outcome_pointer?_of_large stored'
        (same ▸ fits) (same ▸ large)]

/-- A document with a line of an extension that makes it as long as a document may be is found to
    be a pointer; one line feed more, and it is not opened. -/
theorem detection_agrees_with_parse_largest :
    let p : Pointer :=
      ⟨"4d7a214614ab2935c943f9e0ff69d22eadbb8f32b1258daaa5e2ca24d17e2393", 12345, by decide⟩
    let note : Bytes := Bytes.ofString "x " ++ List.replicate (1021 - p.toBytes.length) 0x61
    let blob : Bytes := p.toBytes ++ note ++ [0x0A]
    let holding (blob : Bytes) : Depot Unit := ⟨{ blobs := [(.null, blob)] }, .memory .empty, (), 0⟩
    blob.length = 1024 ∧
      (pointer? .null).outcome (holding blob) = (.ok (some p), { holding blob with
        objects := ⟨[(.null, blob)], [], 1, 1⟩ }) ∧
      (pointer? .null).outcome (holding (blob ++ [0x0A])) =
        (.ok none, { holding (blob ++ [0x0A]) with
          objects := ⟨[(.null, blob ++ [0x0A])], [], 0, 1⟩ }) := by
  intro p note blob holding
  have length : blob.length = 1024 := by
    have bytes := Bytes.length_ofString_le p.text
    have chars := p.length_text_le
    have more : (Bytes.ofString "x ").length = 2 := by decide
    simp only [blob, note, List.length_append, List.length_replicate, List.length_singleton, more,
      Pointer.toBytes]
    omega
  -- With one more byte nothing is read at all.
  have longer : (blob ++ [0x0A]).length = 1025 := by
    rw [List.length_append, length]
    rfl
  -- The long line is an extension, which a pointer may have after its own lines.
  have parsed : Pointer.parse blob = .ok (some p) := by
    let line : Pointer.Extension := ⟨Bytes.ofString "x",
      List.replicate (1021 - p.toBytes.length) 0x61, false, by decide,
      ⟨by decide, fun mem => absurd (List.eq_of_mem_replicate mem) (by decide)⟩, by decide⟩
    have whole : blob = p.toBytes ++ [line].flatMap Pointer.Extension.toBytes := by
      have key : Bytes.ofString "x " = Bytes.ofString "x" ++ [0x20] := by decide
      simp [blob, note, line, Pointer.Extension.toBytes, key]
    have text : Bytes.IsText blob := by
      have key : Bytes.IsText (Bytes.ofString "x ") := ⟨_, rfl⟩
      have feed : Bytes.IsText [0x0A] := Bytes.isText_singleton (by decide)
      have value (n : Nat) : Bytes.IsText (List.replicate n 0x61) := by
        refine Bytes.isText_of_lt fun b mem => ?_
        rw [List.eq_of_mem_replicate mem]
        decide
      exact .append (.append ⟨p.text, rfl⟩ (key.append (value _))) feed
    rw [whole] at text length ⊢
    exact Pointer.parse_toBytes_append text length.le
  have found := (@detection_agrees_with_parse Unit (holding blob) .null blob rfl (fun _ => rfl)
    (by rw [length]; decide)).1
  rw [parsed, if_pos length.le] at found
  have passed := (@detection_agrees_with_parse Unit (holding (blob ++ [0x0A])) .null
    (blob ++ [0x0A]) rfl (fun _ => rfl) (by rw [longer]; decide)).1
  rw [Pointer.parse_of_maxSize_lt (longer ▸ (by decide : Pointer.maxSize < 1025)),
    if_neg (by rw [longer]; decide)] at passed
  exact ⟨length, found, passed⟩

end LargeFiles.Filter
