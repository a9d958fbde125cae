import LargeFiles.Proofs.Filter.Additions
import LargeFiles.Proofs.Filter.Identity
import LargeFiles.Proofs.Filter.Lookup

/-!
# Every value is computed once

However often and in whatever order the MD5 and the size of some content are looked up, the
answers are right and the content is opened twice at most.  What a filter has told as the MD5 of
an object it tells for ever, and needs neither the object nor the remote storage for it.

* `reopens_openStream`   what a filter serves can be opened again and again;
* `ends_md5`             an MD5 that is told is recorded;
* `measured_once`        the answers to all look-ups, and what they cost.
-/

namespace LargeFiles.Filter

open Metadata (Entry)
open Remote (Service)

variable {σ α : Type} {filter : Filter} {object : ObjectName} {cache : Cache}

/-! ### What filters open -/

/-- What tells the openings of a filter: `lfs` asks for the size of the blob each time, whether it
    finds a pointer or not, and the other filters open the blob. -/
def openings (filter : Filter) (depot : Depot σ) : Nat :=
  match filter with
  | lfs => depot.objects.sizeQueries
  | raw | link | plain _ => depot.objects.opens

/-- A session on the object store gives the same over the same blobs. -/
theorem matches_onObjects {s : Session ObjectStore StoreError α}
    (hs : s.Matches s ObjectStore.SameBlobs) :
    (Task.onObjects s : Task Service α).Matches (Task.onObjects s : Task Service α)
      SameSources :=
  (hs.mapError _).onPart (fun _ _ same => same.objects) fun _ _ _ _ same objects =>
    ⟨objects, same.remote⟩

/-- A session on the service gives the same over the same service. -/
theorem matches_onRemote (s : Session Service RemoteError α) :
    (Task.onRemote s).Matches (Task.onRemote s) SameSources := by
  intro a b same
  rw [Task.onRemote, Session.outcome_onPart, Session.outcome_onPart, same.remote]
  exact ⟨rfl, same.objects, rfl⟩

/-- What a filter delivers for an object is decided by the blobs and by the service. -/
theorem matches_openStream (filter : Filter) (object : ObjectName) :
    (openStream backend filter object).Matches (openStream backend filter object)
      SameSources := by
  have blobs : (Task.onObjects (ObjectStore.openObject object) : Task Service Stream).Matches
      (Task.onObjects (ObjectStore.openObject object) : Task Service Stream) SameSources :=
    matches_onObjects (ObjectStore.matches_openObject object)
  have pointers : (pointer? object : Task Service (Option Pointer)).Matches
      (pointer? object : Task Service (Option Pointer)) SameSources := by
    apply (matches_onObjects (ObjectStore.matches_sizeOf object)).bind
    intro size
    split
    · exact .pure none
    · apply (matches_onObjects (ObjectStore.matches_readStart object _)).bind
      intro start
      split
      · exact .pure _
      · exact .throw _
  -- Only for large files does the filter look at a pointer and ask the service.
  cases filter with
  | raw | plain => exact blobs
  | link => exact blobs.bind fun stream => .pure _
  | lfs =>
    apply pointers.bind
    intro pointer
    cases pointer with
    | none => exact blobs
    | some pointer =>
      -- The number of requests is counted in the depot, but nothing depends on it.
      have counted : (modify fun depot : Depot Service =>
          { depot with readerRequests := depot.readerRequests + 1 } : Task Service PUnit).Matches
          (modify fun depot : Depot Service =>
            { depot with readerRequests := depot.readerRequests + 1 } : Task Service PUnit)
          SameSources := fun _ _ same => ⟨rfl, same.objects, same.remote⟩
      have asked : (requestReader backend object pointer).Matches
          (requestReader backend object pointer) SameSources := by
        apply counted.bind
        intro _
        apply (matches_onRemote _).bind
        intro reader
        split
        · exact .pure _
        · exact .throw _
      exact asked.bind fun reader => (matches_onRemote _).bind fun _ => .pure _

/-- Opening a blob is counted. -/
theorem ends_opens (object : ObjectName) (n : Nat) :
    (Task.onObjects (ObjectStore.openObject object) : Task σ Stream).Ends
      (fun depot => depot.objects.opens = n) (fun _ depot => depot.objects.opens = n + 1)
      fun _ _ => True := by
  refine ⟨?_, fun _ _ _ _ => trivial⟩
  intro depot stream before opened
  rw [Task.outcome_onObjects, ObjectStore.openObject, Session.outcome_ofFunction] at opened ⊢
  -- A blob that is absent cannot be opened, so the count goes up with each success.
  cases stored : depot.objects.content? object with
  | none =>
    rw [stored] at opened
    cases opened
  | some blob => exact congrArg (· + 1) before

/-- Asking for the size of a blob is counted. -/
theorem ends_sizeQueries (object : ObjectName) (n : Nat) :
    (Task.onObjects (ObjectStore.sizeOf object) : Task σ UInt64).Ends
      (fun depot => depot.objects.sizeQueries = n)
      (fun _ depot => depot.objects.sizeQueries = n + 1) fun _ _ => True := by
  refine ⟨?_, fun _ _ _ _ => trivial⟩
  intro depot size before told
  rw [Task.outcome_onObjects, ObjectStore.sizeOf, Session.outcome_ofFunction] at told ⊢
  cases stored : depot.objects.content? object with
  | none =>
    rw [stored] at told
    cases told
  | some blob => exact congrArg (· + 1) before

/-- What follows the question for the size asks for none. -/
theorem ends_of_asksNoSize {s : Task σ α} {n : Nat}
    (hs : s.Keeps (fun depot => depot.objects.sizeQueries = n) fun _ => True) :
    s.Ends (fun depot => depot.objects.sizeQueries = n)
      (fun _ depot => depot.objects.sizeQueries = n) fun _ _ => True :=
  ⟨fun depot _ before _ => (hs depot before).1, fun _ _ _ _ => trivial⟩

/-- Opening a blob asks for no size. -/
theorem asksNoSize_openObject (object : ObjectName) (n : Nat) :
    (ObjectStore.openObject object).Keeps (fun store => store.sizeQueries = n)
      fun _ => True := by
  intro store before
  refine ⟨?_, fun _ _ => trivial⟩
  rw [ObjectStore.openObject, Session.outcome_ofFunction]
  cases stored : store.content? object <;> exact before

/-- A session that asks the object store for no size asks for none as part of a task. -/
theorem asksNoSize_onObjects {s : Session ObjectStore StoreError α} {n : Nat}
    (hs : s.Keeps (fun store => store.sizeQueries = n) fun _ => True) :
    (Task.onObjects s : Task σ α).Keeps (fun depot => depot.objects.sizeQueries = n)
      fun _ => True :=
  Session.Keeps.onPart (fun _ before => before) (hs.mapError _) fun _ _ _ after => after

theorem asksNoSize_onRemote (s : Session σ RemoteError α) (n : Nat) :
    (Task.onRemote s).Keeps (fun depot => depot.objects.sizeQueries = n) fun _ => True :=
  fun _ before => ⟨before, fun _ _ => trivial⟩

/-- The search for a pointer asks for the size once. -/
theorem ends_pointer? (object : ObjectName) (n : Nat) :
    (pointer? object : Task σ (Option Pointer)).Ends (fun depot => depot.objects.sizeQueries = n)
      (fun _ depot => depot.objects.sizeQueries = n + 1) fun _ _ => True := by
  apply (ends_sizeQueries object n).bind
  intro size
  -- The one question for the size comes first; the rest only reads.
  apply ends_of_asksNoSize
  split
  · exact Session.Keeps.pure trivial
  · have reading : (ObjectStore.readStart object Pointer.maxSize).Keeps
        (fun store => store.sizeQueries = n + 1) fun _ => True :=
      (asksNoSize_openObject object (n + 1)).bind fun _ _ =>
        Session.Keeps.ofExcept fun _ _ => trivial
    apply (asksNoSize_onObjects reading).bind
    intro start _
    split
    · exact Session.Keeps.pure trivial
    · exact Session.Keeps.throw _

/-- An opening is counted. -/
theorem ends_openStream (backend : Backend σ) (filter : Filter) (object : ObjectName) (n : Nat) :
    (openStream backend filter object).Ends (fun depot => openings filter depot = n)
      (fun _ depot => openings filter depot = n + 1) fun _ _ => True := by
  cases filter with
  | raw | plain => exact ends_opens object n
  | link => exact (ends_opens object n).bind fun _ => Session.Ends.pure fun _ after => after
  | lfs =>
    -- Only the search for a pointer asks for the size; what is opened after it is not counted.
    apply (ends_pointer? object n).bind
    intro pointer
    apply ends_of_asksNoSize
    cases pointer with
    | none => exact asksNoSize_onObjects (asksNoSize_openObject object (n + 1))
    | some pointer =>
      have asked : (requestReader backend object pointer).Keeps
          (fun depot => depot.objects.sizeQueries = n + 1) fun _ => True := by
        -- Requests for readers are counted apart from questions for the size.
        have counted : (modify fun depot : Depot σ =>
            { depot with readerRequests := depot.readerRequests + 1 } : Task σ PUnit).Keeps
            (fun depot => depot.objects.sizeQueries = n + 1) fun _ => True :=
          fun _ before => ⟨before, fun _ _ => trivial⟩
        apply counted.bind
        intro _ _
        apply (asksNoSize_onRemote _ (n + 1)).bind
        intro reader _
        split
        · exact Session.Keeps.pure trivial
        · exact Session.Keeps.throw _
      apply asked.bind
      intro reader _
      exact (asksNoSize_onRemote _ (n + 1)).bind fun _ _ => Session.Keeps.pure trivial

/-- What a filter serves, if it can be read to its end, can be opened again and again, as long as
    the blobs and the service stay as they are. -/
theorem reopens_openStream {depot : Depot Service} (fits : BlobFits depot object)
    {stream : Stream} {content : Bytes}
    (opened : ((openStream backend filter object).outcome depot).1 = .ok stream)
    (drained : stream.drain = .ok content) :
    Reopens (openStream backend filter object) content (SameSources depot) (openings filter) where
  delivers other same :=
    ⟨stream, (matches_openStream filter object depot other same).1.symm.trans opened, drained⟩
  stays other same := by
    -- Here opening changes counts at most, and there it does the same as here.
    have alike := (keeps_openStream depot filter object fits depot (.refl _)).1
    have after := (matches_openStream filter object depot other same).2
    exact SameSources.trans ⟨alike.objects, alike.remote⟩ after
  spares other _ := (spares_openStream backend filter object other.metadata other rfl).1
  counts other same :=
    (ends_openStream backend filter object (openings filter other)).ok other stream rfl
      ((matches_openStream filter object depot other same).1.symm.trans opened)
  ready_metadata _ _ same := ⟨same.objects, same.remote⟩
  opened_metadata _ _ := by cases filter <;> rfl

/-! ### An MD5 that is told is recorded -/

/-- Whether a text is recorded as the MD5 of an object. -/
def HoldsMd5 (cache : Cache) (object : ObjectName) (md5 : String) (depot : Depot σ) : Prop :=
  depot.metadata.tables.get? (cache.md5Key object) = some (.text md5)

/-- Whether no MD5 is recorded of an object. -/
def HoldsNoMd5 (cache : Cache) (object : ObjectName) (depot : Depot σ) : Prop :=
  depot.metadata.tables.get? (cache.md5Key object) = none

/-- Looking for an MD5 tells which one is on record, or that there is none. -/
theorem ends_md5? (cache : Cache) (object : ObjectName) :
    (cache.md5? object : Task σ (Option String)).Ends (fun _ => True)
      (fun known depot => match known with
        | some md5 => HoldsMd5 cache object md5 depot
        | none => HoldsNoMd5 cache object depot) fun _ _ => True := by
  refine ⟨?_, fun _ _ _ _ => trivial⟩
  intro depot known _ told
  have told : depot.metadata.tables.get? (cache.md5Key object) = known.map .text :=
    Metadata.getText_eq_ok_iff.1 (Session.mapError_eq_ok.1 told)
  cases known with
  | none => exact told
  | some md5 => exact told

/-- What does not touch the records leaves an absent MD5 absent. -/
theorem Spares.ends_holdsNoMd5 {s : Task σ α} (hs : Spares s) :
    s.Ends (HoldsNoMd5 cache object) (fun _ => HoldsNoMd5 cache object) fun _ _ => True := by
  refine ⟨?_, fun _ _ _ _ => trivial⟩
  intro depot _ absent _
  rw [HoldsNoMd5, (hs depot.metadata depot rfl).1]
  exact absent

/-- An MD5 that is put where there was none is then on record. -/
theorem ends_putMd5 (cache : Cache) (object : ObjectName) (md5 : String) :
    (cache.putMd5 object md5 : Task σ Unit).Ends (HoldsNoMd5 cache object)
      (fun _ => HoldsMd5 cache object md5) fun _ _ => True := by
  refine ⟨?_, fun _ _ _ _ => trivial⟩
  intro depot _ absent _
  rw [HoldsNoMd5] at absent
  rw [HoldsMd5, Cache.putMd5, Cache.put, Session.outcome_ofFunction,
    Metadata.Store.tables_putIfAbsent, Metadata.get?_putIfAbsent_self, absent]
  rfl

/-- The MD5 of a stream that was read is on record afterwards. -/
theorem ends_md5OfStream (wantSize : Bool) (stream : Stream) :
    (md5OfStream cache object wantSize stream : Task σ String).Ends (HoldsNoMd5 cache object)
      (HoldsMd5 cache object) fun _ _ => True := by
  refine ⟨?_, fun _ _ _ _ => trivial⟩
  intro depot md5 absent told
  rw [md5OfStream, Session.outcome_bind] at told ⊢
  cases drained : stream.drain with
  -- A stream that breaks off gives no MD5 at all.
  | error fault =>
    rw [record, Session.outcome_bind, Session.outcome_ofExcept, drained] at told
    cases told
  | ok content =>
    rw [outcome_record true wantSize drained] at told ⊢
    cases told
    exact (get?_recorded_md5Key true wantSize).trans (by rw [absent]; rfl)

/-- An MD5 that was looked up is on record afterwards, whether it was there or was measured. -/
theorem ends_getMd5 {opening : Task σ Stream} (spares : Spares opening) (cache : Cache)
    (object : ObjectName) (wantSize : Bool) :
    (getMd5 opening cache object wantSize).Ends (fun _ => True) (HoldsMd5 cache object)
      fun _ _ => True := by
  apply (ends_md5? cache object).bind
  intro known
  cases known with
  | some md5 => exact Session.Ends.pure fun _ holds => holds
  | none => exact spares.ends_holdsNoMd5.bind fun stream => ends_md5OfStream wantSize stream

/-- An MD5 that a filter tells is recorded from then on, whether it was recorded before, was told
    by the remote storage or was computed. -/
theorem ends_md5 (backend : Backend σ) (filter : Filter) (object : ObjectName) :
    (filter.md5 backend object).Ends (fun _ => True) (HoldsMd5 filter.cache object)
      fun _ _ => True := by
  have opening := spares_openStream backend filter object
  cases filter with
  | raw | link | plain => exact ends_getMd5 opening _ object false
  | lfs =>
    apply (ends_md5? _ object).bind
    intro known
    cases known with
    -- A value that is found is on record; one that is not found stays absent until it is put there.
    | some md5 => exact Session.Ends.pure fun _ holds => holds
    | none =>
      apply (spares_pointer? object).ends_holdsNoMd5.bind
      intro pointer
      cases pointer with
      | none =>
        have computed := ends_getMd5 opening lfs.cache object true
        exact ⟨fun depot md5 _ => computed.ok depot md5 trivial, fun _ _ _ _ => trivial⟩
      | some pointer =>
        apply (spares_requestReader backend object pointer).ends_holdsNoMd5.bind
        intro reader
        split
        -- What the remote storage reports is put where nothing was.
        · next md5 reported =>
          exact (ends_putMd5 lfs.cache object md5).bind fun _ =>
            Session.Ends.pure fun _ holds => holds
        · apply (spares_readRemote backend reader).ends_holdsNoMd5.bind
          exact fun stream => ends_md5OfStream true stream

/-- A recorded MD5 is told, and nothing else happens. -/
theorem outcome_md5_of_holds {depot : Depot σ} {md5 : String} (backend : Backend σ)
    (holds : HoldsMd5 filter.cache object md5 depot) :
    (filter.md5 backend object).outcome depot = (.ok md5, depot) := by
  cases filter with
  | raw | link | plain => exact outcome_getMd5_of_some _ false holds
  | lfs =>
    rw [HoldsMd5] at holds
    rw [Filter.md5, Session.outcome_bind, Cache.md5?, Session.outcome_ofFunction, Metadata.getText,
      holds]
    rfl

/-! ### The cost of all look-ups -/

/-- Of a content that can be opened again and again, and of which neither the MD5 nor the size is
    recorded, both are told rightly after any look-ups; what is recorded by then is told without
    anything else happening; and the content has been opened twice at most, or once at most if the
    first look-up wanted both values.  Whatever a filter serves is such a content, if it can be
    read.  An MD5 that a filter has told of an object it tells for ever, and nothing else happens
    then, whatever has become of the blobs and of the remote storage. -/
theorem measured_once :
    (∀ {opening : Task σ Stream} {content : Bytes} {ready : Depot σ → Prop}
        {opened : Depot σ → Nat}, Reopens opening content ready opened →
      content.length < UInt64.size →
      ∀ (cache : Cache) (object : ObjectName) (depot : Depot σ), ready depot →
        depot.metadata.tables.get? (cache.md5Key object) = none →
        depot.metadata.tables.get? (cache.sizeKey object) = none →
        ∀ lookups, Lasting cache object content depot lookups →
          let after := lookUpAll opening cache object depot lookups
          (∀ wantSize,
            ((getMd5 opening cache object wantSize).outcome after).1 = .ok (md5Hex content) ∧
            (after.metadata.tables.get? (cache.md5Key object) ≠ none →
              ((getMd5 opening cache object wantSize).outcome after).2 = after)) ∧
          (∀ wantMd5, ∃ n : UInt64,
            ((getSize opening cache object wantMd5).outcome after).1 = .ok n ∧
            n.toNat = content.length ∧
            (after.metadata.tables.get? (cache.sizeKey object) ≠ none →
              ((getSize opening cache object wantMd5).outcome after).2 = after)) ∧
          opened after ≤ opened depot + 2 ∧
          ∀ first, lookups.find? (· != .reopen) = some first →
            first = .md5 true ∨ first = .size true → opened after ≤ opened depot + 1) ∧
    (∀ filter object (depot : Depot Service) stream content, BlobFits depot object →
      ((openStream backend filter object).outcome depot).1 = .ok stream →
      stream.drain = .ok content →
      Reopens (openStream backend filter object) content (SameSources depot) (openings filter)) ∧
    ∀ backend : Backend σ, backend.ReportsFit → ∀ filter ∈ builtIn, ∀ object depot md5,
      depot.metadata.Durable → ((filter.md5 backend object).outcome depot).1 = .ok md5 →
      ∀ (backend' : Backend σ) (later : Depot σ),
        ((filter.md5 backend object).outcome depot).2.metadata.Becomes Entry.Fits
          later.metadata →
        (filter.md5 backend' object).outcome later = (.ok md5, later) := by
  refine ⟨?_, fun _ _ _ _ _ fits opened drained => reopens_openStream fits opened drained, ?_⟩
  · intro opening content ready opened reopens fits cache object depot here noMd5 noSize lookups
      lasting after
    -- Without records there is nothing that could be wrong.
    have start : Answerable ready cache object content depot := by
      refine ⟨here, fun value found => ?_, fun value found => ?_⟩
      · rw [noMd5] at found
        cases found
      · rw [noSize] at found
        cases found
    obtain ⟨answerable, paid⟩ := start.lookUpAll_spec reopens lookups lasting
    -- Two values were missing, and each opening has made one of them present.
    rw [missing_of_none noMd5 noSize] at paid
    refine ⟨fun wantSize => ?_, fun wantMd5 => ?_, Nat.le_of_add_right_le paid, ?_⟩
    · rw [answerable.outcome_getMd5 reopens]
      exact ⟨rfl, fun some => if_pos (Option.isSome_iff_ne_none.2 some)⟩
    · rw [answerable.outcome_getSize reopens]
      exact ⟨_, rfl, UInt64.toNat_ofNat_of_lt' fits,
        fun some => if_pos (Option.isSome_iff_ne_none.2 some)⟩
    · exact fun first isFirst both =>
        start.opened_lookUpAll_le_one reopens noMd5 noSize lookups lasting isFirst both
  · intro backend fit filter known object depot md5 durable told backend' later becomes
    have adds := (adds_md5 known fit depot (.refl depot filter object)).1
    -- An answer is on record when it is given, and a record is never replaced.
    have holds := (ends_md5 backend filter object).ok depot md5 trivial told
    have lasting := adds.metadata.durable durable fun e => Noted.fits known
    exact outcome_md5_of_holds backend' (becomes.get?_of_some lasting (fun _ fits => fits) holds)

/-- A blob of three bytes behind a journal: after its size was looked up together with its MD5, the
    journal reopened and the MD5 looked up, it has been opened once.  What `lfs` told as its MD5
    it also tells when the blob and the service are gone. -/
theorem measured_once_abc :
    let depot : Depot Service :=
      { objects := ObjectStore.insert {} .null [97, 98, 99]
        metadata := .journal (.openFile []), remote := {} }
    let lookups : List Lookup := [.reopen, .size true, .reopen, .md5 false]
    let after := lookUpAll (openStream backend link .null) link.cache .null depot lookups
    let asked := ((lfs.md5 backend .null).outcome depot).2
    let later : Depot Service := { objects := {}, metadata := asked.metadata.reopen, remote := {} }
    after.objects.opens ≤ 1 ∧
      ((getMd5 (openStream backend link .null) link.cache .null true).outcome after).1 =
        .ok "9dcfe93568443c1f419cbb49b6f5e481" ∧
      (lfs.md5 backend .null).outcome later = (.ok "900150983cd24fb0d6963f7d28e17f72", later) := by
  intro depot lookups after asked later
  have nothing : (Metadata.Journal.openFile []).tables = .empty := by
    rw [Metadata.Journal.openFile_eq, Metadata.Journal.entriesOf, Metadata.Record.all_nil]
    rfl
  have absent (key : Metadata.Key) : depot.metadata.tables.get? key = none :=
    (congrArg (·.get? key) nothing).trans (Metadata.get?_empty key)
  have durable : depot.metadata.Durable :=
    Metadata.Store.durable_journal.2 (Metadata.Journal.settled_openFile [])
  have blobFits : BlobFits depot .null := by
    intro blob stored
    cases stored
    decide
  -- The stream of the link can be opened as often as one likes, which the theorem tells as well.
  have reopens : Reopens (openStream backend link .null) (linkMarker ++ [97, 98, 99])
      (SameSources depot) (openings link) :=
    (measured_once (σ := Service)).2.1 link .null depot _ _ blobFits rfl rfl
  -- A measurement is short, so it fits into the journal.
  have fit : ∀ e ∈ measurements link.cache .null (linkMarker ++ [97, 98, 99]), e.Fits := by
    intro e mem
    have fact : (e.key, e.value) ∈ facts link .null (linkMarker ++ [97, 98, 99]) :=
      List.mem_map_of_mem (f := fun e : Entry => (e.key, e.value)) mem
    exact fits_fact (by decide) fact
  obtain ⟨md5, -, -, once⟩ := (measured_once (σ := Service)).1 reopens (by decide) link.cache .null
    depot (.refl depot) (absent _) (absent _) lookups fun _ => ⟨durable, fit⟩
  have told : ((lfs.md5 backend .null).outcome depot).1 =
      .ok "900150983cd24fb0d6963f7d28e17f72" := by decide +kernel
  have hex : md5Hex (linkMarker ++ [97, 98, 99]) = "9dcfe93568443c1f419cbb49b6f5e481" := by
    decide +kernel
  have opens (other : Depot Service) (le : openings link other ≤ openings link depot + 1) :
      other.objects.opens ≤ 1 := le
  refine ⟨opens after (once (.size true) rfl (.inr rfl)), hex ▸ (md5 true).1, ?_⟩
  exact measured_once.2.2 backend reportsFit_backend lfs (by decide) .null depot _ durable told
    backend later (.reopen .refl)

end LargeFiles.Filter
