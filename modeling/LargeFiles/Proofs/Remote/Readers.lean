import LargeFiles.Proofs.Remote.ContentAddressing
import LargeFiles.Proofs.Remote.Locking

/-!
# Readers of stored objects

The service in memory gives a reader for exactly the objects that it offers, and a reader delivers
the content that it was given for as long as the service lives: contents are never taken away, and
one could only be replaced by another with the same SHA-256.

* `ServiceEvent`             all that may happen to the service;
* `KeyedByHash.next`         every event leaves contents under their hashes;
* `get?_next`, `get?_later`  and keeps each of them, barring collisions;
* `outcome_getReader_cases`  the answer to a negotiation;
* `readers_deliver`          what a reader is and what it delivers, now and later.
-/

namespace LargeFiles.Remote

/-- What may happen to the service.  Reading leaves it as it is. -/
inductive ServiceEvent
  | objects (event : StorageEvent)
  | locks (event : LockEvent)
  /-- A content, if it can be opened, is uploaded through links of any origin. -/
  | transfer (who : Principal) (source : Source) (object : Api.ObjectMeta) (links : Api.Links)
  | invalidate (who : Principal)

/-- The event may put a content in the place of one that is stored.  An upload that is negotiated
    finds a place empty or leaves it alone. -/
inductive ServiceEvent.Replaces : ServiceEvent → Bytes → Prop
  | insert (content : Bytes) : Replaces (.objects (.insert content)) content
  | transfer (who : Principal) (content : Bytes) (object : Api.ObjectMeta) (links : Api.Links) :
      Replaces (.transfer who (.ok content) object links) content

namespace Service

/-- The service after an event. -/
def next (s : Service) : ServiceEvent → Service
  | .objects event => s.store event
  | .locks event => s.step event
  | .transfer who source object links =>
    (((client who.login).putObject source object links).outcome s).2
  | .invalidate who => provider.invalidate who s

/-- The service after some events. -/
def later (s : Service) (events : List ServiceEvent) : Service := events.foldl next s

/-! ### Single events -/

/-- An upload through links leaves the service as it is, or inserts the content. -/
theorem snd_transfer_cases (s : Service) (source : Source) (object : Api.ObjectMeta)
    (links : Api.Links) :
    (s.putObject source object links).2 = s ∨
      ∃ content, source = .ok content ∧
        (s.putObject source object links).2 = (s.insertObject content).2 := by
  rw [putObject]
  cases links.upload? with
  | none => exact .inl rfl
  | some link =>
    dsimp only
    cases hashOfLink link with
    | error error => exact .inl rfl
    | ok target =>
      cases source with
      | error error => exact .inl rfl
      | ok content =>
        dsimp only
        -- A content that does not fit what was announced is refused.
        split
        · exact .inr ⟨content, rfl, rfl⟩
        · exact .inl rfl

/-- Objects are no concern of calls about locks. -/
theorem upholds_objects (owner : String) (objects : SortedMap String Bytes) :
    (client owner).Upholds (fun s => s.objects = objects) True fun _ => True where
  lock path ref := by
    intro s same
    refine ⟨?_, fun _ _ => trivial⟩
    show (s.lock owner path ref).2.objects = objects
    -- Granted or not, a lock is no object.
    obtain ⟨held, -, outcome⟩ | ⟨-, made, -, outcome⟩ := s.lock_cases owner path ref
    · rwa [outcome]
    · rwa [outcome]
  unlock id force ref _ := by
    intro s same
    refine ⟨?_, fun _ _ => trivial⟩
    show (s.unlock owner id force ref).2.objects = objects
    obtain left | ⟨key, held, -, -, removed⟩ := s.unlock_cases owner id force ref
    · rwa [left]
    · rwa [removed]
  listLocks path id ref := fun _ same => ⟨same, fun _ _ => trivial⟩
  verifyLocks ref := fun _ same => ⟨same, fun _ _ => trivial⟩

/-- Lock events leave the objects alone. -/
theorem objects_step (s : Service) (event : LockEvent) : (s.step event).objects = s.objects := by
  cases event with
  | call who call =>
    exact ((upholds_objects who.login s.objects).keeps_perform (fun _ => trivial) s rfl).1
  | tick time => rfl

/-- Every event leaves contents under their own hashes. -/
theorem KeyedByHash.next {s : Service} (h : s.KeyedByHash) (event : ServiceEvent) :
    (s.next event).KeyedByHash := by
  cases event with
  | objects event => exact h.store event
  | locks event =>
    intro hash content found
    rw [Service.next, objects_step] at found
    exact h hash content found
  -- A transfer inserts the content that arrived, under the hash of that content.
  | transfer who source object links =>
    obtain same | ⟨content, -, inserted⟩ := s.snd_transfer_cases source object links
    · show (s.putObject source object links).2.KeyedByHash
      rwa [same]
    · show (s.putObject source object links).2.KeyedByHash
      rw [inserted]
      exact h.insertObject content
  | invalidate => exact h

/-- Events keep every content under its hash. -/
theorem KeyedByHash.later {s : Service} (h : s.KeyedByHash) (events : List ServiceEvent) :
    (s.later events).KeyedByHash := by
  induction events generalizing s with
  | nil => exact h
  | cons event rest ih => exact ih (h.next event)

/-! ### What is stored stays -/

variable {s : Service} {hash : String} {content : Bytes}

/-- A content that is inserted replaces none with another digest. -/
theorem get?_insertObject_of_distinct (keyed : s.KeyedByHash)
    (stored : s.objects.get? hash = some content) {other : Bytes}
    (distinct : Digest.Sha256.digest other = Digest.Sha256.digest content → other = content) :
    (s.insertObject other).2.objects.get? hash = some content := by
  rw [get?_insertObject]
  split
  · next same =>
    have digests := Text.Hex.encode_injective (same.symm.trans (keyed hash content stored))
    rw [distinct digests]
  · exact stored

/-- An upload that is negotiated replaces nothing. -/
theorem get?_putObject (stored : s.objects.get? hash = some content) (who : Principal)
    (source : Source) (name : String) (size : UInt64) :
    ((provider.putObject who source name size).outcome s).2.objects.get? hash = some content := by
  obtain same | ⟨other, absent, -, -, new⟩ := s.snd_putObject_cases who source name size
  · rwa [same]
  · have ne : hash ≠ name := by
      rintro rfl
      cases absent.symm.trans stored
    rw [new, SortedMap.get?_insert_of_ne _ ne]
    exact stored

/-- A stored content is kept by every event, unless it is replaced by one that collides with it. -/
theorem get?_next (keyed : s.KeyedByHash) (stored : s.objects.get? hash = some content)
    (event : ServiceEvent)
    (distinct : ∀ other, event.Replaces other →
      Digest.Sha256.digest other = Digest.Sha256.digest content → other = content) :
    (s.next event).objects.get? hash = some content := by
  cases event with
  | objects event =>
    cases event with
    -- Inserting is the only way that could replace a content, by another one of the same hash.
    | insert other =>
      exact get?_insertObject_of_distinct keyed stored (distinct other (.insert other))
    | upload who source name size => exact get?_putObject stored who source name size
    | commit writer =>
      obtain same | ⟨source, name, size, uploaded⟩ := writer.snd_finish_cases provider s
      · rw [next, store, same]
        exact stored
      · rw [next, store, uploaded]
        exact get?_putObject stored writer.who source name size
    | refuse => exact stored
    | setEmptyBatches => exact stored
  | locks event =>
    rw [next, objects_step]
    exact stored
  | transfer who source object links =>
    show (s.putObject source object links).2.objects.get? hash = some content
    -- A transfer that succeeds inserts its content, and any other one changes nothing.
    obtain same | ⟨other, rfl, inserted⟩ := s.snd_transfer_cases source object links
    · rw [same]
      exact stored
    · rw [inserted]
      exact get?_insertObject_of_distinct keyed stored
        (distinct other (.transfer who other object links))
  | invalidate => exact stored

/-- A content stays, unless another one with its digest is inserted. -/
theorem get?_later (keyed : s.KeyedByHash) (stored : s.objects.get? hash = some content)
    (events : List ServiceEvent)
    (distinct : ∀ event ∈ events, ∀ other, event.Replaces other →
      Digest.Sha256.digest other = Digest.Sha256.digest content → other = content) :
    (s.later events).objects.get? hash = some content := by
  induction events generalizing s with
  | nil => exact stored
  | cons event rest ih =>
    rw [List.forall_mem_cons] at distinct
    exact ih (keyed.next event) (get?_next keyed stored event distinct.1) distinct.2

/-! ### Readers -/

/-- The object that a name stands for is offered: the name has the scheme, batches are answered,
    the object is not refused, and there is a content. -/
structure Offers (s : Service) (oid hash : String) (content : Bytes) : Prop where
  named : oid = Pointer.scheme ++ hash
  answers : s.emptyBatches = false
  granted : s.refusals.get? hash = none
  stored : s.objects.get? hash = some content

/-- The hash can be read off the name, and there is one content under it. -/
theorem Offers.unique {oid hash' : String} {content' : Bytes} (offers : s.Offers oid hash content)
    (offers' : s.Offers oid hash' content') : hash' = hash ∧ content' = content := by
  have named := Pointer.hashOfOid?_eq_some_iff.2 offers.named
  rw [Pointer.hashOfOid?_eq_some_iff.2 offers'.named] at named
  cases named
  exact ⟨rfl, Option.some.inj (offers'.stored.symm.trans offers.stored)⟩

/-- What is offered for a hash is offered for the identifier with the scheme. -/
theorem offered_eq_some_iff :
    s.offered hash = some content ↔ s.Offers (Pointer.scheme ++ hash) hash content := by
  constructor
  · intro offered
    -- What is offered is stored, and neither refused nor passed over in silence.
    have stored := get?_of_offered offered
    rw [Service.offered] at offered
    split at offered
    · cases offered
    · next withheld =>
      simp only [Bool.or_eq_true, not_or, Bool.not_eq_true, Option.isSome_eq_false_iff,
        Option.isNone_iff_eq_none] at withheld
      exact ⟨rfl, withheld.1, withheld.2, stored⟩
  · intro offers
    simp [offered, offers.answers, offers.granted, offers.stored]

/-- A negotiation leaves the service as it is, and gives a reader if the object is offered. -/
theorem outcome_getReader_cases (s : Service) (oid : String) (who : Principal) :
    (∃ hash content, s.Offers oid hash content ∧ (provider.getReader oid who).outcome s =
      (.ok (some ⟨⟨hash, UInt64.ofNat content.length⟩, downloadLinks hash⟩), s)) ∨
    (∀ hash content, ¬ s.Offers oid hash content) ∧
      (provider.getReader oid who).outcome s = (.ok none, s) := by
  -- An identifier with another scheme is never offered, and neither is an absent content.
  cases named : Pointer.hashOfOid? oid with
  | none =>
    refine .inr ⟨fun hash content offers => ?_, ?_⟩
    · rw [Pointer.hashOfOid?_eq_some_iff.2 offers.named] at named
      cases named
    · rw [Provider.getReader, named]
      rfl
  | some hash =>
    obtain rfl := Pointer.hashOfOid?_eq_some_iff.1 named
    rw [outcome_getReader]
    cases offered : s.offered hash with
    | some content => exact .inl ⟨hash, content, offered_eq_some_iff.1 offered, rfl⟩
    | none =>
      refine .inr ⟨fun other content offers => ?_, rfl⟩
      have read := Pointer.hashOfOid?_eq_some_iff.2 offers.named
      cases named.symm.trans read
      rw [offered_eq_some_iff.2 offers] at offered
      cases offered

/-- A reader of a content that the service has under a hash. -/
structure Delivers (s : Service) (oid hash : String) (content : Bytes) (reader : Reader) :
    Prop where
  oid : reader.oid = oid
  hash : reader.hash = hash
  size : reader.size = UInt64.ofNat content.length
  /-- The content is delivered now and after all that happens later, unless it is replaced by one
      that collides with it. -/
  read : ∀ events : List ServiceEvent,
    (∀ event ∈ events, ∀ other, event.Replaces other →
      Digest.Sha256.digest other = Digest.Sha256.digest content → other = content) →
    (provider.read reader).outcome (s.later events) = (.ok content, s.later events)

/-- What is offered is delivered by its reader. -/
theorem Offers.delivers {oid : String} (keyed : s.KeyedByHash)
    (offers : s.Offers oid hash content) :
    s.Delivers oid hash content
      ⟨⟨hash, UInt64.ofNat content.length⟩, downloadLinks hash⟩ where
  oid := offers.named.symm
  hash := rfl
  size := rfl
  read events distinct := by
    rw [outcome_read, getObject_downloadLinks, get?_later keyed offers.stored events distinct]

end Service

/-- Whatever has happened to the service, a negotiation does not fail and changes nothing.  There is
    a reader for exactly what is offered under the name, which has the name, the hash and the size
    of the content and delivers it at any later time. -/
theorem readers_deliver (events : List ServiceEvent) (oid : String) (who : Principal) :
    let s := Service.later {} events
    (∀ hash content, s.Offers oid hash content →
      ∃ reader, (Service.provider.getReader oid who).outcome s = (.ok (some reader), s) ∧
        s.Delivers oid hash content reader) ∧
    ((∀ hash content, ¬ s.Offers oid hash content) →
      (Service.provider.getReader oid who).outcome s = (.ok none, s)) := by
  intro s
  -- In a service that was built up by events a content is where its hash says.
  have keyed : s.KeyedByHash := Service.KeyedByHash.start.later events
  refine ⟨fun hash content offers => ?_, fun nothing => ?_⟩
  · obtain ⟨hash', content', offers', outcome⟩ | ⟨nothing, -⟩ := s.outcome_getReader_cases oid who
    · obtain ⟨rfl, rfl⟩ := offers.unique offers'
      exact ⟨_, outcome, offers.delivers keyed⟩
    · exact absurd offers (nothing hash content)
  · obtain ⟨hash, content, offers, -⟩ | ⟨-, outcome⟩ := s.outcome_getReader_cases oid who
    · exact absurd offers (nothing hash content)
    · exact outcome

/-- An object is read after batches are no longer answered, it is refused and another object has
    been stored.  A name of another scheme stands for nothing. -/
theorem readers_deliver_withheld :
    let s := Service.later {} [.objects (.insert [1, 2])]
    let hash := Service.hashOf [1, 2]
    let events := [.objects (.setEmptyBatches true), .objects (.refuse hash ⟨410, "Gone"⟩),
      .objects (.insert [3])]
    (∃ reader, (Service.provider.getReader ("sha256:" ++ hash) .anonymous).outcome s =
        (.ok (some reader), s) ∧
      (Service.provider.read reader).outcome (s.later events) = (.ok [1, 2], s.later events)) ∧
    (Service.provider.getReader "md5:0" .anonymous).outcome s = (.ok none, s) := by
  intro s hash events
  have offers : s.Offers ("sha256:" ++ hash) hash [1, 2] :=
    ⟨rfl, rfl, rfl, (Service.get?_insertObject ..).trans (if_pos rfl)⟩
  have distinct : Digest.Sha256.digest [3] ≠ Digest.Sha256.digest [1, 2] := by decide +kernel
  obtain ⟨reader, given, delivers⟩ :=
    (readers_deliver [.objects (.insert [1, 2])] _ .anonymous).1 hash [1, 2] offers
  refine ⟨⟨reader, given, delivers.read events fun event happens other replaces same => ?_⟩,
    (readers_deliver [.objects (.insert [1, 2])] _ .anonymous).2 fun hash content offers => ?_⟩
  · simp only [events, List.mem_cons, List.not_mem_nil, or_false] at happens
    -- Of the three events only the insertion could replace the content, and it has another digest.
    obtain rfl | rfl | rfl := happens <;> cases replaces
    exact absurd same distinct
  · have read := Pointer.hashOfOid?_eq_some_iff.2 offers.named
    rw [show Pointer.hashOfOid? "md5:0" = none by decide] at read
    cases read

end LargeFiles.Remote
