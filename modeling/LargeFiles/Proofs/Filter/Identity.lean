import LargeFiles.Proofs.Filter.Size

/-!
# What a content hash identifies

What a filter serves for an object comes from one origin: the content that the object names if it
is a pointer, or else its blob.  A content hash is the name of the filter and the text of the
origin, with a space between them.  The hash therefore determines both, and the origin determines
the bytes: a pointer that is another blob, with another size or other lines, has the same origin.

* `text_injective`             different origins have different texts;
* `hashText_inj`               a content hash determines the filter's name and the origin;
* `ComesFrom.unique`           the origin does not change with what is counted or recorded;
* `exists_of_contentHash`      the hash of an object is that of its origin;
* `exists_of_openStream`       the bytes that are delivered are those of the origin;
* `contentHash_identifies`     equal hashes mean equal bytes, and filters never share one.
-/

namespace LargeFiles.Filter

open Remote (Service)

/-! ### Origins -/

/-- Where the bytes come from that a filter serves for an object. -/
inductive Origin
  | blob (object : ObjectName)
  | content (hash : String) (ok : isContentHash hash = true)

namespace Origin

/-- What stands for an origin in a content hash. -/
def text : Origin → String
  | blob object => object.toHex
  | content hash _ => Pointer.scheme ++ hash

/-- The name of a blob has hexadecimal digits only. -/
theorem notMem_toHex {c : Char} (notDigit : Text.Hex.isDigit c = false) (object : ObjectName) :
    c ∉ object.toHex.toList := by
  intro mem
  rw [Text.Hex.isDigit_of_mem_encode mem] at notDigit
  cases notDigit

/-- A content has a colon in its text, which no digit of a blob's name is. -/
theorem toHex_ne_scheme_append (object : ObjectName) (hash : String) :
    object.toHex ≠ Pointer.scheme ++ hash := by
  intro same
  apply notMem_toHex (c := ':') (by decide) object
  rw [same, String.toList_append]
  exact List.mem_append_left _ (by decide)

/-- Different origins have different texts. -/
theorem text_injective : Function.Injective text := by
  intro p q same
  cases p with
  | blob object =>
    cases q with
    -- The names of two blobs are written in full, so equal texts are equal names.
    | blob object' => rw [ObjectName.toHex_injective same]
    | content hash' ok' => exact absurd same (toHex_ne_scheme_append object hash')
  | content hash ok =>
    cases q with
    | blob object' => exact absurd same.symm (toHex_ne_scheme_append object' hash)
    | content hash' ok' =>
      obtain rfl : hash = hash' := (String.append_right_inj _).1 same
      rfl

/-- There is no space in the text of an origin. -/
theorem notMem_text (origin : Origin) : ' ' ∉ origin.text.toList := by
  cases origin with
  | blob object => exact notMem_toHex (by decide) object
  | content hash ok => exact Pointer.notMem_oid ⟨hash, 0, ok⟩ (by decide) (by decide)

/-- The content hash of what a filter with a name serves from an origin. -/
def hashText (origin : Origin) (name : String) : String := name ++ " " ++ origin.text

/-- What stands before the last occurrence of a character, and what stands after it. -/
theorem append_cons_inj_of_notMem {c : Char} {xs xs' ys ys' : List Char} (h : c ∉ ys)
    (h' : c ∉ ys') (same : xs ++ c :: ys = xs' ++ c :: ys') : xs = xs' ∧ ys = ys' := by
  rcases List.append_eq_append_iff.1 same with ⟨between, eq, tail⟩ | ⟨between, eq, tail⟩
  · cases between with
    | nil => exact ⟨by simpa using eq.symm, (List.cons.inj tail).2⟩
    | cons d rest =>
      -- The second occurrence would be one in what stands after the first.
      obtain ⟨rfl, later⟩ := List.cons.inj tail
      exact absurd (later ▸ List.mem_append_right rest List.mem_cons_self) h
  · cases between with
    | nil => exact ⟨by simpa using eq, (List.cons.inj tail).2.symm⟩
    | cons d rest =>
      obtain ⟨rfl, later⟩ := List.cons.inj tail
      exact absurd (later ▸ List.mem_append_right rest List.mem_cons_self) h'

/-- A content hash determines the name of the filter and the origin. -/
theorem hashText_inj {p q : Origin} {name name' : String}
    (same : p.hashText name = q.hashText name') : name = name' ∧ p = q := by
  have lists := congrArg String.toList same
  have space : " ".toList = [' '] := rfl
  simp only [hashText, String.toList_append, space, List.append_assoc, List.singleton_append]
    at lists
  obtain ⟨names, texts⟩ := append_cons_inj_of_notMem p.notMem_text q.notMem_text lists
  exact ⟨String.toList_injective names, text_injective (String.toList_injective texts)⟩

/-- The bytes that a filter serves from an origin. -/
def bytes (depot : Depot Service) (filter : Filter) : Origin → Option Bytes
  | blob object =>
    match filter with
    | link => (depot.objects.content? object).map (linkMarker ++ ·)
    | raw | lfs | plain _ => depot.objects.content? object
  | content hash _ => depot.remote.objects.get? hash

end Origin

/-! ### The origin of what is served -/

/-- What a filter serves for an object comes from the content that the object names, if the filter
    follows pointers and the object is one, or else from the blob. -/
inductive ComesFrom {σ : Type} (depot : Depot σ) : Filter → ObjectName → Origin → Prop
  | blob {filter : Filter} {object : ObjectName}
      (notPointer : filter = lfs → ((pointer? object).outcome depot).1 = .ok none) :
      ComesFrom depot filter object (.blob object)
  | content {object : ObjectName} {pointer : Pointer}
      (found : ((pointer? object).outcome depot).1 = .ok (some pointer)) :
      ComesFrom depot lfs object (.content pointer.hash pointer.hash_ok)

/-- A depot with the blobs and the service of another.  What was counted or recorded may differ. -/
structure SameSources (depot other : Depot Service) : Prop where
  objects : ObjectStore.SameBlobs depot.objects other.objects
  remote : other.remote = depot.remote

variable {depot other third : Depot Service} {filter : Filter} {object : ObjectName}

namespace SameSources

protected theorem refl (depot : Depot Service) : SameSources depot depot := ⟨.refl _, rfl⟩

theorem symm (same : SameSources depot other) : SameSources other depot :=
  ⟨⟨same.objects.blobs.symm, same.objects.broken.symm⟩, same.remote.symm⟩

theorem trans (same : SameSources depot other) (same' : SameSources other third) :
    SameSources depot third :=
  ⟨same.objects.trans same'.objects, same'.remote.trans same.remote⟩

end SameSources

/-- What comes from an origin is decided by the sources alone. -/
theorem Origin.bytes_congr (same : SameSources depot other) (filter : Filter) (origin : Origin) :
    origin.bytes other filter = origin.bytes depot filter := by
  cases origin with
  | blob object => cases filter <;> simp only [bytes, same.objects.content?_eq]
  | content => simp only [bytes, same.remote]

/-- What an object's bytes come from does not depend on what was counted or recorded. -/
theorem ComesFrom.unique (same : SameSources depot other) {p q : Origin}
    (hp : ComesFrom depot filter object p) (hq : ComesFrom other filter object q) : p = q := by
  -- The object is a pointer in both depots, to the same content, or in neither.
  have found_eq := (matches_pointer? object depot other same.objects).1
  cases hp with
  | blob notPointer =>
    cases hq with
    | blob => rfl
    | content found =>
      rw [notPointer rfl, found] at found_eq
      cases found_eq
  | content found =>
    cases hq with
    | blob notPointer =>
      rw [found, notPointer rfl] at found_eq
      cases found_eq
    | content found' =>
      rw [found, found'] at found_eq
      cases found_eq
      rfl

/-- The content hash of an object is that of its origin. -/
theorem exists_of_contentHash {σ : Type} {depot : Depot σ} {hash : String}
    (h : ((filter.contentHash object).outcome depot).1 = .ok hash) :
    ∃ origin, ComesFrom depot filter object origin ∧ hash = origin.hashText filter.name := by
  cases filter with
  | raw | link | plain =>
    cases h
    exact ⟨.blob object, .blob (by rintro ⟨⟩), rfl⟩
  | lfs =>
    -- The name of the filter is followed by the content of the pointer, or else by the blob's name.
    obtain ⟨pointer, found, given⟩ := Session.bind_eq_ok.1 h
    cases pointer with
    | none =>
      cases given
      exact ⟨.blob object, .blob fun _ => found, rfl⟩
    | some pointer =>
      cases given
      exact ⟨_, .content found, rfl⟩

/-- A stream of a blob that can be read to its end delivers the blob. -/
theorem content?_of_openObject {stream : Stream} {bytes : Bytes}
    (opened : ((Task.onObjects (ObjectStore.openObject object) : Task Service Stream).outcome
      depot).1 = .ok stream)
    (drained : stream.drain = .ok bytes) : depot.objects.content? object = some bytes := by
  have kept := keeps_onObjects (ObjectStore.keeps_openObject depot.objects object)
  obtain ⟨blob, stored, rfl⟩ := (kept depot (.refl _)).2 stream opened
  rw [ObjectStore.drain_stream drained, stored]

/-- A stream of a remote content delivers what the service stores under its hash. -/
theorem get?_of_readRemote {pointer : Pointer} {stream : Stream} {bytes : Bytes}
    (opened : ((requestReader backend object pointer >>= readRemote backend).outcome
      depot).1 = .ok stream)
    (drained : stream.drain = .ok bytes) :
    depot.remote.objects.get? pointer.hash = some bytes := by
  obtain ⟨reader, requested, read⟩ := Session.bind_eq_ok.1 opened
  obtain ⟨alike, links⟩ := keeps_requestReader depot object pointer depot (.refl _)
  -- The links of a reader lead to the content that the pointer names.
  obtain ⟨content, found, rfl⟩ := (keeps_readRemote depot reader _ alike).2 stream read
  cases drained
  rw [links reader requested] at found
  rw [Service.getObject_downloadLinks] at found
  split at found
  · next present =>
    cases found
    exact present
  · cases found

/-- What a filter opens delivers the bytes of the origin. -/
theorem exists_of_openStream {stream : Stream} {bytes : Bytes}
    (opened : ((filter.openStream backend object).outcome depot).1 = .ok stream)
    (drained : stream.drain = .ok bytes) :
    ∃ origin, ComesFrom depot filter object origin ∧ origin.bytes depot filter = some bytes := by
  cases filter with
  | raw | plain =>
    exact ⟨.blob object, .blob (by rintro ⟨⟩), content?_of_openObject opened drained⟩
  | link =>
    -- A link's target is the blob, and its stream begins with the marker.
    obtain ⟨target, opened_target, given⟩ := Session.bind_eq_ok.1 opened
    cases given
    obtain ⟨rest, drained_target, rfl⟩ := drain_append target linkMarker drained
    refine ⟨.blob object, .blob (by rintro ⟨⟩), ?_⟩
    rw [Origin.bytes, content?_of_openObject opened_target drained_target]
    rfl
  | lfs =>
    obtain ⟨pointer, found, opened⟩ := Session.bind_eq_ok.1 opened
    -- Looking for a pointer has changed counts only.
    have alike := (keeps_pointer? depot object depot (.refl _)).1
    have same : SameSources depot ((pointer? object).outcome depot).2 :=
      ⟨alike.objects, alike.remote⟩
    cases pointer with
    | none =>
      refine ⟨.blob object, .blob fun _ => found, ?_⟩
      rw [← Origin.bytes_congr same]
      exact content?_of_openObject opened drained
    | some pointer =>
      refine ⟨_, .content found, ?_⟩
      rw [← Origin.bytes_congr same]
      exact get?_of_readRemote opened drained

/-! ### Identity -/

/-- A task gives a value on the blobs and the service of a depot, whatever was counted or recorded
    before it was run. -/
def Gives {α : Type} (depot : Depot Service) (task : Task Service α) (value : α) : Prop :=
  ∃ other, SameSources depot other ∧ (task.outcome other).1 = .ok value

/-- What an object with a given content hash delivers are the bytes of the origin that the hash
    tells. -/
theorem exists_of_gives {hash : String} {stream : Stream} {bytes : Bytes}
    (hashed : Gives depot (filter.contentHash object) hash)
    (opened : Gives depot (filter.openStream backend object) stream)
    (drained : stream.drain = .ok bytes) :
    ∃ origin : Origin, hash = origin.hashText filter.name ∧
      origin.bytes depot filter = some bytes := by
  obtain ⟨first, same, given⟩ := hashed
  obtain ⟨second, same', given'⟩ := opened
  obtain ⟨origin, from_first, rfl⟩ := exists_of_contentHash given
  obtain ⟨origin', from_second, found⟩ := exists_of_openStream given' drained
  obtain rfl : origin = origin' := from_first.unique (same.symm.trans same') from_second
  exact ⟨origin, rfl, by rw [← Origin.bytes_congr same', found]⟩

/-- Objects that have the same content hash under a filter deliver the same bytes, and objects that
    have it under two filters have it under one name.  The hash of a pointer, moreover, is that of
    no blob under any name. -/
theorem contentHash_identifies :
    (∀ (depot : Depot Service) (filter : Filter) (a b : ObjectName) (hash : String)
        (stream stream' : Stream) (bytes bytes' : Bytes),
      Gives depot (filter.contentHash a) hash → Gives depot (filter.contentHash b) hash →
      Gives depot (filter.openStream backend a) stream → stream.drain = .ok bytes →
      Gives depot (filter.openStream backend b) stream' → stream'.drain = .ok bytes' →
        bytes = bytes') ∧
    (∀ (depot other : Depot Service) (filter filter' : Filter) (a b : ObjectName) (hash : String),
      Gives depot (filter.contentHash a) hash → Gives other (filter'.contentHash b) hash →
        filter.name = filter'.name) ∧
    ∀ (pointer : Pointer) (name : String) (b : ObjectName),
      lfs.name ++ " " ++ pointer.oid ≠ name ++ " " ++ b.toHex ∧
      (∀ depot a, Gives depot (pointer? a) (some pointer) →
        Gives depot (lfs.contentHash a) (lfs.name ++ " " ++ pointer.oid)) ∧
      ∀ depot, Gives depot ((plain name).contentHash b) (name ++ " " ++ b.toHex) := by
  refine ⟨?_, ?_, ?_⟩
  · intro depot filter a b hash stream stream' bytes bytes' hashed hashed' opened drained opened'
      drained'
    obtain ⟨origin, rfl, found⟩ := exists_of_gives hashed opened drained
    obtain ⟨origin', same, found'⟩ := exists_of_gives hashed' opened' drained'
    -- Equal hashes have one origin, and what is delivered is what comes from there.
    obtain rfl : origin = origin' := (Origin.hashText_inj same).2
    exact Option.some.inj (found.symm.trans found')
  · rintro depot other filter filter' a b hash ⟨first, -, given⟩ ⟨second, -, given'⟩
    obtain ⟨origin, -, rfl⟩ := exists_of_contentHash given
    obtain ⟨origin', -, same⟩ := exists_of_contentHash given'
    exact (Origin.hashText_inj same).1
  · intro pointer name b
    refine ⟨fun collide => ?_, ?_, fun depot => ⟨depot, .refl depot, rfl⟩⟩
    -- A content and a blob are different origins, so their hashes differ too.
    · have origins := Origin.hashText_inj (p := .content pointer.hash pointer.hash_ok)
        (q := .blob b) collide
      cases origins.2
    · rintro depot a ⟨first, same, found⟩
      exact ⟨first, same, Session.bind_eq_ok.2 ⟨_, found, rfl⟩⟩

/-- The object whose SHA-1 name consists of zeros. -/
def shortNull : ObjectName := ⟨List.replicate 20 0, .inl (by simp)⟩

/-- Two pointers to three bytes, of which one declares the wrong size, and a service that has
    them. -/
def twoPointers : Depot Service where
  objects := { blobs := [(.null, (threeBytes 3).toBytes), (shortNull, (threeBytes 5).toBytes)] }
  metadata := .memory .empty
  remote := (Service.insertObject {} [1, 2, 3]).2

/-- Each of the two pointers is found, has the hash of the content, and delivers it. -/
theorem gives_twoPointers (object : ObjectName) (size : UInt64)
    (stored : twoPointers.objects.content? object = some (threeBytes size).toBytes) :
    Gives twoPointers (pointer? object) (some (threeBytes size)) ∧
      Gives twoPointers (lfs.contentHash object) (lfs.name ++ " " ++ (threeBytes 3).oid) ∧
      Gives twoPointers (lfs.openStream backend object) ⟨[1, 2, 3], none⟩ := by
  have alike := Alike.refl twoPointers
  have found := yields_pointer?_toBytes stored rfl
  -- The service was given the three bytes, and it offers what it holds.
  have offered : twoPointers.remote.offered (threeBytes size).hash = some [1, 2, 3] := by
    show (Service.insertObject {} [1, 2, 3]).2.objects.get? _ = _
    rw [Service.get?_insertObject]
    exact if_pos rfl
  refine ⟨⟨_, .refl _, found.fst_outcome alike⟩, ⟨_, .refl _, ?_⟩, ⟨_, .refl _, ?_⟩⟩
  · exact Session.bind_eq_ok.2 ⟨_, found.fst_outcome alike, rfl⟩
  · apply Session.Yields.fst_outcome alike (Alike twoPointers)
    apply found.bind
    apply (yields_requestReader offered object).bind
    exact yields_readRemote offered rfl

/-- Two pointers that are different blobs have one hash and deliver the same bytes. -/
theorem contentHash_identifies_twoPointers :
    let hash := lfs.name ++ " " ++ (threeBytes 3).oid
    (threeBytes 3).toBytes ≠ (threeBytes 5).toBytes ∧
    (Gives twoPointers (lfs.contentHash .null) hash ∧
      Gives twoPointers (lfs.contentHash shortNull) hash ∧
      Gives twoPointers (lfs.openStream backend .null) ⟨[1, 2, 3], none⟩ ∧
      Gives twoPointers (lfs.openStream backend shortNull) ⟨[1, 2, 3], none⟩ ∧
      ([1, 2, 3] : Bytes) = [1, 2, 3]) ∧
    (Gives twoPointers (raw.contentHash .null) (raw.name ++ " " ++ ObjectName.null.toHex) ∧
      raw.name = (plain "raw").name) ∧
    Gives twoPointers (pointer? .null) (some (threeBytes 3)) ∧
      Gives twoPointers (lfs.contentHash .null) hash ∧
      hash ≠ "lfs" ++ " " ++ ObjectName.null.toHex := by
  obtain ⟨one_bytes, one_name, one_form⟩ := contentHash_identifies
  obtain ⟨found, hashed, opened⟩ := gives_twoPointers .null 3 rfl
  obtain ⟨-, hashed', opened'⟩ := gives_twoPointers shortNull 5 rfl
  have raw_hashed : Gives twoPointers (raw.contentHash .null)
      (raw.name ++ " " ++ ObjectName.null.toHex) := ⟨_, .refl _, rfl⟩
  refine ⟨fun same => ?_, ⟨hashed, hashed', opened, opened', ?_⟩, ⟨raw_hashed, ?_⟩, found, ?_, ?_⟩
  -- The two pointers have different sizes, which parsing would tell.
  · have parsed := Pointer.parse_toBytes (threeBytes 3)
    rw [same, Pointer.parse_toBytes] at parsed
    exact absurd (congrArg Pointer.size (Option.some.inj (Except.ok.inj parsed))) (by decide)
  · exact one_bytes _ _ _ _ _ _ _ _ _ hashed hashed' opened rfl opened' rfl
  · exact one_name _ _ _ (plain "raw") _ .null _ raw_hashed ⟨twoPointers, .refl _, rfl⟩
  · exact (one_form (threeBytes 3) "lfs" .null).2.1 _ _ found
  · exact (one_form (threeBytes 3) "lfs" .null).1

end LargeFiles.Filter
