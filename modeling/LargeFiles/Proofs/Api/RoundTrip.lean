import LargeFiles.Proofs.Api.Message

/-!
# The text of a message

A message of whatever kind is read from its text as it was written, so that reading a text and
writing it again comes to rest after one turn.  The links of an object may have either of two names.

* `Kind`                  the messages and the parts that they are made of, all of them;
* `decode?_encode`        the text of a message spells the message;
* `normalize?_normalize?` what was read and written is read and written the same way again;
* `decode?_of_respelled`  the links of an object are found under their other name;
* `messages_round_trip`   all of this.
-/

namespace LargeFiles.Api

open Json (Faithful)

/-- The messages and the parts that they are made of. -/
inductive Kind
  | operation
  | object
  | ref
  | batchRequest
  | batchResponse
  | batchItem
  | objectError
  | link
  | links
  | objectInfo
  | lockOwner
  | lock
  | createLockRequest
  | lockResponse
  | lockConflict
  | deleteLockRequest
  | lockPage
  | verifyRequest
  | verifyPage
  deriving DecidableEq, Repr

/-- How messages are written and read. -/
structure Format where
  /-- What a message says. -/
  Value : Type
  toJson : Value → Json
  ofJson? : Json → Option Value

namespace Kind

/-- How the messages of a kind are written and read. -/
def format : Kind → Format
  | operation => ⟨Operation, Operation.toJson, Operation.ofJson?⟩
  | object => ⟨ObjectMeta, ObjectMeta.toJson, ObjectMeta.ofJson?⟩
  | ref => ⟨Ref, Ref.toJson, Ref.ofJson?⟩
  | batchRequest => ⟨BatchRequest, BatchRequest.toJson, BatchRequest.ofJson?⟩
  | batchResponse => ⟨BatchResponse, BatchResponse.toJson, BatchResponse.ofJson?⟩
  | batchItem => ⟨BatchItem, BatchItem.toJson, BatchItem.ofJson?⟩
  | objectError => ⟨ObjectError, ObjectError.toJson, ObjectError.ofJson?⟩
  | link => ⟨Link, Link.toJson, Link.ofJson?⟩
  | links => ⟨Links, Links.toJson, Links.ofJson?⟩
  | objectInfo => ⟨ObjectInfo, ObjectInfo.toJson, ObjectInfo.ofJson?⟩
  | lockOwner => ⟨LockOwner, LockOwner.toJson, LockOwner.ofJson?⟩
  | lock => ⟨Lock, Lock.toJson, Lock.ofJson?⟩
  | createLockRequest => ⟨CreateLockRequest, CreateLockRequest.toJson, CreateLockRequest.ofJson?⟩
  | lockResponse => ⟨LockResponse, LockResponse.toJson, LockResponse.ofJson?⟩
  | lockConflict => ⟨LockConflict, LockConflict.toJson, LockConflict.ofJson?⟩
  | deleteLockRequest => ⟨DeleteLockRequest, DeleteLockRequest.toJson, DeleteLockRequest.ofJson?⟩
  | lockPage => ⟨LockPage, LockPage.toJson, LockPage.ofJson?⟩
  | verifyRequest => ⟨VerifyRequest, VerifyRequest.toJson, VerifyRequest.ofJson?⟩
  | verifyPage => ⟨VerifyPage, VerifyPage.toJson, VerifyPage.ofJson?⟩

/-- What is said by a message of a kind. -/
abbrev Value (kind : Kind) : Type := kind.format.Value

/-- Messages of every kind are read as they were written. -/
theorem faithful : (kind : Kind) → Faithful kind.format.toJson kind.format.ofJson?
  | operation => Operation.faithful
  | object => ObjectMeta.faithful
  | ref => Ref.faithful
  | batchRequest => BatchRequest.faithful
  | batchResponse => BatchResponse.faithful
  | batchItem => BatchItem.faithful
  | objectError => ObjectError.faithful
  | link => Link.faithful
  | links => Links.faithful
  | objectInfo => ObjectInfo.faithful
  | lockOwner => LockOwner.faithful
  | lock => Lock.faithful
  | createLockRequest => CreateLockRequest.faithful
  | lockResponse => LockResponse.faithful
  | lockConflict => LockConflict.faithful
  | deleteLockRequest => DeleteLockRequest.faithful
  | lockPage => LockPage.faithful
  | verifyRequest => VerifyRequest.faithful
  | verifyPage => VerifyPage.faithful

/-! ### There and back -/

/-- The text of a message. -/
def encode (kind : Kind) (v : kind.Value) : Bytes := (kind.format.toJson v).render

/-- The message that a text spells. -/
def decode? (kind : Kind) (text : Bytes) : Option kind.Value :=
  (Json.parse? text).bind kind.format.ofJson?

/-- The text of the message that a text spells. -/
def normalize? (kind : Kind) (text : Bytes) : Option Bytes := (kind.decode? text).map kind.encode

/-- The text of a message spells the message. -/
theorem decode?_encode (kind : Kind) (v : kind.Value) : kind.decode? (kind.encode v) = some v := by
  rw [decode?, encode, Json.parse?_render (kind.faithful.plain v), Option.bind_some,
    kind.faithful.read_write]

/-- What was read and written is read and written the same way again. -/
theorem normalize?_normalize? (kind : Kind) (text : Bytes) :
    (kind.normalize? text).bind kind.normalize? = kind.normalize? text := by
  rw [normalize?]
  cases kind.decode? text with
  | none => rfl
  | some v =>
    rw [Option.map_some, Option.bind_some, normalize?, kind.decode?_encode, Option.map_some]

end Kind

/-! ### The other name of the links -/

/-- Whether the members of two objects differ at most in that members called `actions` in the first
    are called `_links` in the second, with whatever escapes. -/
def Respelled (members members' : List (Bytes × Json)) : Prop :=
  List.Forall₂ (fun a b => a.2 = b.2 ∧
    (a.1 = b.1 ∨ Json.unescape a.1 = some "actions" ∧ Json.unescape b.1 = some "_links"))
    members members'

/-- Writing the one name for the other. -/
theorem respelled_escape (before after : List (String × Json)) (v : Json) :
    Respelled
      ((before ++ ("actions", v) :: after).map fun member => (Json.escape member.1, member.2))
      ((before ++ ("_links", v) :: after).map fun member => (Json.escape member.1, member.2)) := by
  have same (l : List (Bytes × Json)) : Respelled l l :=
    List.forall₂_same.2 fun _ _ => ⟨rfl, .inl rfl⟩
  rw [List.map_append, List.map_append, List.map_cons, List.map_cons]
  dsimp only
  -- Only the member in the middle has another name, and escapes are undone before names are
  -- compared.
  refine List.rel_append (same _) (.cons ⟨rfl, .inr ⟨?_, ?_⟩⟩ (same _))
  · exact Json.unescape_escape "actions"
  · exact Json.unescape_escape "_links"

/-- Objects that differ in the name of a member only give the same fields, if both names belong to
    one field. -/
theorem record?_of_respelled {fields : List Json.Field} {members members' : List (Bytes × Json)}
    (h : Respelled members members')
    (both : (fields.find? (·.answersTo "actions")).map (·.name) =
      (fields.find? (·.answersTo "_links")).map (·.name)) :
    (Json.object members).record? fields = (Json.object members').record? fields := by
  -- Members count by the field that they are for, and the two names are for the same.
  refine Json.record?_of_meaning (h.imp fun a b same => ⟨?_, same.1⟩)
  obtain name | ⟨actions, links⟩ := same.2
  · rw [name]
  · rw [Json.meaning, Json.meaning, actions, links, Option.map_some, Option.map_some, both]

namespace Kind

/-- The kinds of objects that have links. -/
def HasLinks (kind : Kind) : Prop := kind = batchItem ∨ kind = objectInfo

/-- The links of an object are found under their other name. -/
theorem decode?_of_respelled {kind : Kind} (linked : kind.HasLinks) {text text' : Bytes}
    {members members' : List (Bytes × Json)} (spelled : Json.parse? text = some (.object members))
    (spelled' : Json.parse? text' = some (.object members')) (h : Respelled members members') :
    kind.decode? text = kind.decode? text' := by
  rw [decode?, decode?, spelled, spelled', Option.bind_some, Option.bind_some]
  -- Both kinds read their links from a field with two names.
  obtain rfl | rfl := linked
  · show BatchItem.ofJson? _ = BatchItem.ofJson? _
    rw [BatchItem.ofJson?, BatchItem.ofJson?, record?_of_respelled h rfl]
  · show ObjectInfo.ofJson? _ = ObjectInfo.ofJson? _
    rw [ObjectInfo.ofJson?, ObjectInfo.ofJson?, record?_of_respelled h rfl]

end Kind

/-- The text of a message is a text, and spells the message.  A text that spells a message is
    written again in a form that stays.  The links of an object may be called `actions` or
    `_links`. -/
theorem messages_round_trip (kind : Kind) :
    (∀ v, kind.decode? (kind.encode v) = some v) ∧
    (∀ v, Bytes.ofString (kind.format.toJson v).toText = kind.encode v) ∧
    (∀ text, (kind.normalize? text).bind kind.normalize? = kind.normalize? text) ∧
    (kind.HasLinks → ∀ text text' members members', Json.parse? text = some (.object members) →
      Json.parse? text' = some (.object members') → Respelled members members' →
        kind.decode? text = kind.decode? text') :=
  ⟨kind.decode?_encode, fun v => Json.ofString_toText (kind.faithful.plain v),
    kind.normalize?_normalize?, fun linked _ _ _ _ spelled spelled' h =>
      Kind.decode?_of_respelled linked spelled spelled' h⟩

/-- An object with its download under the other name. -/
theorem messages_round_trip_links :
    let links := Links.none.insert "download" (.plain "http://cdn.test/aa")
    let item : BatchItem := ⟨"aa", 2, links, none⟩
    let known := [("oid", Json.ofString "aa"), ("size", Json.ofNat 2)]
    Kind.batchItem.decode? (Json.ofMembers (known ++ [("_links", links.toJson)])).render =
      some item := by
  intro links item known
  have plain : ∀ member ∈ known ++ [("_links", links.toJson)], Json.Plain member.2 := by
    simp only [known, List.cons_append, List.nil_append, List.mem_cons, List.not_mem_nil, or_false,
      forall_eq_or_imp, forall_eq]
    exact ⟨.text "aa", .number 2, Links.faithful.plain links⟩
  have written : item.toJson = .ofMembers (known ++ [("actions", links.toJson)]) := rfl
  have spelled := Json.parse?_render (BatchItem.faithful.plain item)
  rw [written] at spelled
  have round := messages_round_trip .batchItem
  have other := round.2.2.2 (.inl rfl) _ _ _ _ spelled (Json.parse?_render (.object plain))
    (respelled_escape known [] links.toJson)
  exact other.symm.trans (round.1 item)

end LargeFiles.Api
