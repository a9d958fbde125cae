import LargeFiles.Api.Lock
import LargeFiles.Proofs.Json.Record
import LargeFiles.Proofs.Timestamp

/-!
# Messages that are read as they were written

Each message is an object whose members are written and read one by one, so it is enough to name
the members: which are always there, which are left out for a value that stands for their absence,
and which are there only if there is something to give.

* `Link.faithful`, `BatchItem.faithful`, …   reading undoes writing, for each of the messages.
-/

namespace LargeFiles

open Json (Faithful)

/-- A time is written as its text, which is read as the same time. -/
theorem Json.Faithful.timestamp : Faithful Json.ofTimestamp Json.timestamp? where
  read_write t := by
    -- The work is done by the text of a time; around it is only a JSON string.
    rw [Json.timestamp?, Json.ofTimestamp, Faithful.text.read_write, Option.bind_some,
      Timestamp.ofText?_toText]
  plain t := Faithful.text.plain t.toText
  ne_null t := Faithful.text.ne_null t.toText

namespace Api

/-! ### Links -/

/-- A link: its address, its headers unless there are none, and when it expires. -/
theorem Link.faithful : Faithful Link.toJson Link.ofJson? := by
  refine .record (fun link => [.always .text "href" link.href,
      .leftOut (.map .text) "header" link.header.isEmpty link.header,
      .ofOption .timestamp "expires_at" link.expiresAt])
    (by decide) (fun _ => rfl) (fun _ => rfl) ?_ ?_
  · intro link
    simp [toJson]
  -- The fields are read one by one; headers that were left out are read as the empty map.
  · intro link r given
    rw [Faithful.text.required (given "href"),
      (Faithful.map .text).withDefault (given "header") SortedMap.eq_empty_of_isEmpty,
      Faithful.timestamp.optional (given "expires_at")]
    rfl

/-- Links are an object whose members have the names of the links. -/
theorem Links.faithful : Faithful Links.toJson Links.ofJson? where
  read_write links := by
    rw [ofJson?, toJson, (Faithful.map Link.faithful).read_write]
    rfl
  plain links := (Faithful.map Link.faithful).plain links.byName
  ne_null links := (Faithful.map Link.faithful).ne_null links.byName

/-- Links that are left out as empty are the ones that stand for none. -/
theorem Links.eq_none_of_isEmpty {links : Links} (empty : links.isEmpty = true) :
    links = .none := by
  obtain ⟨byName⟩ := links
  exact congrArg Links.mk (SortedMap.eq_empty_of_isEmpty empty)

/-! ### Batches -/

/-- An operation is written as its name, and both names are told apart. -/
theorem Operation.faithful : Faithful Operation.toJson Operation.ofJson? where
  read_write operation := by
    -- A name alone is read as a variant without content.
    have named : operation.toJson.variant? = some (operation.name, none) := by
      rw [toJson, Json.ofString, Json.variant?, Json.unescape_escape, Option.map_some]
    rw [ofJson?, named]
    cases operation <;> rfl
  plain operation := Faithful.text.plain operation.name
  ne_null operation := Faithful.text.ne_null operation.name

/-- The name and the size of an object are always there. -/
theorem ObjectMeta.faithful : Faithful ObjectMeta.toJson ObjectMeta.ofJson? := by
  refine .record (fun object => [.always .text "oid" object.oid,
      .always .uint64 "size" object.size])
    (by decide) (fun _ => rfl) (fun _ => rfl) (fun _ => rfl) fun object r given => ?_
  rw [Faithful.text.required (given "oid"), Faithful.uint64.required (given "size")]
  rfl

/-- A reference is its name. -/
theorem Ref.faithful : Faithful Ref.toJson Ref.ofJson? := by
  refine .record (fun ref => [.always .text "name" ref.name])
    (by decide) (fun _ => rfl) (fun _ => rfl) (fun _ => rfl) fun ref r given => ?_
  rw [Faithful.text.required (given "name")]
  rfl

/-- A request for a batch: transfers that are left out are read as an empty list, and the reference
    is there only if one was given. -/
theorem BatchRequest.faithful : Faithful BatchRequest.toJson BatchRequest.ofJson? := by
  refine .record (fun request => [.always Operation.faithful "operation" request.operation,
      .leftOut (.list .text) "transfers" request.transfers.isEmpty request.transfers,
      .ofOption Ref.faithful "ref" request.ref,
      .always (.list ObjectMeta.faithful) "objects" request.objects])
    (by decide) (fun _ => rfl) (fun _ => rfl) ?_ fun request r given => ?_
  · intro request
    simp [toJson, Ref.member]
  -- Transfers that were left out are read as none, which is what they were.
  · rw [Operation.faithful.required (given "operation"),
      (Faithful.list .text).withDefault (given "transfers") List.isEmpty_iff.1,
      Ref.faithful.optional (given "ref"),
      (Faithful.list ObjectMeta.faithful).required (given "objects")]
    rfl

/-- An error of a single object: its code and its message. -/
theorem ObjectError.faithful : Faithful ObjectError.toJson ObjectError.ofJson? := by
  refine .record (fun error => [.always .int32 "code" error.code,
      .always .text "message" error.message])
    (by decide) (fun _ => rfl) (fun _ => rfl) (fun _ => rfl) fun error r given => ?_
  rw [Faithful.int32.required (given "code"), Faithful.text.required (given "message")]
  rfl

/-- What a batch says of one object.  Without links or an error their members are missing. -/
theorem BatchItem.faithful : Faithful BatchItem.toJson BatchItem.ofJson? := by
  refine .record (fun item => [.always .text "oid" item.oid, .always .uint64 "size" item.size,
      .leftOut Links.faithful "actions" item.actions.isEmpty item.actions,
      .ofOption ObjectError.faithful "error" item.error])
    (by decide) (fun _ => rfl) (fun _ => rfl) ?_ fun item r given => ?_
  · intro item
    -- Whether there are links is what the writer looks at, and so is whether there is an error.
    simp [toJson]
  · rw [Faithful.text.required (given "oid"),
      Faithful.uint64.withDefault_always (given "size"),
      Links.faithful.withDefault (given "actions") Links.eq_none_of_isEmpty,
      ObjectError.faithful.optional (given "error")]
    rfl

/-- The answer to a batch: how objects are moved, if it says so, and the items. -/
theorem BatchResponse.faithful : Faithful BatchResponse.toJson BatchResponse.ofJson? := by
  refine .record (fun response => [.ofOption .text "transfer" response.transfer,
      .always (.list BatchItem.faithful) "objects" response.objects])
    (by decide) (fun _ => rfl) (fun _ => rfl) ?_ fun response r given => ?_
  · intro response
    simp [toJson]
  · rw [Faithful.text.optional (given "transfer"),
      (Faithful.list BatchItem.faithful).withDefault_always (given "objects")]
    rfl

/-- What is told of a single object.  Its links are written even if there are none. -/
theorem ObjectInfo.faithful : Faithful ObjectInfo.toJson ObjectInfo.ofJson? := by
  refine .record (fun info => [.always .text "oid" info.oid, .always .uint64 "size" info.size,
      .always Links.faithful "actions" info.links])
    (by decide) (fun _ => rfl) (fun _ => rfl) (fun _ => rfl) fun info r given => ?_
  rw [Faithful.text.required (given "oid"), Faithful.uint64.required (given "size"),
    Links.faithful.withDefault_always (given "actions")]
  rfl

/-! ### Locks -/

/-- An owner is a name. -/
theorem LockOwner.faithful : Faithful LockOwner.toJson LockOwner.ofJson? := by
  refine .record (fun owner => [.always .text "name" owner.name])
    (by decide) (fun _ => rfl) (fun _ => rfl) (fun _ => rfl) fun owner r given => ?_
  rw [Faithful.text.required (given "name")]
  rfl

/-- A lock may have no owner; its time is always there. -/
theorem Lock.faithful : Faithful Lock.toJson Lock.ofJson? := by
  refine .record (fun lock => [.always .text "id" lock.id, .always .text "path" lock.path,
      .ofOption LockOwner.faithful "owner" lock.owner,
      .always .timestamp "locked_at" lock.lockedAt])
    (by decide) (fun _ => rfl) (fun _ => rfl) ?_ fun lock r given => ?_
  · intro lock
    simp [toJson]
  · rw [Faithful.text.required (given "id"), Faithful.text.required (given "path"),
      LockOwner.faithful.optional (given "owner"), Faithful.timestamp.required (given "locked_at")]
    rfl

/-- A request for a lock: the path, and the reference if there is one. -/
theorem CreateLockRequest.faithful :
    Faithful CreateLockRequest.toJson CreateLockRequest.ofJson? := by
  refine .record (fun request => [.always .text "path" request.path,
      .ofOption Ref.faithful "ref" request.ref])
    (by decide) (fun _ => rfl) (fun _ => rfl) ?_ fun request r given => ?_
  · intro request
    simp [toJson, Ref.member]
  · rw [Faithful.text.required (given "path"), Ref.faithful.optional (given "ref")]
    rfl

/-- The answer to a request for a lock holds the lock alone. -/
theorem LockResponse.faithful : Faithful LockResponse.toJson LockResponse.ofJson? := by
  refine .record (fun response => [.always Lock.faithful "lock" response.lock])
    (by decide) (fun _ => rfl) (fun _ => rfl) (fun _ => rfl) fun response r given => ?_
  rw [Lock.faithful.required (given "lock")]
  rfl

/-- A conflict: the lock that is in the way, and a message. -/
theorem LockConflict.faithful : Faithful LockConflict.toJson LockConflict.ofJson? := by
  refine .record (fun conflict => [.always Lock.faithful "lock" conflict.lock,
      .always .text "message" conflict.message])
    (by decide) (fun _ => rfl) (fun _ => rfl) (fun _ => rfl) fun conflict r given => ?_
  rw [Lock.faithful.required (given "lock"),
    Faithful.text.withDefault_always (given "message")]
  rfl

/-- A request to remove a lock says whether by force. -/
theorem DeleteLockRequest.faithful :
    Faithful DeleteLockRequest.toJson DeleteLockRequest.ofJson? := by
  refine .record (fun request => [.always .bool "force" request.force,
      .ofOption Ref.faithful "ref" request.ref])
    (by decide) (fun _ => rfl) (fun _ => rfl) ?_ fun request r given => ?_
  · intro request
    simp [toJson, Ref.member]
  · rw [Faithful.bool.required (given "force"), Ref.faithful.optional (given "ref")]
    rfl

/-- A page of locks, and the cursor of the next page if there is one. -/
theorem LockPage.faithful : Faithful LockPage.toJson LockPage.ofJson? := by
  refine .record (fun page => [.always (.list Lock.faithful) "locks" page.locks,
      .ofOption .text "next_cursor" page.nextCursor])
    (by decide) (fun _ => rfl) (fun _ => rfl) ?_ fun page r given => ?_
  · intro page
    simp [toJson, cursorMember]
  · rw [(Faithful.list Lock.faithful).withDefault_always (given "locks"),
      Faithful.text.optional (given "next_cursor")]
    rfl

/-- A request to tell locks apart, for a reference or from a cursor. -/
theorem VerifyRequest.faithful : Faithful VerifyRequest.toJson VerifyRequest.ofJson? := by
  refine .record (fun request => [.ofOption Ref.faithful "ref" request.ref,
      .ofOption .text "cursor" request.cursor])
    (by decide) (fun _ => rfl) (fun _ => rfl) ?_ fun request r given => ?_
  · intro request
    simp [toJson, Ref.member, cursorMember]
  · rw [Ref.faithful.optional (given "ref"), Faithful.text.optional (given "cursor")]
    rfl

/-- A page of locks told apart, like a page of locks but with two lists. -/
theorem VerifyPage.faithful : Faithful VerifyPage.toJson VerifyPage.ofJson? := by
  refine .record (fun page => [.always (.list Lock.faithful) "ours" page.ours,
      .always (.list Lock.faithful) "theirs" page.theirs,
      .ofOption .text "next_cursor" page.nextCursor])
    (by decide) (fun _ => rfl) (fun _ => rfl) ?_ fun page r given => ?_
  · intro page
    simp [toJson, cursorMember]
  · rw [(Faithful.list Lock.faithful).withDefault_always (given "ours"),
      (Faithful.list Lock.faithful).withDefault_always (given "theirs"),
      Faithful.text.optional (given "next_cursor")]
    rfl

end Api

end LargeFiles
