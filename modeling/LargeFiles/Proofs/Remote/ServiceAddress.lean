import LargeFiles.Proofs.Http.Tidy
import LargeFiles.Proofs.Remote.Acquisition
import LargeFiles.Proofs.Remote.Cursors

/-!
# Where the service is

The calls whose paths are fixed go to paths below the address that is configured.  Wherever that
address names a host, they go to this host; and they go to their paths there if and only if the
address is a tidy base.  A configuration is fit for use whether or not it is.

* `FixedCall.converses_run`       what such a call sends;
* `requests_addressed_iff`        where it goes.
-/

namespace LargeFiles.Remote

open Http (Exchange Network Request Url)

/-- A call of the API with the same path whatever it is about. -/
inductive FixedCall where
  | batch (request : Api.BatchRequest)
  | lock (path : String) (ref : Option Api.Ref)
  | list (path lockId : Option String) (ref : Option Api.Ref)
  | verify (ref : Option Api.Ref)

namespace FixedCall

/-- The call on a connection, whatever it gives. -/
def run (c : Connection) : FixedCall → Session Network RemoteError Unit
  | batch request => (fun _ => ()) <$> c.postBatch request
  | lock path ref => (fun _ => ()) <$> c.lock path ref
  | list path lockId ref => (fun _ => ()) <$> c.listLocks path lockId ref
  | verify ref => (fun _ => ()) <$> c.verifyLocks ref

/-- The path of the call, as it is put below the address of the service. -/
def path : FixedCall → String
  | batch _ => Endpoint.batch
  | lock .. | list .. => Endpoint.locks
  | verify _ => Endpoint.locksVerify

/-- The segments of the path. -/
def names : FixedCall → List String
  | batch _ => ["objects", "batch"]
  | lock .. | list .. => ["locks"]
  | verify _ => ["locks", "verify"]

/-- What is asked where the path is.  Only a page of listed locks has parameters. -/
def asked (call : FixedCall) (cursor : Option String) (url : Url) : Url :=
  match call with
  | list path lockId ref =>
    url.withQuery (Connection.parameter "path" path ++ Connection.parameter "id" lockId ++
      Connection.parameter "refspec" (ref.map (·.name)) ++ Connection.parameter "cursor" cursor)
  | _ => url

/-- The paths of the calls are parts of addresses. -/
theorem isPart (call : FixedCall) : Url.IsPart call.path call.names := by
  have batch : Url.IsPart Endpoint.batch ["objects", "batch"] :=
    ⟨List.all_eq_true.1 (by decide), by decide, by decide, by decide⟩
  have locks : Url.IsPart Endpoint.locks ["locks"] :=
    ⟨List.all_eq_true.1 (by decide), by decide, by decide, by decide⟩
  have verify : Url.IsPart Endpoint.locksVerify ["locks", "verify"] :=
    ⟨List.all_eq_true.1 (by decide), by decide, by decide, by decide⟩
  cases call <;> assumption

/-- Parameters change nothing but the query. -/
theorem asked_eq (call : FixedCall) (cursor : Option String) (url : Url) :
    call.asked cursor url = { url with query := (call.asked cursor url).query } := by
  cases call with
  | list path lockId ref =>
    rw [asked, Url.withQuery]
    split <;> rfl
  | _ => rfl

/-- A request goes to the path of a call. -/
def Reaches (c : Connection) (call : FixedCall) (request : Request) : Prop :=
  ∃ url cursor, Url.parse? (c.address call.path) = some url ∧
    request.url.withoutUser = (call.asked cursor url).withoutUser

variable {c : Connection}

/-- A call that is posted, without a query, reaches its address. -/
theorem reaches_of_posts (call : FixedCall) (noQuery : ∀ cursor url, call.asked cursor url = url)
    {message : Json} {request : Request} (posts : c.Posts call.path message request) :
    call.Reaches c request := by
  obtain ⟨url, read, asks⟩ := posts
  exact ⟨url, none, read, by rw [noQuery, asks.url]⟩

/-- A call sends at least one request, and all of them go to its path. -/
theorem converses_run (builds : c.Builds) (call : FixedCall) :
    (call.run c).Converses id fun log _ =>
      log ≠ [] ∧ ∀ exchange ∈ log, call.Reaches c exchange.request := by
  cases call with
  | batch request =>
    refine (Connection.converses_postBatch builds request).map ?_
    rintro _ _ ⟨ask, rfl, posts, -⟩
    refine ⟨by simp, List.forall_mem_singleton.2 ?_⟩
    exact reaches_of_posts (.batch request) (fun _ _ => rfl) posts
  | lock path ref =>
    refine (Connection.converses_lock builds path ref).map ?_
    rintro _ _ ⟨create, rfl, posts, -⟩
    refine ⟨by simp, List.forall_mem_singleton.2 ?_⟩
    exact reaches_of_posts (.lock path ref) (fun _ _ => rfl) posts
  -- Only the query differs from page to page.
  | list path lockId ref =>
    refine (Connection.converses_listLocks builds path lockId ref).map ?_
    rintro log _ ⟨pages, walk, -⟩
    refine ⟨walk.ne_nil, fun exchange mem => ?_⟩
    obtain ⟨cursor, url, read, asks⟩ := walk.exists_asks mem
    exact ⟨url, cursor, read, asks.url⟩
  | verify ref =>
    refine (Connection.converses_verifyLocks builds ref).map ?_
    rintro log _ ⟨pages, walk, -⟩
    refine ⟨walk.ne_nil, fun exchange mem => ?_⟩
    obtain ⟨cursor, posts⟩ := walk.exists_asks mem
    exact reaches_of_posts (.verify ref) (fun _ _ => rfl) posts

/-- What a call sends on a fresh network that is within reach. -/
def sent (c : Connection) (call : FixedCall) (replies : List Http.Reply) : List Request :=
  ((call.run c).outcome ⟨true, replies, []⟩).2.sent

/-- Every request that a call sends reaches the address of the call. -/
theorem reaches_of_mem_sent (builds : c.Builds) {call : FixedCall} {replies : List Http.Reply}
    {request : Request} (mem : request ∈ call.sent c replies) : call.Reaches c request := by
  obtain ⟨log, made, -, each⟩ := converses_run builds call ⟨true, replies, []⟩ rfl
  have whole : call.sent c replies = log.map (·.request) := made.sent
  rw [whole] at mem
  obtain ⟨exchange, made_mem, rfl⟩ := List.mem_map.1 mem
  exact each exchange made_mem

/-- A call sends at least one request. -/
theorem sent_ne_nil (builds : c.Builds) (call : FixedCall) (replies : List Http.Reply) :
    call.sent c replies ≠ [] := by
  obtain ⟨log, made, some, -⟩ := converses_run builds call ⟨true, replies, []⟩ rfl
  have whole : call.sent c replies = log.map (·.request) := made.sent
  rw [whole]
  simpa using some

end FixedCall

/-- The addresses of an open connection are joined to the configured one. -/
theorem address_of_open? {config : Config} {credentials : Credentials} {c : Connection}
    (opened : Connection.open? config credentials = .ok c) (path : String) :
    c.address path = Endpoint.join config.url path := by
  rw [Connection.open?] at opened
  split at opened
  · cases opened
    exact Endpoint.join_withoutSlashes config.url path
  · cases opened

/-- Where the calls go.  If the address that is configured names a host, they go to this host.  They
    go to their paths below the path of this address, with nothing in the query but their
    parameters, if and only if the address is a tidy base.  Hosts outside ASCII are not read, and no
    requests are built for them. -/
theorem requests_addressed_iff {config : Config} {credentials : Credentials} {c : Connection}
    (opened : Connection.open? config credentials = .ok c) (builds : c.Builds) :
    (∀ (call : FixedCall) (replies : List Http.Reply), ∀ request ∈ call.sent c replies,
      ∀ base, Url.parse? config.url = some base →
        request.url.secure = base.secure ∧ request.url.host = base.host ∧
          request.url.port = base.port) ∧
    ((∀ (call : FixedCall) (replies : List Http.Reply), ∀ request ∈ call.sent c replies,
        ∃ base cursor, Url.parse? config.url = some base ∧
          request.url.withoutUser =
            (call.asked cursor (base.below call.names)).withoutUser) ↔
      Url.Tidy config.url) := by
  refine ⟨fun call replies request mem base read => ?_, fun each => ?_, fun tidy => ?_⟩
  · obtain ⟨url, cursor, joined, same⟩ := FixedCall.reaches_of_mem_sent builds mem
    rw [address_of_open? opened] at joined
    rw [call.asked_eq, Url.eq_of_parse?_join read joined] at same
    -- What is pasted behind the address changes its path and query at most.
    have secure := congrArg Url.secure same
    have host := congrArg Url.host same
    have port := congrArg Url.port same
    exact ⟨secure, host, port⟩
  · -- One request tells enough, for example one for a lock.
    let call : FixedCall := .lock "" none
    obtain ⟨request, mem⟩ := List.exists_mem_of_ne_nil _ (FixedCall.sent_ne_nil builds call [])
    obtain ⟨base, cursor, read, goes⟩ := each call [] request mem
    obtain ⟨url, cursor', joined, same⟩ := FixedCall.reaches_of_mem_sent builds mem
    rw [address_of_open? opened] at joined
    exact Url.tidy_of_path read call.isPart joined (congrArg Url.path (same.symm.trans goes))
  · intro call replies request mem
    obtain ⟨base, read⟩ := Option.isSome_iff_exists.1 tidy.read
    obtain ⟨url, cursor, joined, same⟩ := FixedCall.reaches_of_mem_sent builds mem
    rw [address_of_open? opened, Url.parse?_join_of_tidy tidy read call.isPart,
      Option.some.injEq] at joined
    exact ⟨base, cursor, read, joined ▸ same⟩

/-- An address with slashes at its end is a tidy base. -/
theorem requests_addressed_iff_slashes :
    let config : Config := .ofUrl "https://lfs.test:8443/info/lfs//"
    let c : Connection :=
      ⟨"https://lfs.test:8443/info/lfs", .anonymous, config.userAgent, config.spillThreshold⟩
    config.fault? = none ∧ Connection.open? config .anonymous = .ok c ∧ c.Builds ∧
      Url.Tidy config.url ∧
      (∀ (call : FixedCall) (replies : List Http.Reply), ∀ request ∈ call.sent c replies,
        ∀ base, Url.parse? config.url = some base →
          request.url.secure = base.secure ∧ request.url.host = base.host ∧
            request.url.port = base.port) ∧
      ((∀ (call : FixedCall) (replies : List Http.Reply), ∀ request ∈ call.sent c replies,
          ∃ base cursor, Url.parse? config.url = some base ∧
            request.url.withoutUser =
              (call.asked cursor (base.below call.names)).withoutUser) ↔
        Url.Tidy config.url) := by
  intro config c
  have opened : Connection.open? config .anonymous = .ok c := by decide +kernel
  have builds : c.Builds := by decide +kernel
  exact ⟨by decide +kernel, opened, builds, by decide +kernel,
    requests_addressed_iff opened builds⟩

/-- A configuration that is fit for use, and whose requests can be built, may have its paths put
    into a query or a fragment, or have its requests sent to a host that it does not name. -/
theorem validated_base_misread :
    let config (url : String) : Config := .ofUrl url
    let sent (url : String) : List (String × List String × Option String) :=
      match Connection.open? (config url) .anonymous with
      | .ok c => (FixedCall.sent c (.verify none) []).map fun request =>
          (request.url.host, request.url.path, request.url.query)
      | .error _ => []
    (∀ url ∈ ["https://lfs.test/info/lfs?tenant=a", "https://lfs.test/info/lfs#a", "https://",
      "https://lfs.test/info/lfs "], (config url).fault? = none) ∧
      sent "https://lfs.test/info/lfs?tenant=a" =
        [("lfs.test", ["info", "lfs"], some "tenant=a/locks/verify")] ∧
      sent "https://lfs.test/info/lfs#a" = [("lfs.test", ["info", "lfs"], none)] ∧
      sent "https://" = [("locks", ["verify"], none)] ∧
      sent "https://lfs.test/info/lfs " =
        [("lfs.test", ["info", "lfs%20", "locks", "verify"], none)] := by
  -- Such addresses pass the check, which looks at their start only.
  decide +kernel

end LargeFiles.Remote
