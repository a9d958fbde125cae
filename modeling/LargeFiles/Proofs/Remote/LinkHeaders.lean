import LargeFiles.Proofs.Remote.Upload

/-!
# Headers of requests through links

A request through a link says what the link says, as often as the link spells it, and what the
client says itself, whatever the link has said.  What every request says is only added where
nothing is said of it.  So whether one of the headers that may be given once is given twice is told
by the link and by what the request is for.

* `Request.names_withHeaders?`     headers are added to those before them;
* `Request.single_complete_iff`    what every request says doubles nothing;
* `Passage.names_request?`         the names in a request through a link;
* `Passage.single_iff`             whether one of them is there twice;
* `Passage.fits_of_silent`         a link that says nothing of them gives no conflict;
* `singly_headed_iff`              what is sent by uploads and downloads.
-/

namespace LargeFiles

open Http (Exchange Header Network Request Response)

/-! ### Names -/

namespace Http

/-- A name as it is sent. -/
def Header.sentName (name : String) : String := String.ofList (name.toList.map Char.toLower)

/-- The headers that a request should carry once at most. -/
def Header.singular : List String := ["content-type", "content-length", "accept"]

/-- A header is sent under the name in lower case. -/
theorem Header.name_of_make? {name value : String} {header : Header}
    (made : make? name value = some header) : header.name = sentName name := by
  rw [make?] at made
  split at made
  · cases made
    rfl
  · cases made

/-- Headers that are made of some pairs have their names. -/
theorem Header.names_of_mapM_make? {pairs : List (String × String)} {headers : List Header}
    (made : pairs.mapM (fun pair => make? pair.1 pair.2) = some headers) :
    headers.map (·.name) = pairs.map fun pair => sentName pair.1 := by
  induction pairs generalizing headers with
  | nil =>
    cases made
    rfl
  | cons pair rest ih =>
    simp only [List.mapM_cons, Option.bind_eq_bind, Option.pure_def, Option.bind_eq_some_iff,
      Option.some.injEq] at made
    obtain ⟨header, first, others, second, rfl⟩ := made
    rw [List.map_cons, List.map_cons, name_of_make? first, ih second]

namespace Request

/-- The names of the headers, in the order in which they were set. -/
def names (request : Request) : List String := request.headers.map (·.name)

/-- No header of those that should be there once at most is there twice. -/
def Single (request : Request) : Prop :=
  ∀ name ∈ Header.singular, request.names.count name ≤ 1

instance (request : Request) : Decidable request.Single :=
  inferInstanceAs (Decidable (∀ name ∈ Header.singular, request.names.count name ≤ 1))

variable {request other : Request}

/-- The only header of a fresh request shows the user that its URL names. -/
theorem eq_of_mem_names_ofUrl {method : Method} {url : Url} {name : String}
    (mem : name ∈ (ofUrl method url).names) : name = "authorization" := by
  rw [ofUrl] at mem
  cases named : userOf? url with
  | none => simp [named, names] at mem
  | some user => simpa [named, names] using mem

/-- Headers are set under the names that they are sent with, in order. -/
theorem names_withHeaders? {pairs : List (String × String)}
    (set : request.withHeaders? pairs = some other) :
    other.names = request.names ++ pairs.map fun pair => Header.sentName pair.1 := by
  rw [withHeaders?_eq] at set
  obtain ⟨headers, made, rfl⟩ := Option.map_eq_some_iff.1 set
  rw [names, List.map_append, Header.names_of_mapM_make? made]
  rfl

theorem hasHeader_eq_true_iff {name : String} :
    request.hasHeader name = true ↔ name ∈ request.names := by
  simp [hasHeader, names]

/-- A header that is added only if it is not there is not there twice. -/
theorem count_names_withDefault_le_one_iff (name value other : String) :
    (request.withDefault name value).names.count other ≤ 1 ↔ request.names.count other ≤ 1 := by
  rw [withDefault]
  split
  · rfl
  · next absent =>
    rw [hasHeader_eq_true_iff] at absent
    have added : ({ request with headers := request.headers ++ [⟨name, value⟩] } : Request).names =
        request.names ++ [name] := List.map_append
    rw [added, List.count_append]
    -- A header is added only where there is none of its name, so it is the only one then.
    by_cases same : other = name
    · subst same
      simp [List.count_eq_zero_of_not_mem absent]
    · have none : [name].count other = 0 := List.count_eq_zero_of_not_mem (by simp [same])
      rw [none, Nat.add_zero]

/-- A default header is set only where there is none, so no name becomes a second one. -/
theorem single_withDefault_iff (name value : String) :
    (request.withDefault name value).Single ↔ request.Single :=
  forall₂_congr fun other _ => count_names_withDefault_le_one_iff name value other

/-- Completing a request sets no name a second time. -/
theorem single_complete_iff (userAgent : String) :
    (request.complete userAgent).Single ↔ request.Single := by
  have start : ((request.withDefault "accept" "*/*").withDefault "user-agent" userAgent).Single ↔
      request.Single := by
    rw [single_withDefault_iff, single_withDefault_iff]
  rw [complete]
  split
  · exact start
  · rw [single_withDefault_iff, start]

end Request

end Http

/-- The names of the headers of a link as they are sent.  Those that the link spells in several ways
    are there several times. -/
def Api.Link.names (link : Api.Link) : List String :=
  link.header.toList.map fun pair => Header.sentName pair.1

namespace Remote

/-! ### Requests through a link -/

/-- What a request through a link is for. -/
inductive Passage
  | upload (content : Bytes) (size : UInt64)
  | verify (object : Api.ObjectMeta)
  | download

namespace Passage

/-- The link among those of an object that is for it. -/
def link? (links : Api.Links) : Passage → Option Api.Link
  | upload _ _ => links.upload?
  | verify _ => links.verify?
  | download => links.download?

/-- The request through a link. -/
def request? (link : Api.Link) : Passage → Option Request
  | upload content size => Connection.uploadRequest? link content size
  | verify object => Connection.verifyRequest? link object
  | download => Connection.transferRequest? .get link

/-- The headers that the client sets itself. -/
def own : Passage → List (String × String)
  | upload _ size =>
    [("content-type", "application/octet-stream"), ("content-length", toString size.toNat)]
  | verify _ => [("accept", Endpoint.mediaType), ("content-type", Endpoint.mediaType)]
  | download => []

/-- The names of the headers that the client sets itself, as they are sent. -/
def names (passage : Passage) : List String :=
  passage.own.map fun pair => Header.sentName pair.1

/-- The link leaves it to the client to set what it sets itself, and spells nothing in two ways:
    of the headers that should be there once at most, the two together name none twice. -/
def Fits (passage : Passage) (link : Api.Link) : Prop :=
  ∀ name ∈ Header.singular, link.names.count name + passage.names.count name ≤ 1

instance (passage : Passage) (link : Api.Link) : Decidable (passage.Fits link) :=
  inferInstanceAs (Decidable (∀ name ∈ Header.singular,
    link.names.count name + passage.names.count name ≤ 1))

variable {passage : Passage} {link : Api.Link} {request : Request}

/-- The client sets no header twice by itself. -/
theorem nodup_names (passage : Passage) : passage.names.Nodup := by
  cases passage with
  | upload content size =>
    show [Header.sentName "content-type", Header.sentName "content-length"].Nodup
    decide
  | verify object =>
    show [Header.sentName "accept", Header.sentName "content-type"].Nodup
    decide
  | download => exact .nil

/-- A link that says nothing of the headers that should be there once at most fits everything. -/
theorem fits_of_silent (silent : ∀ name ∈ Header.singular, name ∉ link.names) :
    passage.Fits link := by
  intro name singular
  rw [List.count_eq_zero_of_not_mem (silent name singular), Nat.zero_add]
  exact List.nodup_iff_count.1 passage.nodup_names name

/-- There is a request for every purpose through a link that can be used. -/
theorem exists_request? (usable : link.Usable) (passage : Passage) :
    ∃ request, passage.request? link = some request := by
  cases passage with
  | upload content size =>
    obtain ⟨request, built, -⟩ := Connection.exists_uploadRequest? usable content size
    exact ⟨request, built⟩
  | verify object =>
    obtain ⟨request, built, -⟩ := Connection.exists_verifyRequest? usable object
    exact ⟨request, built⟩
  | download =>
    obtain ⟨request, built, -⟩ := Connection.exists_transferRequest? usable .get
    exact ⟨request, built⟩

/-- A transfer has the names of its address and those of its link. -/
theorem names_transferRequest? {method : Http.Method}
    (built : Connection.transferRequest? method link = some request) :
    ∃ url, request.names = (Request.ofUrl method url).names ++ link.names := by
  rw [Connection.transferRequest?, Option.bind_eq_bind, Option.bind_eq_some_iff] at built
  obtain ⟨start, fresh, set⟩ := built
  obtain ⟨url, -, rfl⟩ := Option.map_eq_some_iff.1 fresh
  exact ⟨url, Request.names_withHeaders? set⟩

/-- What the client sets itself goes after what the link says. -/
theorem names_withHeaders? (passage : Passage) {method : Http.Method} {start : Request}
    (linked : Connection.transferRequest? method link = some start)
    (set : start.withHeaders? passage.own = some request) :
    ∃ url, request.names = (Request.ofUrl method url).names ++ link.names ++ passage.names := by
  obtain ⟨url, named⟩ := names_transferRequest? linked
  refine ⟨url, ?_⟩
  rw [← named]
  exact Request.names_withHeaders? set

/-- The names in a request: what shows the user of its URL, and then what the link says and what the
    client sets itself. -/
theorem names_request? (built : passage.request? link = some request) :
    ∃ method url,
      request.names = (Request.ofUrl method url).names ++ link.names ++ passage.names := by
  cases passage with
  -- The headers of the link come first, and those of the passage are set after them.
  | upload content size =>
    simp only [request?, Connection.uploadRequest?, Option.bind_eq_bind, Option.pure_def,
      Option.bind_eq_some_iff, Option.some.injEq] at built
    obtain ⟨start, linked, headed, set, rfl⟩ := built
    obtain ⟨url, named⟩ := names_withHeaders? (.upload content size) linked set
    exact ⟨.put, url, named⟩
  | verify object =>
    simp only [request?, Connection.verifyRequest?, Option.bind_eq_bind, Option.pure_def,
      Option.bind_eq_some_iff, Option.some.injEq] at built
    obtain ⟨start, linked, headed, set, rfl⟩ := built
    obtain ⟨url, named⟩ := names_withHeaders? (.verify object) linked set
    exact ⟨.post, url, named⟩
  | download => exact ⟨.get, names_withHeaders? .download built rfl⟩

/-- No name is there twice exactly if the passage fits the link. -/
theorem single_iff (built : passage.request? link = some request) :
    request.Single ↔ passage.Fits link := by
  obtain ⟨method, url, named⟩ := names_request? built
  refine forall₂_congr fun name singular => ?_
  -- What shows a user is none of the headers that are counted.
  have none : (Request.ofUrl method url).names.count name = 0 := by
    refine List.count_eq_zero_of_not_mem fun mem => ?_
    rw [Request.eq_of_mem_names_ofUrl mem] at singular
    exact absurd singular (by decide)
  rw [named, List.count_append, List.count_append, none, Nat.zero_add]

end Passage

/-! ### What is sent -/

/-- A request was sent for a purpose through the link for it, among the links of an object.  It is
    single if and only if the purpose fits the link. -/
structure Connection.Passes (c : Connection) (links : Api.Links) (passage : Passage)
    (link : Api.Link) (request : Request) : Prop where
  through : passage.link? links = some link
  built : (passage.request? link).map (·.complete c.userAgent) = some request
  single_iff : request.Single ↔ passage.Fits link

/-- All that was sent went through links of an object. -/
def Connection.AllPass (c : Connection) (links : Api.Links) (log : List Exchange) : Prop :=
  ∀ exchange ∈ log, ∃ passage link, c.Passes links passage link exchange.request

namespace Connection

variable (c : Connection) {links : Api.Links}

/-- What every request says is said in the request that is built. -/
theorem passes_complete {passage : Passage} {link : Api.Link} {request : Request}
    (through : passage.link? links = some link) (built : passage.request? link = some request) :
    c.Passes links passage link (request.complete c.userAgent) where
  through := through
  built := by rw [built, Option.map_some]
  single_iff := by rw [Request.single_complete_iff, Passage.single_iff built]

theorem allPass_nil : c.AllPass links [] := List.forall_mem_nil _

/-- One request through a link. -/
theorem converses_pass {α : Type} (passage : Passage) {link : Api.Link}
    (through : passage.link? links = some link) (endpoint : String)
    (read : Response → Except RemoteError α) :
    (c.send (passage.request? link) endpoint >>= fun response =>
      .ofExcept (read response)).Converses id fun log _ => c.AllPass links log := by
  cases built : passage.request? link with
  | none => exact .throw c.allPass_nil
  | some request =>
    refine (c.converses_ask rfl endpoint read).imp ?_
    rintro _ _ ⟨response, rfl, -⟩
    exact List.forall_mem_singleton.2 ⟨passage, link, c.passes_complete through built⟩

/-- An upload sends only requests that pass along its links. -/
theorem converses_putObject_allPass (source : Source) (object : Api.ObjectMeta) :
    (c.putObject source object links).Converses id fun log _ => c.AllPass links log := by
  rw [putObject]
  cases whereto : links.upload? with
  | none => exact .pure c.allPass_nil
  | some upload =>
    cases source with
    -- A content that cannot be read is found out before anything is sent.
    | error error => exact .throw c.allPass_nil
    | ok content =>
      dsimp only
      rw [← bind_assoc]
      apply (c.converses_pass (.upload content object.size) whereto upload.href _).bind
      · exact fun log error sent => sent
      · intro log done sent
        cases announce : links.verify? with
        | none =>
          refine .pure ?_
          rwa [List.append_nil]
        | some verify =>
          dsimp only
          rw [← bind_assoc]
          -- Whether the announcement is accepted or not, it comes after the content.
          apply (c.converses_pass (.verify object) announce verify.href _).bind
          · exact fun log' error sent' => List.forall_mem_append.2 ⟨sent, sent'⟩
          · intro log' done' sent'
            refine .pure ?_
            rw [List.append_nil]
            exact List.forall_mem_append.2 ⟨sent, sent'⟩

/-- A download sends only requests that pass along its link. -/
theorem converses_getObject_allPass :
    (c.getObject links).Converses id fun log _ => c.AllPass links log := by
  rw [getObject]
  cases whence : links.download? with
  | none => exact .throw c.allPass_nil
  | some link => exact c.converses_pass .download whence link.href _

end Connection

/-- For every purpose there is a request through a link that can be used, and none of its headers
    that should be there once at most is there twice if and only if the link and the client
    together name none of them twice.  Uploads and downloads send nothing but such requests. -/
theorem singly_headed_iff {network : Network} (reachable : network.reachable = true)
    (c : Connection) (links : Api.Links) :
    (∀ (passage : Passage) (link : Api.Link), passage.link? links = some link → link.Usable →
      ∃ request, c.Passes links passage link request) ∧
    (∀ source object,
      ∃ log, network.Exchanges log ((c.putObject source object links).outcome network).2 ∧
        c.AllPass links log) ∧
    ∃ log, network.Exchanges log ((c.getObject links).outcome network).2 ∧
      c.AllPass links log := by
  refine ⟨fun passage link through usable => ?_, fun source object => ?_, ?_⟩
  · obtain ⟨request, built⟩ := Passage.exists_request? usable passage
    exact ⟨_, c.passes_complete through built⟩
  · exact c.converses_putObject_allPass source object network reachable
  · exact c.converses_getObject_allPass network reachable

/-- The link for the content has a content type and that for the announcement says nothing. -/
theorem singly_headed_iff_typed :
    let typed : Api.Link :=
      { Api.Link.plain "http://cdn.test/up" with
        header := SortedMap.empty.insert "Content-Type" "text/plain" }
    let silent : Api.Link := .plain "http://lfs.test/ok"
    let links := (Api.Links.none.insert "upload" typed).insert "verify" silent
    let c : Connection := ⟨"http://lfs.test", .anonymous, "gsv-lfs/0.1.0", 0⟩
    let network : Network := ⟨true, [⟨200, [], .whole⟩, ⟨200, [], .whole⟩], []⟩
    let outcome := (c.putObject (.ok [1, 2]) ⟨"ab", 2⟩ links).outcome network
    (∃ request, c.Passes links (.upload [1, 2] 2) typed request) ∧
    (∃ log, network.Exchanges log outcome.2 ∧ c.AllPass links log) ∧
    ¬ (Passage.upload [1, 2] 2).Fits typed ∧
    (Passage.verify ⟨"ab", 2⟩).Fits silent ∧
    outcome.2.sent.map (fun request => (request.url.path, decide request.Single)) =
      [(["up"], false), (["ok"], true)] := by
  intro typed silent links c network outcome
  obtain ⟨through, put, -⟩ := singly_headed_iff (rfl : network.reachable = true) c links
  -- The upload has a content type twice, and the verification, whose link is silent, none.
  exact ⟨through (.upload [1, 2] 2) typed (by decide +kernel) (by decide +kernel),
    put (.ok [1, 2]) ⟨"ab", 2⟩, by decide +kernel, Passage.fits_of_silent (by decide +kernel),
    by decide +kernel⟩

/-- A link with a content type gets another one from the client, and one that spells a name in two
    ways has both sent. -/
theorem typed_link_doubled :
    let typed : Api.Link :=
      { Api.Link.plain "http://cdn.test/up" with
        header := SortedMap.empty.insert "Content-Type" "text/plain" }
    let respelled : Api.Link :=
      { Api.Link.plain "http://cdn.test/ab" with
        header := (SortedMap.empty.insert "Accept" "text/plain").insert "accept" "*/*" }
    let links := (Api.Links.none.insert "upload" typed).insert "download" respelled
    let c : Connection := ⟨"http://lfs.test", .anonymous, "gsv-lfs/0.1.0", 0⟩
    let network : Network := ⟨true, [⟨200, [], .whole⟩], []⟩
    let put := (c.putObject (.ok [1, 2]) ⟨"ab", 2⟩ links).outcome network
    let got := (c.getObject links).outcome network
    typed.Usable ∧ respelled.Usable ∧
    put.2.sent.map (·.names) =
      [["content-type", "content-type", "content-length", "accept", "user-agent"]] ∧
    got.2.sent.map (·.names) = [["accept", "accept", "user-agent"]] ∧
    ∀ request ∈ put.2.sent ++ got.2.sent, ¬ request.Single := by
  -- The headers of both links are legal; only their names are those that the client sets itself.
  decide +kernel

end Remote

end LargeFiles
