import LargeFiles.Api.Link
import LargeFiles.Http.Request
import LargeFiles.Text.Decimal

/-!
# What requests ask for

A request asks for something by its method, its address and its body, whatever its headers are.
Steps that set headers do not change what is asked for.

* `Request.withHeaders?_eq`        the headers are set after those that were set before;
* `Request.Asks.complete`          what every request says changes nothing of what it asks for;
* `Request.Follows.complete`       nor whether it goes through a link.
-/

namespace LargeFiles

namespace Http

/-- A header is made if its name and its value are legal. -/
theorem Header.isSome_make? (name value : String) :
    (make? name value).isSome = (isLegalName name && isLegalValue value) := by
  rw [make?]
  split <;> simp_all

/-- A number is a legal value. -/
theorem Header.isLegalValue_toString (n : Nat) : isLegalValue (toString n) = true := by
  rw [isLegalValue, Text.Decimal.toList_toString, Text.Decimal.digits, List.all_eq_true]
  intro c mem
  have digit := Nat.isDigit_of_mem_toDigits (by decide) (by decide) mem
  simp only [Char.isDigit, Bool.and_eq_true, decide_eq_true_eq] at digit
  -- Digits come after the space and before the last character of ASCII.
  have low : ' ' ≤ c := UInt32.le_trans (by decide) digit.1
  have other : c ≠ '\x7f' := by
    rintro rfl
    exact absurd digit (by decide)
  simp [low, other]

/-- The URL without the user, who is named in a header of a request instead. -/
def Url.withoutUser (url : Url) : Url := { url with user := "", password := "" }

/-- Adding to the query and leaving out the user do not interfere. -/
theorem Url.withoutUser_withQuery (url : Url) (pairs : List (String × String)) :
    (url.withQuery pairs).withoutUser = url.withoutUser.withQuery pairs := by
  simp only [withQuery, withoutUser]
  split <;> rfl

namespace Request

/-- What a request asks for: by which method, of which address and with which body. -/
structure Asks (request : Request) (method : Method) (url : Url) (body : Bytes) : Prop where
  method : request.method = method
  url : request.url.withoutUser = url.withoutUser
  body : request.body = body

variable {request other : Request} {method : Method} {url : Url} {body : Bytes}

/-! ### Steps -/

/-- A new request asks what it was made for, without a body. -/
theorem asks_ofUrl (method : Method) (url : Url) : (ofUrl method url).Asks method url [] := by
  rw [ofUrl]
  cases userOf? url with
  | none => exact ⟨rfl, rfl, rfl⟩
  | some user => exact ⟨rfl, rfl, rfl⟩

/-- Headers are set one after the other. -/
theorem withHeaders?_cons (request : Request) (pair : String × String)
    (pairs : List (String × String)) :
    request.withHeaders? (pair :: pairs) =
      (request.withHeader? pair.1 pair.2).bind (·.withHeaders? pairs) := by
  simp only [withHeaders?, List.foldlM_cons, Option.bind_eq_bind]

/-- Headers are set in their order, unless one of them is illegal. -/
theorem withHeaders?_eq (request : Request) (pairs : List (String × String)) :
    request.withHeaders? pairs =
      (pairs.mapM fun pair => Header.make? pair.1 pair.2).map fun headers =>
        { request with headers := request.headers ++ headers } := by
  induction pairs generalizing request with
  | nil => simp [withHeaders?]
  | cons pair pairs ih =>
    rw [withHeaders?_cons, withHeader?, List.mapM_cons]
    cases Header.make? pair.1 pair.2 with
    | none => rfl
    | some header =>
      simp only [Option.map_some, Option.bind_some, ih, Option.bind_eq_bind]
      -- The first header is set before the others, which may still be illegal.
      cases pairs.mapM fun pair => Header.make? pair.1 pair.2 with
      | none => rfl
      | some headers => simp

/-- Legal headers can be set. -/
theorem exists_withHeaders? (request : Request) (pairs : List (String × String))
    (legal : ∀ pair ∈ pairs, (Header.make? pair.1 pair.2).isSome = true) :
    ∃ other, request.withHeaders? pairs = some other := by
  induction pairs generalizing request with
  | nil => exact ⟨request, rfl⟩
  | cons pair pairs ih =>
    rw [List.forall_mem_cons] at legal
    obtain ⟨header, made⟩ := Option.isSome_iff_exists.1 legal.1
    rw [withHeaders?_cons, withHeader?, made, Option.map_some, Option.bind_some]
    exact ih _ legal.2

/-- A longer query asks for something else, in the same way. -/
theorem Asks.withQuery (h : request.Asks method url body) (pairs : List (String × String)) :
    ({ request with url := request.url.withQuery pairs } : Request).Asks method
      (url.withQuery pairs) body := by
  refine ⟨h.method, ?_, h.body⟩
  rw [Url.withoutUser_withQuery, Url.withoutUser_withQuery, h.url]

/-- What is asked for is not told by headers. -/
theorem Asks.of_withHeaders? {pairs : List (String × String)} (h : request.Asks method url body)
    (set : request.withHeaders? pairs = some other) : other.Asks method url body := by
  rw [withHeaders?_eq] at set
  obtain ⟨headers, -, rfl⟩ := Option.map_eq_some_iff.1 set
  exact ⟨h.method, h.url, h.body⟩

/-- A default header does not change what is asked. -/
theorem Asks.withDefault (h : request.Asks method url body) (name value : String) :
    (request.withDefault name value).Asks method url body := by
  rw [Request.withDefault]
  split
  · exact h
  · exact ⟨h.method, h.url, h.body⟩

/-- What every request says is said in headers. -/
theorem Asks.complete (h : request.Asks method url body) (userAgent : String) :
    (request.complete userAgent).Asks method url body := by
  have start := (h.withDefault "accept" "*/*").withDefault "user-agent" userAgent
  rw [Request.complete]
  split
  · exact start
  · exact start.withDefault _ _

/-- Headers that were set stay. -/
theorem headers_prefix_withDefault (request : Request) (name value : String) :
    request.headers <+: (request.withDefault name value).headers := by
  rw [withDefault]
  split
  · exact List.prefix_rfl
  · exact List.prefix_append _ _

/-- The headers that were set come first. -/
theorem headers_prefix_complete (request : Request) (userAgent : String) :
    request.headers <+: (request.complete userAgent).headers := by
  have start := (request.headers_prefix_withDefault "accept" "*/*").trans
    ((request.withDefault "accept" "*/*").headers_prefix_withDefault "user-agent" userAgent)
  rw [complete]
  split
  · exact start
  · exact start.trans (headers_prefix_withDefault _ _ _)

end Request

end Http

open Http (Header Method Request Url)

/-! ### Links -/

/-- The headers that requests through a link have to carry, if all of them are legal. -/
def Api.Link.headers? (link : Api.Link) : Option (List Header) :=
  link.header.toList.mapM fun pair => Header.make? pair.1 pair.2

/-- A link that requests can be sent through: its address can be read, which takes a host in ASCII
    here, and its headers are legal. -/
structure Api.Link.Usable (link : Api.Link) : Prop where
  address : (Url.parse? link.href).isSome = true
  headers : link.headers?.isSome = true

instance (link : Api.Link) : Decidable link.Usable :=
  decidable_of_iff ((Url.parse? link.href).isSome = true ∧ link.headers?.isSome = true)
    ⟨fun h => ⟨h.1, h.2⟩, fun h => ⟨h.1, h.2⟩⟩

/-- A request goes through a link: to its address and with its headers. -/
structure Http.Request.Follows (request : Request) (link : Api.Link) (method : Method)
    (body : Bytes) : Prop where
  asks : ∃ url, Url.parse? link.href = some url ∧ request.Asks method url body
  headers : ∃ headers, link.headers? = some headers ∧ headers.Sublist request.headers

namespace Http.Request.Follows

variable {request other : Request} {link : Api.Link} {method : Method} {body : Bytes}

/-- A request that follows a link still does so with more headers. -/
theorem of_withHeaders? {pairs : List (String × String)} (h : request.Follows link method body)
    (set : request.withHeaders? pairs = some other) : other.Follows link method body := by
  obtain ⟨url, read, asks⟩ := h.asks
  obtain ⟨headers, legal, carried⟩ := h.headers
  refine ⟨⟨url, read, asks.of_withHeaders? set⟩, headers, legal, ?_⟩
  rw [withHeaders?_eq] at set
  obtain ⟨more, -, rfl⟩ := Option.map_eq_some_iff.1 set
  exact carried.trans (List.sublist_append_left _ _)

/-- Another body to the same address. -/
theorem withBody (h : request.Follows link method body) (content : Bytes) :
    ({ request with body := content } : Request).Follows link method content := by
  obtain ⟨url, read, asks⟩ := h.asks
  exact ⟨⟨url, read, asks.method, asks.url, rfl⟩, h.headers⟩

/-- A request that follows a link still does so when it is completed. -/
theorem complete (h : request.Follows link method body) (userAgent : String) :
    (request.complete userAgent).Follows link method body := by
  obtain ⟨url, read, asks⟩ := h.asks
  obtain ⟨headers, legal, carried⟩ := h.headers
  exact ⟨⟨url, read, asks.complete userAgent⟩, headers, legal,
    carried.trans (request.headers_prefix_complete userAgent).sublist⟩

end Http.Request.Follows

end LargeFiles
