import LargeFiles.Json.Record
import LargeFiles.Timestamp.Reader

/-!
# Transfer links

Where the content of an object is to be fetched from or sent to.  A server hands links out for
single objects and for a short time, with the headers that a request through them has to carry.
-/

namespace LargeFiles

namespace Json

/-- The string of a timestamp. -/
def ofTimestamp (t : Timestamp) : Json := ofString t.toText

/-- The timestamp that a string spells. -/
def timestamp? (v : Json) : Option Timestamp := v.text?.bind Timestamp.ofText?

end Json

namespace Api

/-- One short-lived transfer endpoint. -/
structure Link where
  href : String
  header : SortedMap String String
  expiresAt : Option Timestamp
  deriving DecidableEq

namespace Link

/-- A link without headers and expiry. -/
def plain (href : String) : Link := ⟨href, .empty, none⟩

def toJson (link : Link) : Json :=
  .ofMembers <|
    [("href", .ofString link.href)] ++
    (if link.header.isEmpty then [] else [("header", Json.ofMap .ofString link.header)]) ++
    link.expiresAt.toList.map (fun t => ("expires_at", .ofTimestamp t))

def ofJson? (v : Json) : Option Link := do
  let r ← v.record? [.named "href", .named "header", .named "expires_at"]
  return {
    href := ← r.required "href" Json.text?
    header := ← r.withDefault "header" .empty (Json.map? Json.text?)
    expiresAt := ← r.optional "expires_at" Json.timestamp? }

end Link

/-- The links of an object by what they are for. -/
structure Links where
  byName : SortedMap String Link
  deriving DecidableEq

namespace Links

/-- No links. -/
def none : Links := ⟨.empty⟩

instance : Inhabited Links := ⟨none⟩

/-- Adds a link under a name. -/
def insert (links : Links) (name : String) (link : Link) : Links :=
  ⟨links.byName.insert name link⟩

/-- Whether there is no link. -/
def isEmpty (links : Links) : Bool := links.byName.isEmpty

/-- Where the content can be fetched from. -/
def download? (links : Links) : Option Link := links.byName.get? "download"

/-- Where the content can be sent to. -/
def upload? (links : Links) : Option Link := links.byName.get? "upload"

/-- Where a finished upload is to be announced. -/
def verify? (links : Links) : Option Link := links.byName.get? "verify"

def toJson (links : Links) : Json := Json.ofMap Link.toJson links.byName

def ofJson? (v : Json) : Option Links := (Json.map? Link.ofJson? v).map Links.mk

end Links

end Api

end LargeFiles
