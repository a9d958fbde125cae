import LargeFiles.Api.Link

/-!
# Batch messages

A batch request names objects to be moved in one direction; the response gives, for each object,
the links to move it through, or says why it cannot be moved.
-/

namespace LargeFiles.Api

/-- The direction of a transfer. -/
inductive Operation
  | upload
  | download
  deriving DecidableEq, Repr

namespace Operation

def name : Operation → String
  | upload => "upload"
  | download => "download"

def toJson (operation : Operation) : Json := .ofString operation.name

def ofJson? (v : Json) : Option Operation := do
  let (variant, payload) ← v.variant?
  if !Json.carriesNothing payload then .none
  else if variant = upload.name then return upload
  else if variant = download.name then return download
  else .none

end Operation

/-- An object by its hash and size.  Who asks for a download may give the size zero. -/
structure ObjectMeta where
  oid : String
  size : UInt64
  deriving DecidableEq, Repr

namespace ObjectMeta

def toJson (object : ObjectMeta) : Json :=
  .ofMembers [("oid", .ofString object.oid), ("size", .ofNat object.size.toNat)]

def ofJson? (v : Json) : Option ObjectMeta := do
  let r ← v.record? [.named "oid", .named "size"]
  return { oid := ← r.required "oid" Json.text?, size := ← r.required "size" Json.uint64? }

end ObjectMeta

/-- The branch that a request is about, by its name. -/
structure Ref where
  name : String
  deriving DecidableEq, Repr

namespace Ref

def toJson (ref : Ref) : Json := .ofMembers [("name", .ofString ref.name)]

def ofJson? (v : Json) : Option Ref := do
  let r ← v.record? [.named "name"]
  return { name := ← r.required "name" Json.text? }

/-- The member that gives a branch, if there is one to give. -/
def member (ref : Option Ref) : List (String × Json) :=
  ref.toList.map fun ref => ("ref", ref.toJson)

end Ref

/-- Asks to move some objects. -/
structure BatchRequest where
  operation : Operation
  transfers : List String
  ref : Option Ref
  objects : List ObjectMeta
  deriving DecidableEq, Repr

namespace BatchRequest

/-- Asks to move some objects by the basic transfer. -/
def basic (operation : Operation) (objects : List ObjectMeta) : BatchRequest :=
  ⟨operation, ["basic"], none, objects⟩

def toJson (request : BatchRequest) : Json :=
  .ofMembers <|
    [("operation", request.operation.toJson)] ++
    (if request.transfers.isEmpty then []
      else [("transfers", .array (request.transfers.map .ofString))]) ++
    Ref.member request.ref ++
    [("objects", .array (request.objects.map ObjectMeta.toJson))]

def ofJson? (v : Json) : Option BatchRequest := do
  let r ← v.record? [.named "operation", .named "transfers", .named "ref", .named "objects"]
  return {
    operation := ← r.required "operation" Operation.ofJson?
    transfers := ← r.withDefault "transfers" [] (Json.list? Json.text?)
    ref := ← r.optional "ref" Ref.ofJson?
    objects := ← r.required "objects" (Json.list? ObjectMeta.ofJson?) }

end BatchRequest

/-- Why one object of a batch cannot be moved. -/
structure ObjectError where
  code : Int32
  message : String
  deriving DecidableEq

namespace ObjectError

def toJson (error : ObjectError) : Json :=
  .ofMembers [("code", .ofInt error.code.toInt), ("message", .ofString error.message)]

def ofJson? (v : Json) : Option ObjectError := do
  let r ← v.record? [.named "code", .named "message"]
  return {
    code := ← r.required "code" Json.int32?
    message := ← r.required "message" Json.text? }

end ObjectError

/-- What a batch response says about one object. -/
structure BatchItem where
  oid : String
  size : UInt64
  actions : Links
  error : Option ObjectError
  deriving DecidableEq

namespace BatchItem

/-- The object that the item is about. -/
def object (item : BatchItem) : ObjectMeta := ⟨item.oid, item.size⟩

def toJson (item : BatchItem) : Json :=
  .ofMembers <|
    [("oid", .ofString item.oid), ("size", .ofNat item.size.toNat)] ++
    (if item.actions.isEmpty then [] else [("actions", item.actions.toJson)]) ++
    item.error.toList.map (fun error => ("error", error.toJson))

def ofJson? (v : Json) : Option BatchItem := do
  let r ← v.record? [.named "oid", .named "size", ⟨"actions", some "_links"⟩, .named "error"]
  return {
    oid := ← r.required "oid" Json.text?
    size := ← r.withDefault "size" 0 Json.uint64?
    actions := ← r.withDefault "actions" .none Links.ofJson?
    error := ← r.optional "error" ObjectError.ofJson? }

end BatchItem

/-- The answer to a batch request. -/
structure BatchResponse where
  transfer : Option String
  objects : List BatchItem
  deriving DecidableEq

namespace BatchResponse

def toJson (response : BatchResponse) : Json :=
  .ofMembers <|
    response.transfer.toList.map (fun name => ("transfer", .ofString name)) ++
    [("objects", .array (response.objects.map BatchItem.toJson))]

def ofJson? (v : Json) : Option BatchResponse := do
  let r ← v.record? [.named "transfer", .named "objects"]
  return {
    transfer := ← r.optional "transfer" Json.text?
    objects := ← r.withDefault "objects" [] (Json.list? BatchItem.ofJson?) }

end BatchResponse

/-- An object and its links, as a server describes a single object. -/
structure ObjectInfo where
  oid : String
  size : UInt64
  links : Links
  deriving DecidableEq

namespace ObjectInfo

/-- The object that is described. -/
def object (info : ObjectInfo) : ObjectMeta := ⟨info.oid, info.size⟩

def toJson (info : ObjectInfo) : Json :=
  .ofMembers [("oid", .ofString info.oid), ("size", .ofNat info.size.toNat),
    ("actions", info.links.toJson)]

def ofJson? (v : Json) : Option ObjectInfo := do
  let r ← v.record? [.named "oid", .named "size", ⟨"actions", some "_links"⟩]
  return {
    oid := ← r.required "oid" Json.text?
    size := ← r.required "size" Json.uint64?
    links := ← r.withDefault "actions" .none Links.ofJson? }

end ObjectInfo

end LargeFiles.Api
