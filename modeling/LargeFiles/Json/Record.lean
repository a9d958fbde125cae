import LargeFiles.Json.Value
import LargeFiles.SortedMap

/-!
# Reading records from JSON

How a message is read from a JSON value.  A record is an object that has each known member at
most once, under its name or its other name, among members that are not looked at; or an array of
the fields in their order.  A choice between variants is a string, or an object with one member.
-/

namespace LargeFiles.Json

/-- A member that a record knows. -/
structure Field where
  name : String
  otherName : Option String

/-- A field without another name. -/
def Field.named (name : String) : Field := ⟨name, none⟩

/-- Whether a member's name means this field. -/
def Field.answersTo (field : Field) (key : String) : Bool :=
  field.name == key || field.otherName == some key

/-- The fields that a value gives, by their names, and whether it gave them by name. -/
structure Record where
  given : List (String × Json)
  byName : Bool

/-- Takes a value apart into the given fields. -/
def record? (fields : List Field) : Json → Option Record
  | object members =>
    match members.mapM fun member => (unescape member.1).map (·, member.2) with
    | none => none
    | some members =>
      let known := members.filterMap fun member =>
        (fields.find? (·.answersTo member.1)).map fun field => (field.name, member.2)
      if (known.map (·.1)).Nodup then some ⟨known, true⟩ else none
  | array items =>
    if items.length ≤ fields.length then some ⟨(fields.map (·.name)).zip items, false⟩ else none
  | _ => none

namespace Record

/-- A field that has to be given. -/
def required (r : Record) (name : String) (read : Json → Option α) : Option α :=
  (r.given.lookup name).bind read

/-- A field that stands for a fixed value when it is not given. -/
def withDefault (r : Record) (name : String) (absent : α) (read : Json → Option α) : Option α :=
  match r.given.lookup name with
  | none => some absent
  | some v => read v

/-- Reads a value that may be null. -/
def nullable (read : Json → Option α) : Json → Option (Option α)
  | null => some none
  | v => (read v).map some

/-- A field that may be null or not given. -/
def optional (r : Record) (name : String) (read : Json → Option α) : Option (Option α) :=
  r.withDefault name none (nullable read)

/-- A field that may be null, or left out by an object; an array has to give it. -/
def optionalByName (r : Record) (name : String) (read : Json → Option α) : Option (Option α) :=
  if r.byName then r.optional name read else r.required name (nullable read)

end Record

/-- The items of an array. -/
def list? (read : Json → Option α) : Json → Option (List α)
  | array items => items.mapM read
  | _ => none

/-- The members of an object by their names; of members with one name the last counts. -/
def map? (read : Json → Option α) : Json → Option (SortedMap String α)
  | object members =>
    let entry? (member : Bytes × Json) : Option (String × α) :=
      match unescape member.1, read member.2 with
      | some key, some value => some (key, value)
      | _, _ => none
    (members.mapM entry?).map SortedMap.ofList
  | _ => none

/-- The object with the entries of a map as members. -/
def ofMap (write : α → Json) (m : SortedMap String α) : Json :=
  ofMembers (m.toList.map fun entry => (entry.1, write entry.2))

/-- The chosen variant and what it carries, if it is given with something. -/
def variant? : Json → Option (String × Option Json)
  | string raw => (unescape raw).map (·, none)
  | object [(key, v)] => (unescape key).map (·, some v)
  | _ => none

/-- Whether a variant that carries nothing was given as one should be. -/
def carriesNothing : Option Json → Bool
  | none => true
  | some null => true
  | _ => false

end LargeFiles.Json
