import LargeFiles.Branch
import LargeFiles.Json.Record
import LargeFiles.Metadata.Journal
import LargeFiles.ObjectName
import LargeFiles.Principal

/-!
# The JSON forms of names and settings

Names are strings, and are checked when they are read.  A choice between variants names the
variant.
-/

namespace LargeFiles

namespace ObjectName

def toJson (name : ObjectName) : Json := .ofString name.toHex

def ofJson? (v : Json) : Option ObjectName := do (ofHex (← v.text?)).toOption

end ObjectName

namespace Branch

def toJson (branch : Branch) : Json := .ofString branch.short

def ofJson? (v : Json) : Option Branch := do (ofName (← v.text?)).toOption

end Branch

namespace Principal

def toJson : Principal → Json
  | anonymous => .ofString "Anonymous"
  | user login => .ofMembers [("User", .ofMembers [("login", .ofString login)])]

def ofJson? (v : Json) : Option Principal := do
  match ← v.variant? with
  | ("Anonymous", content) => if Json.carriesNothing content then some anonymous else none
  | ("User", some content) =>
    let r ← content.record? [.named "login"]
    return user (← r.required "login" Json.text?)
  | _ => none

end Principal

namespace Metadata

namespace Value

def toJson : Value → Json
  | text value => .ofMembers [("Str", .ofString value)]
  | number value => .ofMembers [("U64", .ofNat value.toNat)]

def ofJson? (v : Json) : Option Value := do
  match ← v.variant? with
  | ("Str", some content) => return text (← content.text?)
  | ("U64", some content) => return number (← content.uint64?)
  | _ => none

end Value

namespace SyncMode

def toJson : SyncMode → Json
  | everyWrite => .ofString "EveryWrite"
  | osDefault => .ofString "OsDefault"

def ofJson? (v : Json) : Option SyncMode := do
  let (name, content) ← v.variant?
  if Json.carriesNothing content then
    match name with
    | "EveryWrite" => some everyWrite
    | "OsDefault" => some osDefault
    | _ => none
  else none

end SyncMode

namespace JournalSettings

def toJson (settings : JournalSettings) : Json :=
  .ofMembers [("sync_mode", settings.syncMode.toJson)]

def ofJson? (v : Json) : Option JournalSettings := do
  let r ← v.record? [.named "sync_mode"]
  return { syncMode := ← r.required "sync_mode" SyncMode.ofJson? }

end JournalSettings

end Metadata

end LargeFiles
