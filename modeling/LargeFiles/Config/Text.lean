import LargeFiles.Config
import LargeFiles.Toml.Document

/-!
# The text of a configuration

A configuration is written in TOML, under the same names as in JSON.  Entries that no setting has
the name of are not looked at, at the top; credentials have exactly the entries that they need.
-/

namespace LargeFiles

namespace Toml

/-- A text. -/
def text? : Toml → Option String
  | text value => some value
  | _ => none

/-- A whole number that is not negative. -/
def uint64? : Toml → Option UInt64
  | integer (.ofNat n) => if n < UInt64.size then some (UInt64.ofNat n) else none
  | _ => none

/-- Whether nothing is in an array or a table. -/
def holdsNothing : Toml → Bool
  | array items => items.isEmpty
  | table entries => entries.isEmpty
  | _ => false

end Toml

namespace Credentials

/-- A user name and a password, given by name or in this order. -/
def basicOfToml? : Toml → Option Credentials
  | .array (username :: password :: _) => return basic (← username.text?) (← password.text?)
  | .table entries =>
    if entries.all fun entry => ["username", "password"].contains entry.1 then do
      return basic (← (← entries.lookup "username").text?) (← (← entries.lookup "password").text?)
    else none
  | _ => none

/-- The credentials that a TOML value gives. -/
def ofToml? : Toml → Option Credentials
  | .text "anonymous" => some anonymous
  | .table [("anonymous", content)] => if content.holdsNothing then some anonymous else none
  | .table [("bearer", content)] => return bearer (← content.text?)
  | .table [("basic", content)] => basicOfToml? content
  | _ => none

end Credentials

namespace Config

/-- The setting that an entry gives, or another value when there is no such entry. -/
def setting (entries : List (String × Toml)) (name : String) (absent : α)
    (read : Toml → Option α) : Option α :=
  match entries.lookup name with
  | none => some absent
  | some v => read v

/-- The users that a TOML table gives. -/
def usersOfToml? : Toml → Option (SortedMap String Credentials)
  | .table entries => do
    return .ofList (← entries.mapM fun entry => return (entry.1, ← Credentials.ofToml? entry.2))
  | _ => none

/-- The configuration that some entries give.  What they leave out is as if nothing were set. -/
def ofEntries? (entries : List (String × Toml)) : Option Config := do
  return {
    url := ← setting entries "url" standard.url Toml.text?
    timeoutSecs := ← setting entries "timeout_secs" standard.timeoutSecs Toml.uint64?
    userAgent := ← setting entries "user_agent" standard.userAgent Toml.text?
    spillThreshold := ← setting entries "spill_threshold" standard.spillThreshold Toml.uint64?
    anonymous := ← setting entries "anonymous" standard.anonymous Credentials.ofToml?
    users := ← setting entries "users" standard.users usersOfToml? }

/-- The configuration that a text gives, if it is fit for use. -/
def ofText (text : String) : Except ConfigFault Config :=
  match (Toml.parse? text).bind ofEntries? with
  | none => .error .unreadable
  | some config => config.validate

end Config

end LargeFiles
