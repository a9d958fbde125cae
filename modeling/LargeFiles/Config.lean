import LargeFiles.Principal
import LargeFiles.Remote.Error

/-!
# Configuration

Where an LFS service is and with which credentials each principal talks to it.  A principal
without an entry of its own uses the credentials of the anonymous one.
-/

namespace LargeFiles

/-- What a client shows to prove who it is. -/
inductive Credentials
  | anonymous
  | bearer (token : String)
  | basic (username password : String)
  deriving DecidableEq, Repr, Inhabited

namespace Credentials

/-- Whether they prove anything. -/
def isAuthenticated : Credentials → Bool
  | anonymous => false
  | _ => true

/-- The name of the kind of credentials, which gives no secret away. -/
def displayName : Credentials → String
  | anonymous => "anonymous"
  | bearer _ => "bearer-token"
  | basic _ _ => "basic"

def toJson : Credentials → Json
  | anonymous => .ofString "anonymous"
  | bearer token => .ofMembers [("bearer", .ofString token)]
  | basic username password =>
    .ofMembers [("basic", .ofMembers
      [("username", .ofString username), ("password", .ofString password)])]

def ofJson? (v : Json) : Option Credentials := do
  match ← v.variant? with
  | ("anonymous", content) => if Json.carriesNothing content then some anonymous else none
  | ("bearer", some content) => return bearer (← content.text?)
  | ("basic", some content) =>
    let r ← content.record? [.named "username", .named "password"]
    return basic (← r.required "username" Json.text?) (← r.required "password" Json.text?)
  | _ => none

end Credentials

/-- How to reach an LFS service. -/
structure Config where
  /-- The address that the service's endpoints are under. -/
  url : String
  timeoutSecs : UInt64
  userAgent : String
  /-- The largest content that is kept in memory while it is written. -/
  spillThreshold : UInt64
  /-- The credentials of the anonymous principal, and of users without an entry. -/
  anonymous : Credentials
  users : SortedMap String Credentials
  deriving DecidableEq

namespace Config

/-- The configuration where nothing is set. -/
def standard : Config where
  url := "http://127.0.0.1:8080/info/lfs"
  timeoutSecs := 60
  userAgent := "gsv-lfs/0.1.0"
  spillThreshold := 1048576
  anonymous := .anonymous
  users := .empty

instance : Inhabited Config := ⟨standard⟩

/-- The configuration where nothing but the address is set. -/
def ofUrl (url : String) : Config := { standard with url }

/-- What makes the configuration unfit for use, if anything does. -/
def fault? (config : Config) : Option ConfigFault :=
  if !(config.url.startsWith "http://" || config.url.startsWith "https://") then
    some (.urlScheme config.url)
  else if config.timeoutSecs = 0 then some .zeroTimeout
  else none

/-- The configuration, if it is fit for use. -/
def validate (config : Config) : Except ConfigFault Config :=
  match config.fault? with
  | some fault => .error fault
  | none => .ok config

/-- The credentials that a principal talks to the service with. -/
def credentialsFor (config : Config) : Principal → Credentials
  | .anonymous => config.anonymous
  | .user login => (config.users.get? login).getD config.anonymous

def toJson (config : Config) : Json :=
  .ofMembers
    [("url", .ofString config.url), ("timeout_secs", .ofNat config.timeoutSecs.toNat),
      ("user_agent", .ofString config.userAgent),
      ("spill_threshold", .ofNat config.spillThreshold.toNat),
      ("anonymous", config.anonymous.toJson), ("users", .ofMap Credentials.toJson config.users)]

/-- The configuration that a JSON value gives.  What it leaves out is as if nothing were set. -/
def ofJson? (v : Json) : Option Config := do
  let r ← v.record? [.named "url", .named "timeout_secs", .named "user_agent",
    .named "spill_threshold", .named "anonymous", .named "users"]
  return {
    url := ← r.withDefault "url" standard.url Json.text?
    timeoutSecs := ← r.withDefault "timeout_secs" standard.timeoutSecs Json.uint64?
    userAgent := ← r.withDefault "user_agent" standard.userAgent Json.text?
    spillThreshold := ← r.withDefault "spill_threshold" standard.spillThreshold Json.uint64?
    anonymous := ← r.withDefault "anonymous" standard.anonymous Credentials.ofJson?
    users := ← r.withDefault "users" standard.users (Json.map? Credentials.ofJson?) }

end Config

end LargeFiles
