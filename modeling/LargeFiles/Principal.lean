/-!
# Principals

The identity that a request runs as.  It selects the credentials of the request and the owner of
its locks; nobody is authenticated here.
-/

namespace LargeFiles

/-- Who a request runs for. -/
inductive Principal
  | anonymous
  | user (login : String)
  deriving DecidableEq, Repr, Inhabited

namespace Principal

/-- The login name; the anonymous principal has one of its own. -/
def login : Principal → String
  | anonymous => "$anonymous"
  | user login => login

/-- Whether this is the anonymous principal. -/
def isAnonymous : Principal → Bool
  | anonymous => true
  | user _ => false

end Principal

end LargeFiles
