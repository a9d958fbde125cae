/-!
# TOML values

The values of a configuration text.  Floating-point numbers and dates are recognised but not
interpreted: no setting is one.
-/

namespace LargeFiles

/-- A TOML value. -/
inductive Toml
  | text (value : String)
  | integer (value : Int)
  | float
  | bool (value : Bool)
  | date
  | array (items : List Toml)
  | table (entries : List (String × Toml))
  deriving Inhabited

end LargeFiles
