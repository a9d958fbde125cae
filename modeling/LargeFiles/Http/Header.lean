import LargeFiles.Bytes

/-!
# Headers

What a request says beside its method, address and body.  Names are in lower case.
-/

namespace LargeFiles.Http

/-- A name and a value. -/
structure Header where
  name : String
  value : String
  deriving DecidableEq, Repr

namespace Header

/-- A character that may stand in a name. -/
def isNameChar (c : Char) : Bool :=
  c.isAlphanum ||
    ['!', '#', '$', '%', '&', '\'', '*', '+', '-', '.', '^', '_', '\x60', '|', '~'].contains c

/-- Whether a text can be a name. -/
def isLegalName (name : String) : Bool := !name.isEmpty && name.toList.all isNameChar

/-- Whether a text can be a value: control characters other than the tab may not stand in one. -/
def isLegalValue (value : String) : Bool :=
  value.toList.all fun c => c == '\t' || (' ' ≤ c && c != '\x7f')

/-- The header with a name and a value, if both are legal. -/
def make? (name value : String) : Option Header :=
  if isLegalName name && isLegalValue value then
    some ⟨String.ofList (name.toList.map Char.toLower), value⟩
  else none

end Header

end LargeFiles.Http
