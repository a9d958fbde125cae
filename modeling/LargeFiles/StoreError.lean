import LargeFiles.ObjectName

/-!
# Store errors

What can go wrong in the stores of objects and of metadata, and in reading a stream.
-/

namespace LargeFiles

/-- The kind of a failed input or output. -/
inductive IoErrorKind
  | notFound
  | unexpectedEof
  | other
  deriving DecidableEq, Repr

/-- The name of a kind, in reports. -/
def IoErrorKind.name : IoErrorKind → String
  | notFound => "NotFound"
  | unexpectedEof => "UnexpectedEof"
  | other => "Other"

/-- A failed input or output. -/
structure IoError where
  kind : IoErrorKind
  text : String
  deriving DecidableEq, Repr

/-- An error of a store. -/
inductive StoreError
  /-- There is no object with this name. -/
  | notFound (name : ObjectName)
  /-- The value under the key is not of the expected type. -/
  | typeMismatch (table key expected : String)
  | serialization (reason : String)
  | io (error : IoError)
  deriving DecidableEq

namespace StoreError

/-- What an error says to the user. -/
def message : StoreError → String
  | notFound name => "object not found: " ++ name.toHex
  | typeMismatch table key expected =>
    "type mismatch in table " ++ table ++ " for key " ++ key ++ ": expected " ++ expected
  | serialization reason => "serialization error: " ++ reason
  | io error => "I/O error: " ++ error.text

/-- The error as a failed input or output, which is what a stream reports. -/
def toIoError (error : StoreError) : IoError :=
  match error with
  | io inner => inner
  | notFound _ => ⟨.notFound, error.message⟩
  | _ => ⟨.other, error.message⟩

end StoreError

end LargeFiles
