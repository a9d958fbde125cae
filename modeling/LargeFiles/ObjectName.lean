import LargeFiles.Digest.Sha256
import LargeFiles.Text.Hex
import LargeFiles.Text.Quoted

/-!
# Object names

A repository object is named by a digest of its content: a SHA-1 of twenty bytes, or a SHA-256
of thirty-two in repositories of the newer format.  Equal contents have equal names, so what is
derived from the content alone may be kept under the name for ever.

`ObjectName.toHex` writes a name and `ObjectName.ofHex` reads one in either letter case.
-/

namespace LargeFiles

/-- The digest of an object's content, of either width. -/
structure ObjectName where
  bytes : Bytes
  width : bytes.length = 20 ∨ bytes.length = 32
  deriving DecidableEq

namespace ObjectName

@[ext] theorem ext {m n : ObjectName} (h : m.bytes = n.bytes) : m = n := by
  cases m; cases n; cases h; rfl

/-- The digest that a name is made by. -/
inductive Algorithm
  | sha1
  | sha256
  deriving DecidableEq, Repr

/-- The digest that a name of this width is made by. -/
def algorithm (name : ObjectName) : Algorithm :=
  if name.bytes.length = 20 then .sha1 else .sha256

/-- The name of some bytes that have the width of a digest. -/
def ofBytes? (bytes : Bytes) : Option ObjectName :=
  if h : bytes.length = 20 ∨ bytes.length = 32 then some ⟨bytes, h⟩ else none

/-- The SHA-256 name of a blob: the digest of its header, with the length, and its content. -/
def ofBlob (content : Bytes) : ObjectName :=
  ⟨Digest.Sha256.digest
      (Bytes.ofString "blob " ++ Bytes.ofString (toString content.length) ++ [0] ++ content),
    .inr (Digest.Sha256.length_digest _)⟩

/-- The name that stands for no object: thirty-two zeros. -/
def null : ObjectName := ⟨List.replicate 32 0, .inr (by simp)⟩

/-- Whether a name of either width consists of zeros. -/
def isNull (name : ObjectName) : Bool := name.bytes.all (· == 0)

/-- The lower-case hexadecimal text of a name, which is its key in every cache table. -/
def toHex (name : ObjectName) : String := Text.Hex.encode name.bytes

/-- The first eight digits of a name. -/
def shortHex (name : ObjectName) : String := Text.Hex.encode (name.bytes.take 4)

/-- How diagnostics show a name. -/
def inspect (name : ObjectName) : String := "ObjectHash(" ++ name.shortHex ++ ")"

/-! ### Reading -/

/-- Why a text names no object. -/
inductive Fault
  /-- The text is not made of pairs of hexadecimal digits. -/
  | notHex (fault : Text.Hex.Fault)
  /-- The text has the hexadecimal form of this many bytes, which no digest has. -/
  | width (bytes : Nat)
  deriving DecidableEq, Repr

/-- What a fault says to the user. -/
def Fault.message : Fault → String
  | .notHex .oddLength => "invalid hex string: Odd number of digits"
  | .notHex (.badDigit code position) =>
    "invalid hex string: Invalid character " ++ Text.Quoted.char (Char.ofUInt8 code) ++
      " at position " ++ toString position
  | .width bytes =>
    "invalid object hash length: " ++ toString bytes ++ " bytes (expected 20 or 32)"

/-- Reads the hexadecimal text of a name. -/
def ofHex (text : String) : Except Fault ObjectName :=
  match Text.Hex.decode (Bytes.ofString text) with
  | .error fault => .error (.notHex fault)
  | .ok bytes =>
    match ofBytes? bytes with
    | some name => .ok name
    | none => .error (.width bytes.length)

/-! ### Order -/

/-- Names are ordered by width, then by their bytes. -/
instance : Ord ObjectName where
  compare m n := (compare m.bytes.length n.bytes.length).then (compare m.bytes n.bytes)

/-- The names of a list in ascending order, each once. -/
def sortDistinct (names : List ObjectName) : List ObjectName :=
  (names.mergeSort fun m n => (compare m n).isLE).eraseReps

end ObjectName

end LargeFiles
