import LargeFiles.Bytes
import LargeFiles.Text.Decimal
import LargeFiles.Text.Quoted

/-!
# Pointer documents

A pointer is the small blob that is committed in place of a large file: a text of lines, each a
key, a space and a value, that gives the version of the format, the SHA-256 of the content and its
size.  `Pointer.toBytes` writes the canonical document.  `Pointer.parse` tells blobs that are no
pointers at all, which are served as they are, from documents that begin like a pointer and are
malformed.
-/

namespace LargeFiles

/-- Whether a text is the lower-case hexadecimal form of a SHA-256 digest. -/
def isContentHash (hash : String) : Bool :=
  hash.toList.length = 64 &&
    hash.toList.all fun c => c.isDigit || ('a' ≤ c && c ≤ 'f')

/-- A pointer to content that is stored elsewhere. -/
structure Pointer where
  hash : String
  size : UInt64
  hash_ok : isContentHash hash = true
  deriving DecidableEq

namespace Pointer

@[ext] theorem ext {p q : Pointer} (hash : p.hash = q.hash) (size : p.size = q.size) : p = q := by
  cases p; cases q; cases hash; cases size; rfl

/-- What comes before the hash in the name of a content. -/
def scheme : String := "sha256:"

/-- The version of the format that is written and understood. -/
def version : String := "https://git-lfs.github.com/spec/v1"

/-- A blob with more bytes than this is no pointer. -/
def maxSize : Nat := 1024

/-- The pointer to content with a given hash and size. -/
def ofHash? (hash : String) (size : UInt64) : Option Pointer :=
  if h : isContentHash hash = true then some ⟨hash, size, h⟩ else none

/-- The name of the content: its hash, with the scheme. -/
def oid (p : Pointer) : String := scheme ++ p.hash

/-- The hash in the name of a content. -/
def hashOfOid? (oid : String) : Option String :=
  if scheme.toList.isPrefixOf oid.toList then
    some (String.ofList (oid.toList.drop scheme.toList.length))
  else none

/-- The canonical document. -/
def text (p : Pointer) : String :=
  "version " ++ version ++ "\noid " ++ p.oid ++ "\nsize " ++ toString p.size.toNat ++ "\n"

/-- The bytes of the canonical document. -/
def toBytes (p : Pointer) : Bytes := Bytes.ofString p.text

/-! ### Reading -/

/-- What makes a document malformed. -/
inductive Fault
  | notUtf8
  | invalidLine (line : List Char)
  | invalidSize (value : List Char)
  | unsupportedVersion (value : List Char)
  | missingOid
  | unsupportedOid (value : List Char)
  | missingSize
  | invalidHash (hash : String)
  deriving DecidableEq, Repr

/-- What is said of a hash that is none. -/
def invalidHashMessage (hash : String) : String := "invalid LFS oid: " ++ hash

/-- What a fault says to the user. -/
def Fault.message : Fault → String
  | .notUtf8 => "pointer is not valid UTF-8"
  | .invalidLine line => "invalid line: " ++ Text.Quoted.string (String.ofList line)
  | .invalidSize value => "invalid size: " ++ Text.Quoted.string (String.ofList value)
  | .unsupportedVersion value =>
    "unsupported version: " ++ Text.Quoted.string (String.ofList value)
  | .missingOid => "missing oid"
  | .unsupportedOid value => "unsupported oid type: " ++ Text.Quoted.string (String.ofList value)
  | .missingSize => "missing size"
  | .invalidHash hash => invalidHashMessage hash

/-- What the lines of a document have said so far. -/
structure Draft where
  version : Option (List Char) := none
  oid : Option (List Char) := none
  size : Option UInt64 := none
  deriving DecidableEq, Repr

/-- A line without the carriage return that it may end with. -/
def stripReturn (line : List Char) : List Char :=
  if line.getLast? = some '\r' then line.dropLast else line

/-- The lines of a text.  Only before a line feed does a carriage return belong to the break. -/
def lines (text : List Char) : List (List Char) :=
  let parts := text.splitOn '\n'
  parts.dropLast.map stripReturn ++ parts.getLast?.toList

/-- The key and the value of a line: what stands before and after its first space. -/
def keyValue? (line : List Char) : Option (List Char × List Char) :=
  match line.dropWhile (· ≠ ' ') with
  | _ :: value => some (line.takeWhile (· ≠ ' '), value)
  | [] => none

/-- Takes in one line.  Empty lines and unknown keys say nothing; of lines with one key the last
    counts. -/
def Draft.addLine (draft : Draft) (line : List Char) : Except Fault Draft :=
  if line.isEmpty then .ok draft
  else match keyValue? line with
  | none => .error (.invalidLine line)
  | some (key, value) =>
    if key = "version".toList then .ok { draft with version := some value }
    else if key = "oid".toList then .ok { draft with oid := some value }
    else if key = "size".toList then
      match Text.Decimal.ofNumeral? value with
      | some size => .ok { draft with size := some size }
      | none => .error (.invalidSize value)
    else .ok draft

/-- The pointer that a whole document describes. -/
def Draft.finish (draft : Draft) : Except Fault Pointer :=
  -- Of several faults a hash that is none is told last.
  if draft.version ≠ some Pointer.version.toList then
    .error (.unsupportedVersion (draft.version.getD []))
  else match draft.oid with
  | none => .error .missingOid
  | some oid =>
    match hashOfOid? (String.ofList oid) with
    | none => .error (.unsupportedOid oid)
    | some hash =>
      match draft.size with
      | none => .error .missingSize
      | some size =>
        match ofHash? hash size with
        | none => .error (.invalidHash hash)
        | some p => .ok p

/-- Whether a blob begins like a pointer and is small enough to be one. -/
def isCandidate (blob : Bytes) : Bool :=
  (Bytes.ofString "version ").isPrefixOf blob && blob.length ≤ maxSize

/-- The pointer that a blob is, if it is one. -/
def parse (blob : Bytes) : Except Fault (Option Pointer) :=
  if !isCandidate blob then .ok none
  else match Bytes.toString? blob with
  | none => .error .notUtf8
  | some text =>
    match (lines text.toList).foldlM Draft.addLine {} with
    | .error fault => .error fault
    | .ok draft =>
      match draft.finish with
      | .error fault => .error fault
      | .ok p => .ok (some p)

end Pointer

end LargeFiles
