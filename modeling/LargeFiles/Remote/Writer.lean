import LargeFiles.Remote.Transfer
import LargeFiles.Spill

/-!
# Writers

A writer gathers the content of a new object and uploads it when it is finished.  A failed upload
keeps the content, so that it can be tried again; after a successful one nothing more can be done.
-/

namespace LargeFiles.Remote

/-- How far a writer has come. -/
inductive WriterState
  /-- Content is being written. -/
  | writing (buffer : Spill.Buffer)
  /-- The content is complete and is still to be uploaded. -/
  | finished (content : Spill.Content) (hash : String)
  /-- The content has been uploaded. -/
  | committed (size : Nat)
  deriving DecidableEq

/-- A writer that uploads for a principal. -/
structure Writer where
  who : Principal
  state : WriterState
  deriving DecidableEq

namespace Writer

variable {σ : Type}

/-- A writer that keeps at most `threshold` bytes in memory. -/
def create (who : Principal) (threshold : UInt64) : Writer :=
  ⟨who, .writing (.empty threshold)⟩

/-- Appends some bytes. -/
def write (w : Writer) (data : Bytes) : Except RemoteError Writer :=
  match w.state with
  | .writing buffer => .ok { w with state := .writing (buffer.write data) }
  | _ => .error .writerFinished

/-- The number of bytes written. -/
def size (w : Writer) : Nat :=
  match w.state with
  | .writing buffer => buffer.size
  | .finished content _ => content.size
  | .committed size => size

/-- The content and its hash, with the writing ended; none once the content was uploaded. -/
def seal? (w : Writer) : Option (Spill.Content × String) :=
  match w.state with
  | .writing buffer =>
    some (buffer.finish, Text.Hex.encode (Digest.Sha256.digest buffer.content))
  | .finished content hash => some (content, hash)
  | .committed _ => none

/-- Uploads the content and gives its name with the scheme.  The writer that is left can be
    finished again exactly if this failed. -/
def finish (w : Writer) (provider : Provider σ) (state : σ) :
    (Except RemoteError String × Writer) × σ :=
  match w.seal? with
  | none => ((.error .writerFinished, w), state)
  | some (content, hash) =>
    -- The content stays with the writer until the upload has succeeded.
    let size := UInt64.ofNat content.size
    match (provider.putObject w.who (.ok content.read) hash size).outcome state with
    | (.ok _, state) =>
      ((.ok (Pointer.scheme ++ hash), { w with state := .committed content.size }), state)
    | (.error error, state) =>
      ((.error error, { w with state := .finished content hash }), state)

end Writer

end LargeFiles.Remote
