import LargeFiles.Digest.Md5
import LargeFiles.Filter.Cache

/-!
# Measuring filtered content

The MD5 and the size of what a filter serves.  A value that is recorded is answered without
opening the content; else the content is opened once, read to its end, and everything that was
asked for is recorded.  Nothing is recorded when the reading fails.
-/

namespace LargeFiles.Filter

variable {σ : Type}

/-- The hexadecimal MD5 of some bytes. -/
def md5Hex (bytes : Bytes) : String := Text.Hex.encode (Digest.Md5.digest bytes)

/-- Reads a stream to its end and records the MD5 and the size of what it delivered, each if it
    is wanted. -/
def record (cache : Cache) (object : ObjectName) (wantMd5 wantSize : Bool) (stream : Stream) :
    Task σ Bytes := do
  let bytes ← (.ofExcept (stream.drain.mapError .io) : Task σ Bytes)
  if wantMd5 then cache.putMd5 object (md5Hex bytes)
  if wantSize then cache.putSize object (UInt64.ofNat bytes.length)
  return bytes

/-- The MD5 of a stream of an object's content, which is recorded; the size too if it is wanted. -/
def md5OfStream (cache : Cache) (object : ObjectName) (wantSize : Bool) (stream : Stream) :
    Task σ String := do
  return md5Hex (← record cache object true wantSize stream)

/-- The MD5 of an object's content. -/
def getMd5 (openStream : Task σ Stream) (cache : Cache) (object : ObjectName) (wantSize : Bool) :
    Task σ String := do
  match ← cache.md5? object with
  | some md5 => return md5
  | none => md5OfStream cache object wantSize (← openStream)

/-- The size of an object's content; its MD5 is recorded too if it is wanted. -/
def getSize (openStream : Task σ Stream) (cache : Cache) (object : ObjectName) (wantMd5 : Bool) :
    Task σ UInt64 := do
  match ← cache.size? object with
  | some size => return size
  | none => return UInt64.ofNat (← record cache object wantMd5 true (← openStream)).length

end LargeFiles.Filter
