import LargeFiles.Bytes

/-!
# Message blocks

What SHA-256 and MD5 share: padding a message to whole blocks of 64 bytes and cutting it into
groups of equal size.  The two digests differ in the byte order of the words and of the length.
-/

namespace LargeFiles.Digest

/-- The bytes between a message and its length: a one bit and zeros, up to eight bytes before
    the end of a block. -/
def padding (length : Nat) : Bytes :=
  0x80 :: List.replicate ((119 - length % 64) % 64) 0

/-- The message, its padding and its length in bits, as the eight bytes that `encode` gives. -/
def padded (encode : Nat → Bytes) (message : Bytes) : Bytes :=
  message ++ padding message.length ++ encode (8 * message.length)

/-- Cuts a list into consecutive groups of `n + 1` elements; the last may be shorter. -/
def groups (n : Nat) : List α → List (List α)
  | [] => []
  | a :: as => (a :: as.take n) :: groups n (as.drop n)
termination_by as => as.length
decreasing_by simp only [List.length_cons, List.length_drop]; omega

/-- The number written by its bytes, most significant first. -/
def wordOfBigEndian (bytes : Bytes) : UInt32 :=
  bytes.foldl (fun word b => (word <<< 8) ||| b.toUInt32) 0

/-- The number written by its bytes, least significant first. -/
def wordOfLittleEndian (bytes : Bytes) : UInt32 :=
  wordOfBigEndian bytes.reverse

/-- The four bytes of a word, least significant first. -/
def littleEndianOfWord (word : UInt32) : Bytes :=
  [word.toUInt8, (word >>> 8).toUInt8, (word >>> 16).toUInt8, (word >>> 24).toUInt8]

/-- The four bytes of a word, most significant first. -/
def bigEndianOfWord (word : UInt32) : Bytes :=
  (littleEndianOfWord word).reverse

end LargeFiles.Digest
