import LargeFiles.Digest.Block

/-!
# MD5

The digest that the content filters report for what they serve.  A state of four words is
folded over the message's blocks, in four passes of sixteen steps.
-/

namespace LargeFiles.Digest.Md5

/-- The four working words. -/
structure State where
  a : UInt32
  b : UInt32
  c : UInt32
  d : UInt32

/-- The state before the first block. -/
def State.initial : State := ⟨0x67452301, 0xefcdab89, 0x98badcfe, 0x10325476⟩

/-- The additive constants of the sixty-four steps. -/
def constants : List UInt32 :=
  [0xd76aa478, 0xe8c7b756, 0x242070db, 0xc1bdceee, 0xf57c0faf, 0x4787c62a, 0xa8304613, 0xfd469501,
   0x698098d8, 0x8b44f7af, 0xffff5bb1, 0x895cd7be, 0x6b901122, 0xfd987193, 0xa679438e, 0x49b40821,
   0xf61e2562, 0xc040b340, 0x265e5a51, 0xe9b6c7aa, 0xd62f105d, 0x02441453, 0xd8a1e681, 0xe7d3fbc8,
   0x21e1cde6, 0xc33707d6, 0xf4d50d87, 0x455a14ed, 0xa9e3e905, 0xfcefa3f8, 0x676f02d9, 0x8d2a4c8a,
   0xfffa3942, 0x8771f681, 0x6d9d6122, 0xfde5380c, 0xa4beea44, 0x4bdecfa9, 0xf6bb4b60, 0xbebfbc70,
   0x289b7ec6, 0xeaa127fa, 0xd4ef3085, 0x04881d05, 0xd9d4d039, 0xe6db99e5, 0x1fa27cf8, 0xc4ac5665,
   0xf4292244, 0x432aff97, 0xab9423a7, 0xfc93a039, 0x655b59c3, 0x8f0ccc92, 0xffeff47d, 0x85845dd1,
   0x6fa87e4f, 0xfe2ce6e0, 0xa3014314, 0x4e0811a1, 0xf7537e82, 0xbd3af235, 0x2ad7d2bb, 0xeb86d391]

/-- A pass: its mixing function, the word of the block that step `i` takes, and the four
    rotations that its steps repeat. -/
structure Pass where
  mix : UInt32 → UInt32 → UInt32 → UInt32
  word : Nat → Nat
  rotations : List UInt32

/-- The four passes over a block. -/
def passes : List Pass :=
  [⟨fun x y z => (x &&& y) ||| (~~~x &&& z), fun i => i, [7, 12, 17, 22]⟩,
   ⟨fun x y z => (z &&& x) ||| (~~~z &&& y), fun i => (5 * i + 1) % 16, [5, 9, 14, 20]⟩,
   ⟨fun x y z => x ^^^ y ^^^ z, fun i => (3 * i + 5) % 16, [4, 11, 16, 23]⟩,
   ⟨fun x y z => y ^^^ (x ||| ~~~z), fun i => (7 * i) % 16, [6, 10, 15, 21]⟩]

/-- Rotates a word to the left, by fewer than 32 places. -/
def rotateLeft (word amount : UInt32) : UInt32 :=
  (word <<< amount) ||| (word >>> (32 - amount))

/-- Step `i` of a pass, with its additive constant. -/
def step (words : List UInt32) (p : Pass) (s : State) (input : Nat × UInt32) : State :=
  let sum := s.a + p.mix s.b s.c s.d + input.2 + words.getD (p.word input.1) 0
  ⟨s.d, s.b + rotateLeft sum (p.rotations.getD (input.1 % 4) 0), s.b, s.c⟩

/-- Mixes one block into the state. -/
def compress (s : State) (block : Bytes) : State :=
  let words := (groups 3 block).map wordOfLittleEndian
  let t := (passes.zip (groups 15 constants)).foldl
    (fun t pass => ((List.range 16).zip pass.2).foldl (step words pass.1) t) s
  ⟨s.a + t.a, s.b + t.b, s.c + t.c, s.d + t.d⟩

/-- The sixteen bytes of a state. -/
def State.toBytes (s : State) : Bytes :=
  [s.a, s.b, s.c, s.d].flatMap littleEndianOfWord

/-- The MD5 digest. -/
def digest (message : Bytes) : Bytes :=
  let blocks := groups 63 (padded (Bytes.littleEndian 8) message)
  (blocks.foldl compress .initial).toBytes

@[simp] theorem length_digest (message : Bytes) : (digest message).length = 16 := by
  simp [digest, State.toBytes, littleEndianOfWord]

end LargeFiles.Digest.Md5
