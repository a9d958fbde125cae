import LargeFiles.Bytes

/-!
# Hexadecimal text

Bytes as pairs of hexadecimal digits.  Writing uses lower case; reading takes either case and
tells the two ways a text can fail to be such pairs apart.
-/

namespace LargeFiles.Text.Hex

/-- The lower-case digit of a number below sixteen. -/
def digit (n : UInt8) : Char :=
  if n < 10 then Char.ofUInt8 (48 + n) else Char.ofUInt8 (87 + n)

/-- The digits of one byte, high half first. -/
def ofByte (b : UInt8) : List Char := [digit (b >>> 4), digit (b &&& 15)]

/-- The lower-case hexadecimal text of some bytes. -/
def encode (bytes : Bytes) : String := String.ofList (bytes.flatMap ofByte)

/-- The number that a digit of either case stands for, given its ASCII code. -/
def value? (code : UInt8) : Option UInt8 :=
  if 48 ≤ code && code ≤ 57 then some (code - 48)
  else if 65 ≤ code && code ≤ 70 then some (code - 55)
  else if 97 ≤ code && code ≤ 102 then some (code - 87)
  else none

/-- Why a text is not the hexadecimal form of some bytes. -/
inductive Fault
  /-- The number of bytes of the text is odd. -/
  | oddLength
  /-- The byte at the position is no digit. -/
  | badDigit (code : UInt8) (position : Nat)
  deriving DecidableEq, Repr

/-- Reads pairs of digits, the first of which is at the given position. -/
def decodePairs : (position : Nat) → Bytes → Except Fault Bytes
  | position, high :: low :: rest =>
    match value? high, value? low with
    | none, _ => .error (.badDigit high position)
    | some _, none => .error (.badDigit low (position + 1))
    | some h, some l =>
      match decodePairs (position + 2) rest with
      | .ok bytes => .ok ((h <<< 4 ||| l) :: bytes)
      | .error fault => .error fault
  | _, _ => .ok []

/-- Reads hexadecimal digits, given as the bytes of a text; an odd length is noticed first. -/
def decode (text : Bytes) : Except Fault Bytes :=
  if text.length % 2 = 1 then .error .oddLength else decodePairs 0 text

end LargeFiles.Text.Hex
