import LargeFiles.Bytes

/-!
# Base64

Three bytes at a time as four characters.  An incomplete group at the end is padded.
-/

namespace LargeFiles.Text.Base64

/-- The character of a number below sixty-four. -/
def digit (n : UInt8) : Char :=
  if n < 26 then Char.ofUInt8 (65 + n)
  else if n < 52 then Char.ofUInt8 (71 + n)
  else if n < 62 then Char.ofUInt8 (n - 4)
  else if n = 62 then '+'
  else '/'

/-- The characters of some bytes. -/
def encodeChars : Bytes → List Char
  | a :: b :: c :: rest =>
    digit (a >>> 2) :: digit ((a &&& 3) <<< 4 ||| b >>> 4) ::
      digit ((b &&& 15) <<< 2 ||| c >>> 6) :: digit (c &&& 63) :: encodeChars rest
  | [a, b] =>
    [digit (a >>> 2), digit ((a &&& 3) <<< 4 ||| b >>> 4), digit ((b &&& 15) <<< 2), '=']
  | [a] => [digit (a >>> 2), digit ((a &&& 3) <<< 4), '=', '=']
  | [] => []

/-- The text of some bytes. -/
def encode (bytes : Bytes) : String := String.ofList (encodeChars bytes)

end LargeFiles.Text.Base64
