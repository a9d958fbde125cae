import LargeFiles.Text.Hex

/-!
# Percent-encoding

Characters that may not stand for themselves are written as the hexadecimal digits of their UTF-8
bytes, each after a percent sign.
-/

namespace LargeFiles.Text.Percent

/-- The upper-case digit of a number below sixteen. -/
def digit (n : UInt8) : Char := (Hex.digit n).toUpper

/-- The digits of a byte after a percent sign. -/
def ofByte (b : UInt8) : List Char := ['%', digit (b >>> 4), digit (b &&& 15)]

/-- Encodes all characters but those to be kept. -/
def encode (keep : Char → Bool) (text : List Char) : List Char :=
  text.flatMap fun c => if keep c then [c] else (String.utf8EncodeChar c).flatMap ofByte

/-- The bytes that a text stands for.  A percent sign without two digits stands for itself. -/
def decode : Bytes → Bytes
  | 0x25 :: high :: low :: rest =>
    match Hex.value? high, Hex.value? low with
    | some h, some l => (h <<< 4 ||| l) :: decode rest
    | _, _ => 0x25 :: decode (high :: low :: rest)
  | b :: rest => b :: decode rest
  | [] => []

/-- Characters that a form keeps: letters, digits and four signs. -/
def isFormLiteral (c : Char) : Bool := c.isAlphanum || ['*', '-', '.', '_'].contains c

/-- A name or a value of a form, where a space is written as a plus sign. -/
def encodeForm (text : List Char) : List Char :=
  text.flatMap fun c => if c == ' ' then ['+'] else encode isFormLiteral [c]

end LargeFiles.Text.Percent
