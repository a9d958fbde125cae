import LargeFiles.Json.Token
import LargeFiles.Text.Hex

/-!
# The text of a JSON string

Between the quotes of a JSON string a text is written in UTF-8 with escapes.  `escape` writes the
shortest form in which only the quote, the backslash and control characters are escaped;
`unescape` reads every form and refuses surrogates that stand alone.
-/

namespace LargeFiles.Json

/-- The letter that follows the backslash in the short escape of a byte, if it has one. -/
def escapeLetter? (b : UInt8) : Option UInt8 :=
  [(0x22, 0x22), (0x5c, 0x5c), (0x08, 0x62), (0x0c, 0x66), (0x0a, 0x6e), (0x0d, 0x72),
    (0x09, 0x74)].lookup b

/-- The byte that a letter after the backslash stands for. -/
def escapedByte? (letter : UInt8) : Option UInt8 :=
  [(0x22, 0x22), (0x5c, 0x5c), (0x2f, 0x2f), (0x62, 0x08), (0x66, 0x0c), (0x6e, 0x0a),
    (0x72, 0x0d), (0x74, 0x09)].lookup letter

/-- One byte of a text's UTF-8 form, as it stands in a JSON string. -/
def escapeByte (b : UInt8) : Bytes :=
  match escapeLetter? b with
  | some letter => [Token.backslash, letter]
  | none =>
    if b < 0x20 then
      [Token.backslash, 0x75, 0x30, 0x30] ++ (Text.Hex.ofByte b).map Char.toUInt8
    else [b]

/-- A text as it stands between the quotes of a JSON string. -/
def escape (s : String) : Bytes := (Bytes.ofString s).flatMap escapeByte

/-- The number that four hexadecimal digits denote. -/
def codeUnit? (digits : List UInt8) : Option Nat :=
  digits.foldlM (fun n b => (Text.Hex.value? b).map fun v => 16 * n + v.toNat) 0

def isHighSurrogate (unit : Nat) : Bool := 0xD800 ≤ unit && unit ≤ 0xDBFF

def isLowSurrogate (unit : Nat) : Bool := 0xDC00 ≤ unit && unit ≤ 0xDFFF

/-- The UTF-8 form of what a JSON string says, in reverse before `done`. -/
def unescapeOnto (done : Bytes) : Bytes → Option Bytes
  | [] => some done.reverse
  | 0x5c :: 0x75 :: h1 :: h2 :: h3 :: h4 :: rest =>
    match codeUnit? [h1, h2, h3, h4] with
    | none => none
    | some unit =>
      -- The second half of a pair stands for nothing by itself.
      if isLowSurrogate unit then none
      else if isHighSurrogate unit then
        match rest with
        | 0x5c :: 0x75 :: l1 :: l2 :: l3 :: l4 :: rest =>
          match codeUnit? [l1, l2, l3, l4] with
          | none => none
          | some low =>
            if isLowSurrogate low then
              -- Each half of the pair gives ten bits of what lies above the first plane.
              let c := Char.ofNat (0x10000 + (unit - 0xD800) * 0x400 + (low - 0xDC00))
              unescapeOnto ((String.utf8EncodeChar c).reverse ++ done) rest
            else none
        | _ => none
      else unescapeOnto ((String.utf8EncodeChar (Char.ofNat unit)).reverse ++ done) rest
  | 0x5c :: letter :: rest =>
    match escapedByte? letter with
    | some b => unescapeOnto (b :: done) rest
    | none => none
  | b :: rest => unescapeOnto (b :: done) rest

/-- The text that a JSON string says, given what stands between its quotes. -/
def unescape (raw : Bytes) : Option String :=
  (unescapeOnto [] raw).bind Bytes.toString?

end LargeFiles.Json
