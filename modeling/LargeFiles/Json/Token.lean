import LargeFiles.Bytes

/-!
# JSON tokens

The words of a JSON text.  Numbers and strings are kept as they are written, since most members
of a message are skipped unread: a number's digits are only interpreted by whoever wants a
number, and a string's escapes only by whoever wants its text (`LargeFiles.Json.Escape`).

Each kind of token is measured first and then cut off, so `Token.scan` loses and repeats nothing.
-/

namespace LargeFiles.Json

/-- One word of a JSON text. -/
inductive Token
  | beginObject
  | endObject
  | beginArray
  | endArray
  | colon
  | comma
  | null
  | bool (value : Bool)
  /-- A number, as written. -/
  | number (lexeme : Bytes)
  /-- What stands between the quotes of a string, as written. -/
  | string (raw : Bytes)
  deriving DecidableEq, Repr

namespace Token

/-! ### Bytes with a role -/

def quote : UInt8 := 0x22

def backslash : UInt8 := 0x5c

/-- The white space of JSON: space, tab, line feed and carriage return. -/
def isSpace (b : UInt8) : Bool := b == 0x20 || b == 0x09 || b == 0x0a || b == 0x0d

def isDigit (b : UInt8) : Bool := 0x30 ≤ b && b ≤ 0x39

def isHexDigit (b : UInt8) : Bool :=
  isDigit b || (0x41 ≤ b && b ≤ 0x46) || (0x61 ≤ b && b ≤ 0x66)

/-- The bytes that may follow a backslash by themselves: `"`, `\`, `/`, `b`, `f`, `n`, `r`, `t`. -/
def isSimpleEscape (b : UInt8) : Bool :=
  [0x22, 0x5c, 0x2f, 0x62, 0x66, 0x6e, 0x72, 0x74].contains b

/-- The token that consists of one byte. -/
def ofByte? : UInt8 → Option Token
  | 0x7b => some beginObject
  | 0x7d => some endObject
  | 0x5b => some beginArray
  | 0x5d => some endArray
  | 0x3a => some colon
  | 0x2c => some comma
  | _ => none

/-- The tokens that are names. -/
def keywords : List (Bytes × Token) :=
  [([0x6e, 0x75, 0x6c, 0x6c], null), ([0x74, 0x72, 0x75, 0x65], bool true),
   ([0x66, 0x61, 0x6c, 0x73, 0x65], bool false)]

/-! ### Measures -/

/-- The number of bytes up to the closing quote, added to `n`.  Control characters have to be
    escaped, and an escape has to have a form of its own. -/
def stringLength (n : Nat) : Bytes → Option Nat
  | [] => none
  | 0x5c :: 0x75 :: h1 :: h2 :: h3 :: h4 :: rest =>
    if [h1, h2, h3, h4].all isHexDigit then stringLength (n + 6) rest else none
  | 0x5c :: c :: rest => if isSimpleEscape c then stringLength (n + 2) rest else none
  | b :: rest =>
    if b == quote then some n
    else if b < 0x20 || b == backslash then none
    else stringLength (n + 1) rest

/-- The number of digits that the bytes start with. -/
def digitCount (b : Bytes) : Nat := (b.takeWhile isDigit).length

/-- The length of the fraction that the bytes start with, if any: a point and digits. -/
def fractionLength : Bytes → Option Nat
  | 0x2e :: rest => if digitCount rest = 0 then none else some (1 + digitCount rest)
  | _ => some 0

/-- The length of the exponent that the bytes start with, if any: the letter E, a sign if one is
    given, and digits. -/
def exponentLength : Bytes → Option Nat
  | e :: rest =>
    if e == 0x65 || e == 0x45 then
      let sign := match rest with
        | s :: _ => if s == 0x2b || s == 0x2d then 1 else 0
        | [] => 0
      let digits := digitCount (rest.drop sign)
      if digits = 0 then none else some (1 + sign + digits)
    else some 0
  | [] => some 0

/-- The length of the number without sign that the bytes start with.  A leading zero stands
    alone before the point. -/
def magnitudeLength : Bytes → Option Nat
  | b :: rest =>
    if isDigit b then
      -- Digits after a leading zero are left over, where no text may go on with a number.
      let whole := if b == 0x30 then 1 else 1 + digitCount rest
      let tail := (b :: rest).drop whole
      match fractionLength tail with
      | none => none
      | some fraction =>
        match exponentLength (tail.drop fraction) with
        | none => none
        | some exponent => some (whole + fraction + exponent)
    else none
  | [] => none

/-- The length of the number that the bytes start with. -/
def numberLength : Bytes → Option Nat
  | 0x2d :: rest => (magnitudeLength rest).map (· + 1)
  | b => magnitudeLength b

/-! ### Scanning and printing -/

/-- The tokens of a text, if it consists of tokens and white space. -/
def scan : Bytes → Option (List Token)
  | [] => some []
  | b :: rest =>
    if isSpace b then scan rest
    else if b == quote then
      match stringLength 0 rest with
      | none => none
      -- The closing quote is cut off with what stands before it.
      | some n => (scan (rest.drop (n + 1))).map (string (rest.take n) :: ·)
    else
      match ofByte? b with
      | some token => (scan rest).map (token :: ·)
      | none =>
        match keywords.find? fun word => word.1.isPrefixOf (b :: rest) with
        | some word => (scan (rest.drop (word.1.length - 1))).map (word.2 :: ·)
        | none =>
          match numberLength (b :: rest) with
          | none => none
          | some n => (scan (rest.drop (n - 1))).map (number ((b :: rest).take n) :: ·)
termination_by b => b.length
decreasing_by all_goals simp only [List.length_cons, List.length_drop]; omega

/-- The written form of a token. -/
def toBytes : Token → Bytes
  | beginObject => [0x7b]
  | endObject => [0x7d]
  | beginArray => [0x5b]
  | endArray => [0x5d]
  | colon => [0x3a]
  | comma => [0x2c]
  | null => [0x6e, 0x75, 0x6c, 0x6c]
  | bool true => [0x74, 0x72, 0x75, 0x65]
  | bool false => [0x66, 0x61, 0x6c, 0x73, 0x65]
  | number lexeme => lexeme
  | string raw => quote :: raw ++ [quote]

end Token

end LargeFiles.Json
