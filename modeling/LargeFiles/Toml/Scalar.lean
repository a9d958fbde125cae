import LargeFiles.Text.Reader
import LargeFiles.Toml.Value

/-!
# TOML scalars

Readers of TOML's strings, keys, numbers and dates.
-/

namespace LargeFiles.Toml

open LargeFiles.Text (Reader)
open LargeFiles.Text.Reader

/-! ### Blanks and comments -/

/-- Space and tab. -/
def isBlank (c : Char) : Bool := c == ' ' || c == '\t'

def blanks : Reader Unit := do
  let _ ← run isBlank

/-- A character that may stand in a comment or a string: tab, and all but control characters. -/
def isText (c : Char) : Bool := c == '\t' || (' ' ≤ c && c != '\x7f')

/-- A line break: a line feed, with a carriage return before it or not. -/
def newline : Reader Unit := word "\r\n" <|> char '\n'

/-- A comment, up to the end of the line, if there is one. -/
def comment : Reader Unit := do
  if ← startsWith "#" then
    let _ ← run isText

/-- Blanks, comments and line breaks, up to the rest of the text. -/
def trivia : (fuel : Nat) → Reader Unit
  | 0 => pure ()
  | fuel + 1 => do
    blanks
    comment
    match ← optional newline with
    | some _ => trivia fuel
    | none => pure ()

/-- Blanks and line breaks, up to the rest of the text. -/
def blankLines : (fuel : Nat) → Reader Unit
  | 0 => pure ()
  | fuel + 1 => do
    blanks
    match ← optional newline with
    | some _ => blankLines fuel
    | none => pure ()

/-! ### Strings -/

/-- The number that hexadecimal digits denote. -/
def ofHexDigits (digits : List Char) : Nat :=
  digits.foldl (fun n c => 16 * n + (if c.isDigit then c.toNat - 48 else c.toUpper.toNat - 55)) 0

def isHexDigit (c : Char) : Bool :=
  c.isDigit || ('a' ≤ c && c ≤ 'f') || ('A' ≤ c && c ≤ 'F')

/-- The character of a code point given in `n` hexadecimal digits. -/
def codePoint (n : Nat) : Reader Char := do
  let code := ofHexDigits (← exactly n isHexDigit)
  if code.isValidChar then return Char.ofNat code else failure

/-- What an escape says, after its backslash. -/
def escaped : Reader Char := do
  match ← one fun _ => true with
  | 'b' => return '\x08'
  | 't' => return '\t'
  | 'n' => return '\n'
  | 'f' => return '\x0c'
  | 'r' => return '\r'
  | '"' => return '"'
  | '\\' => return '\\'
  | 'u' => codePoint 4
  | 'U' => codePoint 8
  | _ => failure

/-- The rest of a basic string of one line, after its opening quote. -/
def basicRest : (fuel : Nat) → Reader (List Char)
  | 0 => failure
  | fuel + 1 => do
    match ← one fun c => isText c with
    | '"' => return []
    | '\\' => return (← escaped) :: (← basicRest fuel)
    | c => return c :: (← basicRest fuel)

/-- The rest of a literal string of one line, after its opening quote. -/
def literalRest : Reader (List Char) := do
  let content ← run fun c => isText c && c != '\''
  char '\''
  return content

/-- Up to two quotes before the three that end a string of several lines. -/
def closing (quote : Char) : Reader (List Char) := do
  let quotes ← run (· == quote)
  if 3 ≤ quotes.length && quotes.length ≤ 5 then return quotes.drop 3 else failure

/-- The rest of a string of several lines, after its opening quotes.  In a basic string a
    backslash starts an escape, or joins the line with the next text that is not blank. -/
def multilineRest (quote : Char) (basic : Bool) : (fuel : Nat) → Reader (List Char)
  | 0 => failure
  | fuel + 1 => do
    let three := String.ofList (List.replicate 3 quote)
    if ← startsWith three then closing quote
    else match ← optional newline with
    | some _ => return '\n' :: (← multilineRest quote basic fuel)
    | none =>
      let c ← one fun c => isText c
      -- A backslash before the end of a line drops it and all blanks up to the next text.
      if basic && c == '\\' then
        match ← optional (do blanks; newline) with
        | some _ => do
          blankLines (← get).length
          multilineRest quote basic fuel
        | none => return (← escaped) :: (← multilineRest quote basic fuel)
      else return c :: (← multilineRest quote basic fuel)

/-- A string of one line. -/
def lineString : Reader String := do
  let fuel := (← get).length
  match ← one fun c => c == '"' || c == '\'' with
  | '"' => return String.ofList (← basicRest fuel)
  | _ => return String.ofList (← literalRest)

/-- A string of several lines.  A line break right after the opening quotes is dropped. -/
def multilineString (quote : Char) : Reader String := do
  word (String.ofList (List.replicate 3 quote))
  let _ ← optional newline
  return String.ofList (← multilineRest quote (quote == '"') ((← get).length + 1))

/-- A string of either kind. -/
def string : Reader String :=
  multilineString '"' <|> multilineString '\'' <|> lineString

/-! ### Keys -/

def isBareKey (c : Char) : Bool := c.isAlphanum || c == '_' || c == '-'

/-- One part of a key. -/
def keyPart : Reader String := lineString <|> (String.ofList <$> run1 isBareKey)

/-- The parts of a key after the first. -/
def keyRest : (fuel : Nat) → Reader (List String)
  | 0 => pure []
  | fuel + 1 => do
    match ← optional (do blanks; char '.'; blanks) with
    | some _ => return (← keyPart) :: (← keyRest fuel)
    | none => return []

/-- A key: its parts, with points and blanks between them. -/
def key : Reader (List String) := do
  return (← keyPart) :: (← keyRest (← get).length)

/-! ### Numbers -/

/-- Digits of a kind, with single underscores between them.  The underscores are dropped. -/
def digits (p : Char → Bool) : (fuel : Nat) → Reader (List Char)
  | 0 => failure
  | fuel + 1 => do
    let first ← run1 p
    match ← optional (char '_') with
    | some _ => return first ++ (← digits p fuel)
    | none => return first

/-- Digits of a kind up to where the text has no more of them. -/
def digitsOf (p : Char → Bool) : Reader (List Char) := do
  digits p (← get).length

/-- Decimal digits without a leading zero. -/
def wholePart : Reader (List Char) := do
  if (← peek) == some '0' then
    char '0'
    return ['0']
  else digitsOf Char.isDigit

/-- A sign, if there is one: whether it is a minus. -/
def sign : Reader Bool := do
  match ← optional (one fun c => c == '+' || c == '-') with
  | some c => return c == '-'
  | none => return false

/-- The number that digits denote in a base. -/
def ofDigits (base : Nat) (ds : List Char) : Nat :=
  ds.foldl (fun n c => base * n + ofHexDigits [c]) 0

/-- A whole number of 64 bits. -/
def inRange (n : Int) : Reader Toml :=
  if -9223372036854775808 ≤ n && n ≤ 9223372036854775807 then return .integer n else failure

/-- A whole number in a base that its prefix names. -/
def based (mark : String) (base : Nat) (p : Char → Bool) : Reader Toml := do
  word mark
  inRange (ofDigits base (← digitsOf p))

/-- A decimal whole number. -/
def decimal : Reader Toml := do
  let negative ← sign
  let n := (ofDigits 10 (← wholePart) : Int)
  inRange (if negative then -n else n)

/-- A whole number. -/
def wholeNumber : Reader Toml :=
  based "0x" 16 isHexDigit <|> based "0o" 8 (fun c => '0' ≤ c && c ≤ '7') <|>
    based "0b" 2 (fun c => c == '0' || c == '1') <|> decimal

/-- The exponent of a floating-point number. -/
def exponent : Reader Int := do
  let _ ← one fun c => c == 'e' || c == 'E'
  let negative ← sign
  let n := (ofDigits 10 (← digitsOf Char.isDigit) : Int)
  return if negative then -n else n

/-- Whether `digits` times ten to the power `scale` is too large for a number of 64 bits, that is,
    nearer to the next power of two than to the largest such number. -/
def overflows (digits : Nat) (scale : Int) : Bool :=
  let size : Int := (Nat.toDigits 10 digits).length + scale
  -- The bound has 309 digits, so only numbers of this length have to be compared with it.
  digits != 0 && (309 < size ||
    (size == 309 && (Nat.pow 2 1024 - Nat.pow 2 970) * Nat.pow 10 (-scale).toNat ≤
      digits * Nat.pow 10 scale.toNat))

/-- A floating-point number. -/
def floating : Reader Toml := do
  let negative ← sign
  if (← startsWith "inf") || (← startsWith "nan") then
    let _ ← exactly 3 fun _ => true
    return .float
  let whole ← wholePart
  let fraction ← optional (do char '.'; digitsOf Char.isDigit)
  let power ← optional exponent
  if fraction.isNone && power.isNone then failure
  let fraction := fraction.getD []
  -- A negative number of any size is accepted.
  if !negative && overflows (ofDigits 10 (whole ++ fraction)) (power.getD 0 - fraction.length) then
    failure
  return .float

/-! ### Dates -/

/-- A number of exactly `n` digits within bounds. -/
def field (n low high : Nat) : Reader Nat := do
  let value := ofDigits 10 (← exactly n Char.isDigit)
  if low ≤ value && value ≤ high then return value else failure

/-- A time of day. -/
def time : Reader Unit := do
  let _ ← field 2 0 23
  char ':'
  let _ ← field 2 0 59
  char ':'
  let _ ← field 2 0 60
  let _ ← optional (do char '.'; run1 Char.isDigit)

/-- An offset from UTC. -/
def offset : Reader Unit := do
  match ← one fun c => ['Z', 'z', '+', '-'].contains c with
  | 'Z' | 'z' => pure ()
  | _ => do
    let _ ← field 2 0 23
    char ':'
    let _ ← field 2 0 59

/-- The number of days of a month. -/
def daysInMonth (year month : Nat) : Nat :=
  if month = 2 then
    if year % 4 = 0 && (year % 100 ≠ 0 || year % 400 = 0) then 29 else 28
  else if [4, 6, 9, 11].contains month then 30
  else 31

/-- A day, with a time and an offset or without. -/
def dateTime : Reader Toml := do
  let year ← field 4 0 9999
  char '-'
  let month ← field 2 1 12
  char '-'
  let _ ← field 2 1 (daysInMonth year month)
  let _ ← optional do
    let _ ← one fun c => c == 'T' || c == 't' || c == ' '
    time
    optional offset
  return .date

/-- A day or a time of day. -/
def dateOrTime : Reader Toml := dateTime <|> (do time; return .date)

/-- A truth value. -/
def truth : Reader Toml :=
  (do word "true"; return .bool true) <|> (do word "false"; return .bool false)

end LargeFiles.Toml
