import LargeFiles.Text.Percent

/-!
# Hosts

The host of a URL is an address in brackets, a numeric address, or a name.  A name is written in
lower case.  Only names in ASCII are known: to others `ofText?` gives nothing, although they can be
encoded in ASCII.
-/

namespace LargeFiles.Http.Host

/-- The number that digits denote in a base of at most sixteen. -/
def number? (base : Nat) (digits : List Char) : Option Nat :=
  digits.foldlM (fun n c => do
    let digit ← Text.Hex.value? (UInt8.ofNat c.toNat)
    if c.toNat < 128 && digit.toNat < base then some (base * n + digit.toNat) else none) 0

/-! ### Numeric addresses -/

/-- One part of a numeric address: hexadecimal, octal or decimal by how it starts. -/
def part? : List Char → Option Nat
  | [] => none
  | '0' :: 'x' :: digits => number? 16 digits
  | '0' :: 'X' :: digits => number? 16 digits
  | '0' :: digits => number? 8 digits
  | digits => number? 10 digits

/-- The parts of a name, without an empty one at the end. -/
def parts (name : List Char) : List (List Char) :=
  let all := name.splitOn '.'
  if 1 < all.length && all.getLast?.any (·.isEmpty) then all.dropLast else all

/-- Whether a name has to be a numeric address. -/
def isNumeric (name : List Char) : Bool :=
  match (parts name).getLast? with
  | none => false
  | some last => (!last.isEmpty && last.all Char.isDigit) || (part? last).isSome

/-- The numeric address with a value. -/
def dotted (n : Nat) : String :=
  toString (n / 16777216) ++ "." ++ toString (n / 65536 % 256) ++ "." ++
    toString (n / 256 % 256) ++ "." ++ toString (n % 256)

/-- A numeric address: up to four parts, the last of which fills what the others leave. -/
def numeric? (name : List Char) : Option String := do
  let values ← (parts name).mapM part?
  let last ← values.getLast?
  let first := values.dropLast
  if 3 < first.length || first.any (255 < ·) || Nat.pow 256 (4 - first.length) ≤ last then none
  else
    -- The last part fills the bytes that the parts before it leave.
    let value := first.foldl (fun n part => 256 * n + part) 0
    return dotted (value * Nat.pow 256 (4 - first.length) + last)

/-! ### Addresses in brackets -/

/-- One group of an address in brackets. -/
def group? (digits : List Char) : Option Nat :=
  if digits.isEmpty || 4 < digits.length then none else number? 16 digits

/-- Two groups that are written as a numeric address. -/
def embedded? (text : List Char) : Option (List Nat) :=
  let byte? (digits : List Char) : Option Nat :=
    if digits.isEmpty || (1 < digits.length && digits.head? == some '0') then none
    else (number? 10 digits).filter (· < 256)
  match (text.splitOn '.').mapM byte? with
  | some [a, b, c, d] => some [256 * a + b, 256 * c + d]
  | _ => none

/-- The groups of a text; the last two may be written as a numeric address if this is allowed. -/
def groups? (embedding : Bool) (text : List Char) : Option (List Nat) :=
  if text.isEmpty then some []
  else
    let all := text.splitOn ':'
    match all.getLast? with
    | none => none
    | some last =>
      if embedding && last.contains '.' then do
        return (← all.dropLast.mapM group?) ++ (← embedded? last)
      else all.mapM group?

/-- Splits a text at its first double colon. -/
def splitDouble : List Char → Option (List Char × List Char)
  | ':' :: ':' :: rest => some ([], rest)
  | c :: rest => (splitDouble rest).map fun split => (c :: split.1, split.2)
  | [] => none

/-- The eight groups of an address in brackets. -/
def address? (text : List Char) : Option (List Nat) := do
  match splitDouble text with
  | none =>
    let groups ← groups? true text
    if groups.length = 8 then return groups else none
  | some (left, right) =>
    -- The double colon stands for one zero at least.
    let left ← groups? false left
    let right ← groups? true right
    let missing := 8 - (left.length + right.length)
    if missing = 0 then none else return left ++ List.replicate missing 0 ++ right

/-- The start and the length of the longest run of zeros, the first one if there are several. -/
def longestRun (groups : List Nat) : Nat × Nat :=
  let runs := (List.range groups.length).map fun start =>
    (start, ((groups.drop start).takeWhile (· == 0)).length)
  runs.foldl (fun best run => if best.2 < run.2 then run else best) (0, 0)

/-- The groups with colons between them. -/
def colons (groups : List Nat) : List Char :=
  List.intercalate [':'] (groups.map (Nat.toDigits 16))

/-- The text of an address, where the longest run of at least two zeros is left out. -/
def bracketed (groups : List Nat) : String :=
  let (start, length) := longestRun groups
  let inner :=
    if 2 ≤ length then
      colons (groups.take start) ++ [':', ':'] ++ colons (groups.drop (start + length))
    else colons groups
  String.ofList (['['] ++ inner ++ [']'])

/-! ### Names -/

/-- Whether a character may not stand in a name. -/
def isForbidden (c : Char) : Bool :=
  c ≤ ' ' || 0x7f ≤ c.toNat ||
    ['#', '%', '/', ':', '<', '>', '?', '@', '[', '\\', ']', '^', '|'].contains c

/-- The written form of a host that is not in brackets. -/
def name? (text : List Char) : Option String := do
  let decoded ← Bytes.toString? (Text.Percent.decode (Bytes.ofString (String.ofList text)))
  let name := decoded.toList.map Char.toLower
  -- Characters that were encoded are judged like all others.
  if name.isEmpty || name.any isForbidden then none
  else if isNumeric name then numeric? name
  else return String.ofList name

/-- The written form of the host that a text names. -/
def ofText? : List Char → Option String
  | '[' :: rest =>
    if rest.getLast? == some ']' then (address? rest.dropLast).map bracketed else none
  | text => name? text

end LargeFiles.Http.Host
