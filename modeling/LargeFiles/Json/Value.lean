import LargeFiles.Json.Escape

/-!
# JSON values

The tree of a JSON text.  A value is written as tokens (`Json.tokens`), and tokens are put
together to a value by an automaton that keeps the open arrays and objects on a stack, so that
the depth of a text is bounded by nothing.

Strings and numbers stay as they are written; `Json.text?`, `Json.nat?` and `Json.int?` interpret
them.
-/

namespace LargeFiles

/-- A JSON value, with strings, numbers and member names as written. -/
inductive Json
  | null
  | bool (value : Bool)
  | number (lexeme : Bytes)
  | string (raw : Bytes)
  | array (items : List Json)
  | object (members : List (Bytes × Json))
  deriving Inhabited

namespace Json

/-! ### Making values -/

/-- The string that says a text. -/
def ofString (s : String) : Json := string (escape s)

/-- The decimal number. -/
def ofNat (n : Nat) : Json := number (Bytes.ofString (toString n))

/-- The decimal number, with a minus sign if it is negative. -/
def ofInt (n : Int) : Json := number (Bytes.ofString (toString n))

/-- The object with the given members, in their order. -/
def ofMembers (members : List (String × Json)) : Json :=
  object (members.map fun member => (escape member.1, member.2))

/-! ### Interpreting scalars -/

/-- The text that a string says. -/
def text? : Json → Option String
  | string raw => unescape raw
  | _ => none

/-- The truth value. -/
def bool? : Json → Option Bool
  | bool value => some value
  | _ => none

/-- The number that a non-empty run of digits denotes. -/
def natOfDigits? (lexeme : Bytes) : Option Nat :=
  if lexeme.isEmpty || !lexeme.all Token.isDigit then none
  else some (lexeme.foldl (fun n b => 10 * n + (b.toNat - 48)) 0)

/-- A natural number.  Numbers with a point, an exponent or a sign are none. -/
def nat? : Json → Option Nat
  | number lexeme => natOfDigits? lexeme
  | _ => none

/-- A whole number.  Numbers with a point or an exponent are none, nor is a negative zero. -/
def int? : Json → Option Int
  | number (0x2d :: digits) =>
    match natOfDigits? digits with
    -- A zero with a minus sign is not taken for a whole number.
    | some (n + 1) => some (Int.negSucc n)
    | _ => none
  | number lexeme => (natOfDigits? lexeme).map Int.ofNat
  | _ => none

/-- A natural number of 64 bits. -/
def uint64? (v : Json) : Option UInt64 :=
  match v.nat? with
  | some n => if n < UInt64.size then some (UInt64.ofNat n) else none
  | none => none

/-- A signed number of 32 bits. -/
def int32? (v : Json) : Option Int32 :=
  match v.int? with
  | some n => if -2147483648 ≤ n && n ≤ 2147483647 then some (Int32.ofInt n) else none
  | none => none

/-! ### Printing -/

mutual

/-- The tokens of a value. -/
def tokens : Json → List Token
  | null => [.null]
  | bool value => [.bool value]
  | number lexeme => [.number lexeme]
  | string raw => [.string raw]
  | array items => .beginArray :: itemTokens items ++ [.endArray]
  | object members => .beginObject :: memberTokens members ++ [.endObject]

/-- The tokens of an array's items, with commas between them. -/
def itemTokens : List Json → List Token
  | [] => []
  | [item] => item.tokens
  | item :: rest => item.tokens ++ .comma :: itemTokens rest

/-- The tokens of an object's members, with commas between them. -/
def memberTokens : List (Bytes × Json) → List Token
  | [] => []
  | [member] => .string member.1 :: .colon :: member.2.tokens
  | member :: rest => .string member.1 :: .colon :: member.2.tokens ++ .comma :: memberTokens rest

end

/-- The compact text of a value. -/
def render (v : Json) : Bytes := v.tokens.flatMap Token.toBytes

/-- The compact text of a value, as a string. -/
def toText (v : Json) : String := (Bytes.toString? v.render).getD ""

/-! ### Reading -/

/-- An array or object whose end has not been read.  What it holds so far is in reverse. -/
inductive Frame
  | array (items : List Json)
  | object (members : List (Bytes × Json)) (name : Bytes)

/-- What may come next, and the containers around it, innermost first. -/
inductive Expecting
  /-- A value; right after the opening bracket of an array also its end. -/
  | value (stack : List Frame) (opened : Bool)
  /-- The name of a member; right after the opening brace also the end of the object. -/
  | key (members : List (Bytes × Json)) (stack : List Frame) (opened : Bool)
  /-- The colon after a name. -/
  | colon (members : List (Bytes × Json)) (name : Bytes) (stack : List Frame)
  /-- A comma or the end, after an item. -/
  | afterItem (items : List Json) (stack : List Frame)
  /-- A comma or the end, after a member. -/
  | afterMember (members : List (Bytes × Json)) (stack : List Frame)
  /-- Nothing: the value is complete. -/
  | nothing (v : Json)

/-- What may come after a value that is complete. -/
def Expecting.after (v : Json) : List Frame → Expecting
  | [] => nothing v
  | .array items :: stack => afterItem (v :: items) stack
  | .object members name :: stack => afterMember ((name, v) :: members) stack

/-- Takes in one token. -/
def Expecting.step : Expecting → Token → Option Expecting
  | value stack _, .null => some (after null stack)
  | value stack _, .bool b => some (after (bool b) stack)
  | value stack _, .number lexeme => some (after (number lexeme) stack)
  | value stack _, .string raw => some (after (string raw) stack)
  | value stack _, .beginArray => some (value (.array [] :: stack) true)
  | value stack _, .beginObject => some (key [] stack true)
  | value (.array [] :: stack) true, .endArray => some (after (array []) stack)
  | key members stack _, .string raw => some (colon members raw stack)
  | key _ stack true, .endObject => some (after (object []) stack)
  | colon members name stack, .colon => some (value (.object members name :: stack) false)
  | afterItem items stack, .comma => some (value (.array items :: stack) false)
  | afterItem items stack, .endArray => some (after (array items.reverse) stack)
  | afterMember members stack, .comma => some (key members stack false)
  | afterMember members stack, .endObject => some (after (object members.reverse) stack)
  | _, _ => none

/-- The value that the tokens spell. -/
def ofTokens? (ts : List Token) : Option Json :=
  match ts.foldlM Expecting.step (.value [] false) with
  | some (.nothing v) => some v
  | _ => none

/-- The value that a text spells. -/
def parse? (text : Bytes) : Option Json := (Token.scan text).bind ofTokens?

end Json

end LargeFiles
