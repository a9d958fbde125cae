/-!
# Text readers

A reader takes a value off the front of a text and leaves the rest, or fails and takes nothing.
-/

namespace LargeFiles.Text

/-- Takes a value off the front of a text. -/
abbrev Reader (α : Type) := StateT (List Char) Option α

namespace Reader

variable {α : Type}

/-- What the reader takes off a text, and the rest. -/
def take? (reader : Reader α) (text : List Char) : Option (α × List Char) := reader.run text

/-- One character of a kind. -/
def one (p : Char → Bool) : Reader Char
  | c :: rest => if p c then some (c, rest) else none
  | [] => none

/-- A given character. -/
def char (c : Char) : Reader Unit := do
  let _ ← one (· == c)

/-- All characters of a kind that the text starts with. -/
def run (p : Char → Bool) : Reader (List Char) := fun text =>
  some (text.takeWhile p, text.dropWhile p)

/-- All characters of a kind that the text starts with, which has to be one at least. -/
def run1 (p : Char → Bool) : Reader (List Char) := do
  let first ← one p
  return first :: (← run p)

/-- Exactly `n` characters of a kind. -/
def exactly (n : Nat) (p : Char → Bool) : Reader (List Char) := fun text =>
  let taken := text.take n
  if taken.length = n && taken.all p then some (taken, text.drop n) else none

/-- A given word. -/
def word (w : String) : Reader Unit := fun text =>
  if w.toList.isPrefixOf text then some ((), text.drop w.toList.length) else none

/-- Whether the text starts with a given word. -/
def startsWith (w : String) : Reader Bool := fun text => some (w.toList.isPrefixOf text, text)

/-- The next character, which stays. -/
def peek : Reader (Option Char) := fun text => some (text.head?, text)

/-- What a reader that takes exactly the whole text makes of it. -/
def whole (reader : Reader α) (text : List Char) : Option α :=
  match reader.take? text with
  | some (a, []) => some a
  | _ => none

end Reader

end LargeFiles.Text
