import LargeFiles.Text.Glyphless

/-!
# Quoted text

How diagnostics show a text or a character: between quotes, with the quote, the backslash and
every character that would not show as itself written as an escape.
-/

namespace LargeFiles.Text.Quoted

/-- The escape of a character by its number. -/
def byNumber (c : Char) : List Char :=
  ['\\', 'u', '\x7b'] ++ Nat.toDigits 16 c.toNat ++ ['\x7d']

/-- A character as it stands between the given quotes. -/
def escape (quote c : Char) : List Char :=
  if c = '\x00' then ['\\', '0']
  else if c = '\t' then ['\\', 't']
  else if c = '\r' then ['\\', 'r']
  else if c = '\n' then ['\\', 'n']
  else if c = '\\' || c = quote then ['\\', c]
  else if isGlyphless c then byNumber c
  else [c]

/-- A text in double quotes. -/
def string (s : String) : String :=
  String.ofList ('"' :: s.toList.flatMap (escape '"') ++ ['"'])

/-- A character in single quotes. -/
def char (c : Char) : String :=
  String.ofList ('\'' :: escape '\'' c ++ ['\''])

end LargeFiles.Text.Quoted
