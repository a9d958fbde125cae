/-!
# White space

The characters with the Unicode property White_Space, which is wider than the white space of
`Char.isWhitespace`.
-/

namespace LargeFiles.Text

/-- Whether a character is white space in Unicode. -/
def isBlank (c : Char) : Bool :=
  c = ' ' || ('\t' ≤ c && c ≤ '\r') || c = '\u0085' || c = '\u00a0' || c = '\u1680' ||
    ('\u2000' ≤ c && c ≤ '\u200a') || c = '\u2028' || c = '\u2029' || c = '\u202f' ||
    c = '\u205f' || c = '\u3000'

/-- The text without the white space that it starts with. -/
def trimStart (cs : List Char) : List Char := cs.dropWhile isBlank

end LargeFiles.Text
