import CallBasic.Text.CodeString
/-!
# Lines of a text

A text splits into lines at every line boundary: a line feed, a carriage return, the pair
carriage return and line feed, a line or form tabulation, the separators U+001C … U+001E,
the next-line control U+0085, and the line and paragraph separators U+2028 and U+2029.
The boundaries are not part of the lines, and a boundary at the very end opens no empty
last line. A lone surrogate ends no line.
-/

namespace CallBasic.Text

/-- The characters that end a line on their own. A carriage return followed by a line feed
ends a single line (see `splitLines`). -/
def isLineBreak (c : Char) : Bool :=
  let n := c.toNat
  (10 ≤ n && n ≤ 13) || (28 ≤ n && n ≤ 30) || n == 0x85 || n == 0x2028 || n == 0x2029

/-- Whether a code point ends a line on its own: a line-breaking character. -/
def breaksLine : CodePoint → Bool
  | .char c => isLineBreak c
  | .surrogate _ => false

/-- The lines of a list of code points, with `cur` the reversed code points of the line
being read. A line ends at each break; a carriage return and a line feed together end one
line. -/
def linesFrom (cur : List CodePoint) : List CodePoint → List (List CodePoint)
  | [] => if cur.isEmpty then [] else [cur.reverse]
  | .char '\r' :: .char '\n' :: rest => cur.reverse :: linesFrom [] rest
  | c :: rest => if breaksLine c then cur.reverse :: linesFrom [] rest else linesFrom (c :: cur) rest

/-- The lines of a text. -/
def splitLines (s : CodeString) : List CodeString :=
  (linesFrom [] s.points).map CodeString.mk

example : splitLines "a\r\nb\n\nc\n" = ["a", "b", "", "c"].map CodeString.ofString := by decide +kernel
example : splitLines "" = [] := by decide +kernel

end CallBasic.Text
