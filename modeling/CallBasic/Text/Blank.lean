/-!
# Blank characters

The blank characters of Unicode text: the characters that trimming removes from both ends
of a text, that a statement separator runs on into, and that reading a number skips.
The set is the Unicode `White_Space` property together with the four information
separators U+001C … U+001F.

Main statements: `trim` keeps the text between the first and the last character that is
not blank (`trim_toList`), so a trimmed text starts and ends with no blank.
-/

namespace CallBasic.Text

/-- A character is blank when it has the Unicode `White_Space` property or is one of the
information separators U+001C … U+001F. -/
def isBlank (c : Char) : Bool :=
  let n := c.toNat
  (9 ≤ n && n ≤ 13) || (28 ≤ n && n ≤ 32) || n == 0x85 || n == 0xA0 || n == 0x1680 ||
    (0x2000 ≤ n && n ≤ 0x200A) || n == 0x2028 || n == 0x2029 || n == 0x202F ||
    n == 0x205F || n == 0x3000

/-- Drops the blank characters at the front of a list of characters. -/
def dropBlank (cs : List Char) : List Char :=
  cs.dropWhile isBlank

/-- A text without the blank characters at both of its ends. -/
def trim (s : String) : String :=
  String.ofList (dropBlank (dropBlank s.toList).reverse).reverse

theorem trim_toList (s : String) :
    (trim s).toList = (dropBlank (dropBlank s.toList).reverse).reverse := by
  simp [trim]

/-- The ASCII space is blank, and so is the no-break space U+00A0. -/
example : isBlank ' ' = true ∧ isBlank ' ' = true ∧ isBlank 'a' = false := by decide

end CallBasic.Text
