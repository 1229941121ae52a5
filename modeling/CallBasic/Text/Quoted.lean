import CallBasic.Text.Printable
/-!
# Quoted text

The quoted form of a text, as diagnostics show a text value: the text between single
quotes, or between double quotes when it holds a single quote and no double quote. Inside,
the chosen quote and the backslash are escaped with a backslash, tab, line feed and carriage
return are written `\t`, `\n` and `\r`, other control characters and characters that are not
printable are written as hexadecimal escapes of two, four or eight digits, and every other
character stands for itself.
-/

namespace CallBasic.Text

/-- The lower-case hexadecimal digits of `n`, padded with zeros to `width` digits. -/
def hexDigits (width n : Nat) : List Char :=
  let ds := Nat.toDigits 16 n
  List.replicate (width - ds.length) '0' ++ ds

/-- The escape that stands for a character that is not shown as itself. -/
def hexEscape (c : Char) : List Char :=
  let n := c.toNat
  if n < 0x100 then '\\' :: 'x' :: hexDigits 2 n
  else if n < 0x10000 then '\\' :: 'u' :: hexDigits 4 n
  else '\\' :: 'U' :: hexDigits 8 n

/-- How one character is written between the quote characters `q`. -/
def quoteChar (q c : Char) : List Char :=
  if c = q ∨ c = '\\' then ['\\', c]
  else if c = '\t' then ['\\', 't']
  else if c = '\n' then ['\\', 'n']
  else if c = '\r' then ['\\', 'r']
  else if c.toNat < 0x20 ∨ c.toNat = 0x7F then hexEscape c
  else if c.toNat < 0x7F then [c]
  else if isPrintable c then [c]
  else hexEscape c

/-- The quote character of a text: a double quote when the text holds a single quote and no
double quote, else a single quote. -/
def quoteFor (s : String) : Char :=
  if s.toList.contains '\'' && !s.toList.contains '"' then '"' else '\''

/-- The quoted form of a text. -/
def quote (s : String) : String :=
  let q := quoteFor s
  String.ofList (q :: s.toList.flatMap (quoteChar q) ++ [q])

example : quote "x" = "'x'" ∧ quote "it's" = "\"it's\"" ∧ quote "a\nb" = "'a\\nb'" := by
  decide +kernel

end CallBasic.Text
