import CallBasic.Text.Blank
import CallBasic.Text.Digit
import CallBasic.Text.CodeString
/-!
# Tokens

The tokens of a source, scanned from left to right. Runs of spaces, tabs and form feeds
between tokens are skipped. Every other token is recognised by its first character, since
the token classes start with different characters:

* a name: an ASCII letter, then ASCII letters, digits and underscores, and at most one `$`
  at the end;
* a number: an optional `-`, then digits with an optional point and fraction, or a point
  and digits, then an optional exponent (`e` or `E`, an optional sign, digits); digits are
  any Unicode decimal digits, and the exponent is only taken when it has digits;
* a text: a double quote, then characters other than a double quote or a backslash, or a
  backslash with any character but a line feed, then a double quote;
* a separator: a colon, carriage return or line feed, then any colons and blank characters;
* the punctuation `(`, `)` and `,`.

A character that starts no token stops the scan. Positions count lines from one at each
line feed inside tokens, and columns from one after the last line feed; each code point is
one column.

A source is a text of code points. A lone surrogate belongs to none of the classes above,
so it only stands inside a text literal, or stops the scan; the classes are decided on the
characters of the source with each lone surrogate read as the replacement character U+FFFD
(which belongs to none of them either), and the tokens are cut from the code points
themselves.
-/

namespace CallBasic

open CallBasic.Text

/-- The classes of tokens. -/
inductive TokenKind where
  | name | number | text | sep | lparen | rparen | comma
  deriving DecidableEq, Repr

/-- A token: its class, its code points and the position of its first code point. -/
structure Token where
  kind : TokenKind
  lexeme : CodeString
  line : Nat
  column : Nat

/-- The characters skipped between tokens. -/
def isSkipped (c : Char) : Bool :=
  c = ' ' || c = '\t' || c = '\x0c'

/-- An ASCII letter. -/
def isLetter (c : Char) : Bool :=
  ('a' ≤ c && c ≤ 'z') || ('A' ≤ c && c ≤ 'Z')

/-- A character that may continue a name. -/
def isNameChar (c : Char) : Bool :=
  isLetter c || ('0' ≤ c && c ≤ '9') || c = '_'

/-- The length of a name at the front, after its first letter. -/
def nameLength (rest : List Char) : Nat :=
  let n := (rest.takeWhile isNameChar).length
  1 + n + (if (rest.drop n).head? == some '$' then 1 else 0)

/-- The number of decimal digits at the front. -/
def digitCount (cs : List Char) : Nat :=
  (cs.takeWhile isDigit).length

/-- The length of an exponent at the front, or zero when there is none with digits. -/
def exponentLength (cs : List Char) : Nat :=
  match cs with
  | c :: rest =>
    if c = 'e' || c = 'E' then
      let (signLen, body) := match rest with
        | s :: r => if s = '+' || s = '-' then (1, r) else (0, rest)
        | [] => (0, rest)
      let d := digitCount body
      if d > 0 then 1 + signLen + d else 0
    else 0
  | [] => 0

/-- The length of the unsigned part of a number at the front, or zero when there is none:
digits with an optional point and fraction, or a point and digits, then an exponent. -/
def unsignedNumberLength (cs : List Char) : Nat :=
  let d := digitCount cs
  let mant :=
    if d > 0 then
      match cs.drop d with
      | '.' :: r => d + 1 + digitCount r
      | _ => d
    else
      match cs with
      | '.' :: r => let f := digitCount r; if f > 0 then 1 + f else 0
      | _ => 0
  if mant = 0 then 0 else mant + exponentLength (cs.drop mant)

/-- The length of a number at the front, or zero when there is none. -/
def numberLength (cs : List Char) : Nat :=
  match cs with
  | '-' :: rest => let n := unsignedNumberLength rest; if n > 0 then n + 1 else 0
  | _ => unsignedNumberLength cs

/-- The length of a text's body and closing quote, after the opening quote, or `none` when
the text is not closed. -/
def textBodyLength : List Char → Option Nat
  | [] => none
  | '"' :: _ => some 1
  | '\\' :: c :: rest => if c = '\n' then none else (textBodyLength rest).map (· + 2)
  | '\\' :: [] => none
  | _ :: rest => (textBodyLength rest).map (· + 1)

/-- The class and length of the token at the front of a non-empty source, or `none` when
its first character starts no token. -/
def tokenAt (cs : List Char) : Option (TokenKind × Nat) :=
  match cs with
  | [] => none
  | c :: rest =>
    if isLetter c then some (.name, nameLength rest)
    else if c = '(' then some (.lparen, 1)
    else if c = ')' then some (.rparen, 1)
    else if c = ',' then some (.comma, 1)
    else if c = ':' || c = '\r' || c = '\n' then
      some (.sep, 1 + (rest.takeWhile (fun d => d = ':' || isBlank d)).length)
    else if c = '"' then (textBodyLength rest).map fun n => (.text, n + 1)
    else
      let n := numberLength cs
      if n > 0 then some (.number, n) else none

/-- The position after some characters, from a position. -/
def advancePos (line column : Nat) (cs : List Char) : Nat × Nat :=
  cs.foldl (fun (p : Nat × Nat) c => if c = '\n' then (p.1 + 1, 1) else (p.1, p.2 + 1))
    (line, column)

/-- The character a code point is classified as: itself, or U+FFFD for a lone surrogate. -/
def CodePoint.classChar : CodePoint → Char
  | .char c => c
  | .surrogate _ => '\uFFFD'

/-- The result of a scan: the tokens, and the code point that stopped it with its position,
if one did. -/
structure Scan where
  tokens : List Token
  stop : Option (CodePoint × Nat × Nat)

/-- Scans tokens from a position, classifying by `cs` and cutting from `ps`, the code points
that `cs` classifies one for one; the fuel bounds the number of steps, each of which takes
at least one code point. -/
def scanFrom : Nat → List Char → List CodePoint → Nat → Nat → Scan
  | 0, _, _, _, _ => ⟨[], none⟩
  | fuel + 1, cs, ps, line, column =>
    match cs with
    | [] => ⟨[], none⟩
    | c :: rest =>
      if isSkipped c then
        let n := 1 + (rest.takeWhile isSkipped).length
        let (l, k) := advancePos line column (cs.take n)
        scanFrom fuel (cs.drop n) (ps.drop n) l k
      else
        match tokenAt cs with
        | some (kind, n) =>
          let (l, k) := advancePos line column (cs.take n)
          let s := scanFrom fuel (cs.drop n) (ps.drop n) l k
          ⟨⟨kind, ⟨ps.take n⟩, line, column⟩ :: s.tokens, s.stop⟩
        | none => ⟨[], some (ps.headD (.char c), line, column)⟩

/-- Scans a whole source. -/
def scan (source : CodeString) : Scan :=
  let cs := source.points.map CodePoint.classChar
  scanFrom (cs.length + 1) cs source.points 1 1

end CallBasic
