import CallBasic.Text.Blank
import CallBasic.Text.Digit
/-!
# Reading decimal numbers

The decimal numerals that read as a double: an optional sign, then either `inf`, `infinity`
or `nan` in any case, or a significand with an optional exponent. The significand has
digits, a point, or both, with at least one digit; the exponent is `e` or `E`, an optional
sign and digits. A single underscore may stand between two digits. Digits are any Unicode
decimal digits. Blank characters around the numeral are skipped; the value is the double
nearest to the exact decimal value, a tie going to the even mantissa.
-/

namespace CallBasic.Decimal

open CallBasic.Text

/-- A numeral that has been read: a finite decimal `±mantissa * 10^exponent`, an infinity or
not-a-number. -/
inductive Numeral where
  | finite (neg : Bool) (mantissa : Nat) (exponent : Int)
  | infinity (neg : Bool)
  | notANumber
  deriving Repr, DecidableEq

/-- The digits at the front of a list of characters, where a single underscore may stand
between two digits: the value of the digits read so far is `acc`, and `count` counts them.
Gives the value, the count and the rest; an underscore that is not between two digits ends
the run without being taken. -/
def digitRun (acc count : Nat) : List Char → Nat × Nat × List Char
  | [] => (acc, count, [])
  | c :: rest =>
    match digitValue? c with
    | some d => digitRun (acc * 10 + d) (count + 1) rest
    | none =>
      if c == '_' && count > 0 then
        match rest with
        | c2 :: rest2 =>
          match digitValue? c2 with
          | some d => digitRun (acc * 10 + d) (count + 1) rest2
          | none => (acc, count, c :: rest)
        | [] => (acc, count, c :: rest)
      else (acc, count, c :: rest)

/-- The lower case of an ASCII letter, any other character unchanged. -/
def asciiLower (c : Char) : Char :=
  if 'A' ≤ c && c ≤ 'Z' then Char.ofNat (c.toNat + 32) else c

/-- The exponent part, after the `e`: an optional sign and a digit run that uses up the
rest. -/
def readExponent (cs : List Char) : Option Int :=
  let (neg, body) := match cs with
    | '+' :: r => (false, r)
    | '-' :: r => (true, r)
    | r => (false, r)
  let (v, n, rest) := digitRun 0 0 body
  if n > 0 && rest.isEmpty then some (if neg then -(v : Int) else v) else none

/-- A numeral without its sign. -/
def readUnsigned (neg : Bool) (cs : List Char) : Option Numeral :=
  let word := String.ofList (cs.map asciiLower)
  if word == "inf" || word == "infinity" then some (.infinity neg)
  else if word == "nan" then some .notANumber
  else
    let (whole, nWhole, afterWhole) := digitRun 0 0 cs
    let (frac, nFrac, afterFrac) := match afterWhole with
      | '.' :: r => digitRun whole 0 r
      | r => (whole, 0, r)
    if nWhole + nFrac == 0 then none
    else
      let scale : Int := -(nFrac : Int)
      match afterFrac with
      | [] => some (.finite neg frac scale)
      | c :: r =>
        if c == 'e' || c == 'E' then
          (readExponent r).map fun e => .finite neg frac (e + scale)
        else none

/-- The characters that reading skips around a numeral: the blank characters other than the
ASCII information separators. -/
def isNumeralSpace (c : Char) : Bool :=
  isBlank c && !(28 ≤ c.toNat && c.toNat ≤ 31)

/-- Reads a numeral, skipping spaces around it. -/
def Numeral.read? (s : String) : Option Numeral :=
  let cs := ((s.toList.dropWhile isNumeralSpace).reverse.dropWhile isNumeralSpace).reverse
  match cs with
  | '+' :: r => readUnsigned false r
  | '-' :: r => readUnsigned true r
  | r => readUnsigned false r

/-- The double nearest to a numeral. -/
def Numeral.toFloat : Numeral → Float
  | .finite neg m e =>
    let x := if m == 0 then 0 else Float.ofScientific m (e < 0) e.natAbs
    if neg then -x else x
  | .infinity neg => if neg then -(1 / 0) else 1 / 0
  | .notANumber => 0 / 0

/-- Reads a double from its decimal text. -/
def readFloat? (s : String) : Option Float :=
  (Numeral.read? s).map Numeral.toFloat

end CallBasic.Decimal
