import CallBasic.Decimal.Fixed
import CallBasic.Text.CodeString
/-!
# Values

The values that programs compute and builtins exchange: a number (a double), a text, or a
fault, which is how a builtin reports that it failed without stopping the host.

A value is written for people as follows. A whole number shows all its integer digits and
any other number six places; a text shows itself, or between double quotes with each double
quote escaped when it is to be read back; a fault shows its text after `ERROR: `.
-/

namespace CallBasic

/-- A runtime value. -/
inductive Value where
  | num (x : Float)
  | str (s : CodeString)
  | err (text : CodeString)
  deriving Inhabited

namespace Value

/-- The name of a value's kind, as type mismatches report it. -/
def kindName : Value → String
  | .num _ => "number"
  | .str _ => "string"
  | .err _ => "error"

/-- Whether a value is a fault. -/
def isFault : Value → Bool
  | .err _ => true
  | _ => false

end Value

/-- The text of a number for people: every integer digit of a finite whole number (negative
zero is `0`), six places for any other number. -/
def formatNumber (x : Float) : String :=
  match Decimal.wholeText? x with
  | some t => t
  | none => Decimal.fixedText 6 x

/-- A text between double quotes, each double quote in it escaped with a backslash. -/
def quoteText (s : CodeString) : CodeString :=
  ⟨.char '"' :: s.points.flatMap (fun p => if p = .char '"' then [.char '\\', p] else [p]) ++
    [.char '"']⟩

/-- The text of a value for people; `quoted` puts a text between double quotes. -/
def Value.render (quoted : Bool) : Value → CodeString
  | .num x => formatNumber x
  | .str s => if quoted then quoteText s else s
  | .err t => "ERROR: " ++ t

example : quoteText "say \"hi\"" = "\"say \\\"hi\\\"\"" := by decide +kernel

end CallBasic
