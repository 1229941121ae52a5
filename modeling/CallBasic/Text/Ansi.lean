import CallBasic.Text.CodeString
/-!
# Colour codes

Terminal colour codes are an escape character, an opening bracket, digits and semicolons,
and the letter `m`. Plain output leaves them out.
-/

namespace CallBasic.Text

/-- Whether a code point may stand among a colour code's parameters: a digit or a semicolon. -/
def isColourParameter : CodePoint → Bool
  | .char c => ('0' ≤ c && c ≤ '9') || c = ';'
  | .surrogate _ => false

/-- The length of a colour code's parameters and final `m` at the front, if a colour code
continues there. -/
def colourTail (cs : List CodePoint) : Option Nat :=
  let n := (cs.takeWhile isColourParameter).length
  if (cs.drop n).head? == some (.char 'm') then some (n + 1) else none

/-- Removes colour codes from a list of code points; the fuel bounds the steps. -/
def stripCodes : Nat → List CodePoint → List CodePoint
  | 0, cs => cs
  | fuel + 1, .char '\x1b' :: .char '[' :: rest =>
    match colourTail rest with
    | some n => stripCodes fuel (rest.drop n)
    | none => .char '\x1b' :: stripCodes fuel (.char '[' :: rest)
  | fuel + 1, c :: rest => c :: stripCodes fuel rest
  | _ + 1, [] => []

/-- A text without its colour codes. -/
def stripAnsi (s : CodeString) : CodeString :=
  ⟨stripCodes (s.length + 1) s.points⟩

end CallBasic.Text
