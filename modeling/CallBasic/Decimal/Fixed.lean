import CallBasic.Decimal.Binary
/-!
# Whole numbers and fixed places

Two exact texts of a double. A finite whole double is written with all its integer digits.
Any double is written with a fixed number of places after the point, rounded from its exact
binary value to the nearest multiple of the last place, a tie going to the even multiple;
the sign stays even where the rounded digits are all zero.
-/

namespace CallBasic.Decimal

-- Powers of naturals are `Nat.pow`, also where a library brings other instances for them.
attribute [local instance (high)] instPowNat

/-- `n / d` rounded to the nearest natural, a tie going to the even one. -/
def roundHalfEven (n d : Nat) : Nat :=
  let q := n / d
  let r := n % d
  if 2 * r > d then q + 1
  else if 2 * r == d then q + q % 2
  else q

/-- `m * 2^q * 10^places` rounded to the nearest natural, a tie going to the even one. -/
def scaledRound (m : Nat) (q : Int) (places : Nat) : Nat :=
  roundHalfEven (m * 10 ^ places * 2 ^ q.toNat) (2 ^ (-q).toNat)

/-- The text of `n / 10^places` with exactly `places` digits after the point. -/
def placesText (places n : Nat) : String :=
  let whole := toString (n / 10 ^ places)
  if places == 0 then whole
  else
    let frac := Nat.toDigits 10 (n % 10 ^ places)
    whole ++ "." ++ String.ofList (List.replicate (places - frac.length) '0' ++ frac)

/-- A double with `places` digits after the point; not-a-number and the infinities are
`nan`, `inf` and `-inf`. -/
def fixedText (places : Nat) (x : Float) : String :=
  match Binary.ofFloat x with
  | .nan => "nan"
  | .inf neg => if neg then "-inf" else "inf"
  | .finite neg m q => (if neg then "-" else "") ++ placesText places (scaledRound m q places)

/-- The integer digits of a whole double, or `none` for a double that is not a finite whole
number. Negative zero is the integer zero. -/
def wholeText? (x : Float) : Option String :=
  let b := Binary.ofFloat x
  if b.isWhole then b.trunc?.map toString else none

example : roundHalfEven 5 2 = 2 ∧ roundHalfEven 7 2 = 4 ∧ roundHalfEven 8 3 = 3 := by decide

end CallBasic.Decimal
