import CallBasic.Decimal.Shortest
/-!
# Layouts of shortest digits

How the shortest digits of a double are laid out as text: positionally when the decimal
point falls within a window around the digits, else as one digit, the other digits after a
point, and an exponent. A layout fixes the window, whether a whole number keeps a point and
a zero, the exponent's sign and least width, and the spellings of the values that are not
finite.
-/

namespace CallBasic.Decimal

/-- The decisions of a layout of shortest digits. The point position `point` counts the
digits before the decimal point (so `0.05` has the digit `5` and the point `-1`). -/
structure Layout where
  /-- Positional layout is used when `minPoint ≤ point ≤ maxPoint`. -/
  minPoint : Int
  maxPoint : Int
  /-- A positional whole number ends in `.0`. -/
  pointZero : Bool
  /-- The least number of exponent digits. -/
  expWidth : Nat
  /-- A positive exponent shows a `+`. -/
  expPlus : Bool
  nanText : String
  infText : String

/-- The decimal digits of `n`, at least `width` of them. -/
def padDigits (width n : Nat) : String :=
  let ds := Nat.toDigits 10 n
  String.ofList (List.replicate (width - ds.length) '0' ++ ds)

/-- The positional text of digits `ds` with the decimal point after `point` of them. -/
def positional (pointZero : Bool) (ds : List Char) (point : Int) : String :=
  if point ≤ 0 then
    "0." ++ String.ofList (List.replicate (-point).toNat '0' ++ ds)
  else if point.toNat < ds.length then
    String.ofList (ds.take point.toNat) ++ "." ++ String.ofList (ds.drop point.toNat)
  else
    String.ofList (ds ++ List.replicate (point.toNat - ds.length) '0') ++
      (if pointZero then ".0" else "")

/-- The exponent text of digits `ds` whose decimal point comes after `point` of them. -/
def Layout.scientific (l : Layout) (ds : List Char) (point : Int) : String :=
  let e := point - 1
  let mant := match ds with
    | [] => "0"
    | [d] => String.ofList [d]
    | d :: rest => String.ofList (d :: '.' :: rest)
  let sign := if e < 0 then "-" else if l.expPlus then "+" else ""
  mant ++ "e" ++ sign ++ padDigits l.expWidth e.natAbs

/-- The text of a positive or zero value's shortest digits. -/
def Layout.digitsText (l : Layout) (d : Digits) : String :=
  let ds := Nat.toDigits 10 d.sig
  if l.minPoint ≤ d.point && d.point ≤ l.maxPoint then positional l.pointZero ds d.point
  else l.scientific ds d.point

/-- The text of a double in a layout. Zero keeps its sign. -/
def Layout.render (l : Layout) (x : Float) : String :=
  match Binary.ofFloat x with
  | .nan => l.nanText
  | .inf neg => (if neg then "-" else "") ++ l.infText
  | .finite neg m q =>
    let body := if m == 0 then positional l.pointZero ['0'] 1 else l.digitsText (shortest m q)
    (if neg then "-" else "") ++ body

end CallBasic.Decimal
